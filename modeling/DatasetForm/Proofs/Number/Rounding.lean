import DatasetForm.Number.Binary64
import Mathlib.Algebra.Order.Field.Power
import Mathlib.Data.Rat.Cast.Order
import Mathlib.Tactic.FieldSimp
import Mathlib.Tactic.Linarith
import Mathlib.Tactic.Positivity
import Mathlib.Tactic.Ring
import Mathlib.Tactic.GCongr

/-!
How far rounding goes astray. A whole number made of a quotient is at most a half away from it, and the binary
number nearest to a quotient at most one part in `2 ^ 52`.
-/

set_option autoImplicit false
set_option relaxedAutoImplicit false

namespace DatasetForm.Binary64

private theorem twoTo_cast (n : Nat) : ((twoTo n : Nat) : ℚ) = 2 ^ n := by
  rw [show twoTo n = 2 ^ n from rfl]
  push_cast
  rfl

private theorem twoTo_toNat (exponent : Int) :
    ((twoTo exponent.toNat : Nat) : ℚ) / (twoTo (-exponent).toNat : Nat) = 2 ^ exponent := by
  obtain ⟨n, rfl | rfl⟩ := exponent.eq_nat_or_neg
  · simp [twoTo_cast]
  · simp [twoTo_cast]

/-- A quotient has the value that it stands for. -/
theorem quotient_value (significand : Nat) (exponent : Int) :
    ((quotient significand exponent).1 : ℚ) / (quotient significand exponent).2 =
      significand * 2 ^ exponent := by
  rw [quotient, ← twoTo_toNat]
  push_cast
  ring

private theorem scaled_value (p q : Nat) (exponent : Int) :
    ((scaled p q exponent).1 : ℚ) / (scaled p q exponent).2 = p / q / 2 ^ exponent := by
  rw [scaled, ← twoTo_toNat]
  push_cast
  field_simp

private theorem scaled_positive {p q : Nat} (positive : 0 < q) (exponent : Int) :
    0 < (scaled p q exponent).2 :=
  Nat.mul_pos positive (Nat.pow_pos (by decide))

theorem roundHalfEven_error {p q : Nat} (positive : 0 < q) :
    |(roundHalfEven p q : ℚ) - p / q| ≤ 1 / 2 := by
  have whole := Nat.div_add_mod p q
  have rest := Nat.mod_lt p positive
  have bounds : 2 * p ≤ 2 * (q * roundHalfEven p q) + q ∧ 2 * (q * roundHalfEven p q) ≤ 2 * p + q := by
    simp only [roundHalfEven]
    split
    next down =>
      simp only [Bool.or_eq_true, decide_eq_true_eq, Bool.and_eq_true, beq_iff_eq] at down
      omega
    next up =>
      simp only [Bool.or_eq_true, decide_eq_true_eq, Bool.and_eq_true, beq_iff_eq] at up
      rw [Nat.mul_add]
      omega
  have q0 : (0 : ℚ) < q := by exact_mod_cast positive
  have low : (2 : ℚ) * p ≤ 2 * (q * roundHalfEven p q) + q := by exact_mod_cast bounds.1
  have high : (2 : ℚ) * (q * roundHalfEven p q) ≤ 2 * p + q := by exact_mod_cast bounds.2
  rw [abs_le]
  constructor
  · rw [neg_le_sub_iff_le_add, div_le_iff₀ q0]
    linarith
  · rw [sub_le_iff_le_add, ← sub_le_iff_le_add', le_div_iff₀ q0]
    linarith

/-- A quotient less than a half away from a whole number is rounded to it. -/
theorem roundHalfEven_eq {p q n : Nat} (positive : 0 < q) (near : |(p : ℚ) / q - n| < 1 / 2) :
    roundHalfEven p q = n := by
  have error := abs_le.mp (roundHalfEven_error (p := p) positive)
  have close := abs_lt.mp near
  have low : (roundHalfEven p q : ℚ) < n + 1 := by linarith [error.2, close.2]
  have high : (n : ℚ) < roundHalfEven p q + 1 := by linarith [error.1, close.1]
  have lowNat : roundHalfEven p q < n + 1 := by exact_mod_cast low
  have highNat : n < roundHalfEven p q + 1 := by exact_mod_cast high
  omega

private theorem fittingExponent_le {p q : Nat} (tall : (q.log2 : Int) ≤ p.log2 + 1022) :
    fittingExponent p q ≤ (p.log2 : Int) - q.log2 - 52 := by
  simp only [fittingExponent]
  split <;> omega

/-- The half of the last place is one part in `2 ^ 52` at most. -/
private theorem half_place_le {p q : Nat} (p0 : 0 < p) (q0 : 0 < q)
    (tall : (q.log2 : Int) ≤ p.log2 + 1022) :
    (2 : ℚ) ^ fittingExponent p q / 2 ≤ p / q / 2 ^ 52 := by
  have low : (2 : ℚ) ^ p.log2 ≤ p := by exact_mod_cast Nat.log2_self_le p0.ne'
  have high : (q : ℚ) ≤ 2 ^ (q.log2 + 1) := by exact_mod_cast Nat.lt_log2_self.le
  have qPositive : (0 : ℚ) < q := by exact_mod_cast q0
  calc
    (2 : ℚ) ^ fittingExponent p q / 2 ≤ 2 ^ ((p.log2 : Int) - q.log2 - 52) / 2 := by
      have := zpow_le_zpow_right₀ (a := (2 : ℚ)) (by norm_num) (fittingExponent_le tall)
      linarith
    _ = 2 ^ p.log2 / 2 ^ (q.log2 + 1) / 2 ^ 52 := by
      rw [zpow_sub₀ (by norm_num), zpow_sub₀ (by norm_num), zpow_natCast, zpow_natCast, pow_succ]
      norm_num
      ring
    _ ≤ p / q / 2 ^ 52 := by
      gcongr

theorem roundQuotient_error {p q : Nat} (p0 : 0 < p) (q0 : 0 < q)
    (tall : (q.log2 : Int) ≤ p.log2 + 1022) (short : (p.log2 : Int) ≤ q.log2 + 1000) :
    ∃ significand exponent, roundQuotient false p q = .finite false significand exponent ∧
      |(significand : ℚ) * 2 ^ exponent - p / q| ≤ p / q / 2 ^ 52 := by
  have fits := fittingExponent_le tall
  have place : (0 : ℚ) < 2 ^ fittingExponent p q := by positivity
  have error : |(roundHalfEven (scaled p q (fittingExponent p q)).1
      (scaled p q (fittingExponent p q)).2 : ℚ) * 2 ^ fittingExponent p q - p / q| ≤ p / q / 2 ^ 52 := by
    have half := roundHalfEven_error (p := (scaled p q (fittingExponent p q)).1)
      (scaled_positive (p := p) q0 (fittingExponent p q))
    rw [scaled_value] at half
    have unscaled : (p : ℚ) / q = p / q / 2 ^ fittingExponent p q * 2 ^ fittingExponent p q := by
      rw [div_mul_cancel₀ _ place.ne']
    rw [unscaled, ← sub_mul, abs_mul, abs_of_pos place, ← unscaled]
    have bound := half_place_le p0 q0 tall
    nlinarith [mul_le_mul_of_nonneg_right half place.le]
  have nonzero : (p == 0) = false := by simpa using p0.ne'
  have finite : ¬ fittingExponent p q + 1 > 971 := by omega
  have finite' : ¬ fittingExponent p q > 971 := by omega
  simp only [roundQuotient, nonzero, Bool.false_eq_true, ↓reduceIte, finite, finite']
  split
  next full =>
    refine ⟨_, _, rfl, ?_⟩
    rw [beq_iff_eq.mp full, twoTo_cast] at error
    rw [twoTo_cast, zpow_add_one₀ (by norm_num)]
    convert error using 2
    ring
  next => exact ⟨_, _, rfl, error⟩

theorem quotient_positive (significand : Nat) (exponent : Int) :
    0 < (quotient significand exponent).2 :=
  Nat.pow_pos (by decide)

/-- A product of positive numbers between 1 and `2 ^ 51` is off by one part in `2 ^ 52` at most. -/
theorem mul_error {m n : Nat} {e f : Int} {x : ℚ} (product : (m : ℚ) * 2 ^ e * (n * 2 ^ f) = x)
    (large : 1 ≤ x) (small : x ≤ 2 ^ 51) :
    ∃ significand exponent, (finite false m e).mul (finite false n f) =
        .finite false significand exponent ∧
      |(significand : ℚ) * 2 ^ exponent - x| ≤ x / 2 ^ 52 := by
  have value : ((quotient (m * n) (e + f)).1 : ℚ) / (quotient (m * n) (e + f)).2 = x := by
    rw [quotient_value, ← product, zpow_add₀ (by norm_num)]
    push_cast
    ring
  have q0 := quotient_positive (m * n) (e + f)
  change ∃ significand exponent, roundQuotient false (quotient (m * n) (e + f)).1
    (quotient (m * n) (e + f)).2 = .finite false significand exponent ∧ _
  generalize (quotient (m * n) (e + f)).1 = p at value ⊢
  generalize (quotient (m * n) (e + f)).2 = q at value q0 ⊢
  have qPositive : (0 : ℚ) < q := by exact_mod_cast q0
  rw [div_eq_iff qPositive.ne'] at value
  have low : q ≤ p := by
    have : (q : ℚ) ≤ p := by nlinarith
    exact_mod_cast this
  have high : p ≤ 2 ^ 51 * q := by
    have : (p : ℚ) ≤ 2 ^ 51 * q := by nlinarith
    exact_mod_cast this
  have p0 : 0 < p := Nat.lt_of_lt_of_le q0 low
  have tall : q.log2 ≤ p.log2 := (Nat.le_log2 p0.ne').mpr ((Nat.log2_self_le q0.ne').trans low)
  have short : p.log2 < q.log2 + 1 + 51 := by
    rw [Nat.log2_lt p0.ne', pow_add]
    have := Nat.lt_log2_self (n := q)
    omega
  obtain ⟨significand, exponent, rounded, error⟩ :=
    roundQuotient_error p0 q0 (by omega) (by omega)
  rw [value, mul_div_cancel_right₀ _ qPositive.ne'] at error
  exact ⟨significand, exponent, rounded, error⟩

theorem round?_eq {m n : Nat} {e : Int} (near : |(m : ℚ) * 2 ^ e - n| < 1 / 2) :
    (finite false m e).round? = some (n : Int) := by
  rw [← quotient_value] at near
  have whole := roundHalfEven_eq (quotient_positive m e) near
  simp [round?, whole]

end DatasetForm.Binary64
