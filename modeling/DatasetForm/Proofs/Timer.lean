import DatasetForm.Proofs.Number.Rounding
import DatasetForm.Proofs.Value.Order
import DatasetForm.Rule.Basic
import DatasetForm.Timer.Basic

/-!
The intervals that a timer accepts, and how scheduling fails. Only a timer that was disposed of answers
that it was. Delays of a whole number of milliseconds are kept to the microsecond, although they are reckoned
in binary seconds.
-/

set_option autoImplicit false
set_option relaxedAutoImplicit false

namespace DatasetForm

/-- An interval for which a check can be put off: it compares with zero, and past zero it is a delay. -/
def Timer.Accepts (interval : Value) : Prop :=
  interval.compares .lessOrEqual (.int 0) = .ok true ∨
    interval.compares .lessOrEqual (.int 0) = .ok false ∧ ∃ delay, Timer.delayOf interval = .ok delay

private theorem Timer.nearest_ne_disposed (x : Binary64) : Timer.nearest x ≠ .error .disposed := by
  intro failed
  simp only [nearest] at failed
  split at failed
  · cases failed
  · split at failed <;> cases failed

private theorem Timer.thousandth_ne_disposed (v : Value) : Timer.thousandth v ≠ .error .disposed := by
  intro failed
  simp only [thousandth] at failed
  split at failed
  · cases failed
  · split at failed
    · split at failed <;> cases failed
    · cases failed

theorem Timer.delayOf_ne_disposed (interval : Value) : Timer.delayOf interval ≠ .error .disposed := by
  intro failed
  simp only [delayOf] at failed
  split at failed
  next comparing =>
    cases failed
    exact Value.compares_ne_disposed comparing
  next =>
    split at failed
    all_goals
      cases divided : thousandth _ with
      | error failure =>
        rw [divided] at failed
        cases failed
        exact thousandth_ne_disposed _ divided
      | ok seconds =>
        rw [divided] at failed
        exact nearest_ne_disposed _ failed

private theorem Rule.longestAfter_ne_disposed (best : Value) (rules : List Rule) :
    Rule.longestAfter best rules ≠ .error .disposed := by
  induction rules generalizing best with
  | nil => simp [longestAfter]
  | cons rule rules ih =>
    intro failed
    rw [longestAfter] at failed
    split at failed
    next comparing =>
      cases failed
      exact Value.compares_ne_disposed comparing
    · exact ih _ failed
    · exact ih _ failed

theorem Rule.longestQuietPeriod_ne_disposed (rules : List Rule) :
    Rule.longestQuietPeriod rules ≠ .error .disposed := by
  cases rules with
  | nil => simp [longestQuietPeriod]
  | cons rule rules => exact longestAfter_ne_disposed _ rules

namespace Timer

private theorem thousandth_int {n : Nat} (positive : 0 < n) (small : n ≤ 10 ^ 12) :
    ∃ significand exponent, thousandth (.int n) = .ok (.finite false significand exponent) ∧
      |(significand : ℚ) * 2 ^ exponent - n / 1000| ≤ n / 1000 / 2 ^ 52 := by
  have tall : ((1000 : Nat).log2 : Int) ≤ n.log2 + 1022 := by
    have : (1000 : Nat).log2 = 9 := by decide +kernel
    omega
  have short : (n.log2 : Int) ≤ (1000 : Nat).log2 + 1000 := by
    have : n.log2 < 41 := (Nat.log2_lt positive.ne').mpr (by omega)
    omega
  obtain ⟨significand, exponent, rounded, error⟩ :=
    Binary64.roundQuotient_error positive (by decide : 0 < 1000) tall short
  refine ⟨significand, exponent, ?_, by exact_mod_cast error⟩
  have natural : ¬ (n : Int) < 0 := by omega
  simp [thousandth, Value.wholeNumber?, Binary64.ofRatio?, natural, rounded]

private theorem million :
    Binary64.roundQuotient false 1000000 1 = .finite false (1000000 * 2 ^ 33) (-33) := by
  decide +kernel

private theorem thousandth_zero :
    (thousandth (.int 0)).bind microseconds = .ok (0 : Nat) := by
  have divided : thousandth (.int 0) = .ok (Binary64.zero false) := by
    simp [thousandth, Value.wholeNumber?, Binary64.ofRatio?, Binary64.roundQuotient, Binary64.zero]
  have multiplied : (Binary64.zero false).mul (.finite false (1000000 * 2 ^ 33) (-33)) =
      Binary64.zero false := by
    simp [Binary64.mul, Binary64.zero, Binary64.quotient, Binary64.roundQuotient]
  have whole : (Binary64.zero false).round? = some ((0 : Nat) : Int) := Binary64.round?_eq (by simp)
  rw [divided, Except.bind, microseconds, million, multiplied, nearest, whole]

/-- A delay of a whole number of milliseconds, up to three decades, is exact. -/
theorem delayOf_int {n : Nat} (small : n ≤ 10 ^ 12) : delayOf (.int n) = .ok (1000 * n : Nat) := by
  have natural : ¬ (n : Int) < 0 := by omega
  have comparing : (Value.int 0).compares .greater (.int n) = .ok false := by simp [natural]
  simp only [delayOf, comparing, Bool.false_eq_true, ↓reduceIte]
  rcases Nat.eq_zero_or_pos n with rfl | positive
  · rw [Nat.mul_zero, Nat.cast_zero]
    exact thousandth_zero
  · obtain ⟨m, e, divided, error⟩ := thousandth_int positive small
    have one : (1 : ℚ) ≤ n := by exact_mod_cast positive
    have bound : (n : ℚ) ≤ 10 ^ 12 := by exact_mod_cast small
    obtain ⟨low, high⟩ := abs_le.mp error
    obtain ⟨m', e', multiplied, error'⟩ := Binary64.mul_error (m := m) (e := e)
      (n := 1000000 * 2 ^ 33) (f := -33) (x := m * 2 ^ e * 1000000) (by push_cast; norm_num)
      (by linarith) (by linarith)
    obtain ⟨low', high'⟩ := abs_le.mp error'
    have near : |(m' : ℚ) * 2 ^ e' - (1000 * n : Nat)| < 1 / 2 := by
      rw [abs_lt]
      push_cast
      constructor <;> linarith
    rw [divided, Except.bind, microseconds, million, multiplied, nearest, Binary64.round?_eq near]

/-- Negative delays count as none. -/
theorem delayOf_negative {delay : Value} (negative : (Value.int 0).compares .greater delay = .ok true) :
    delayOf delay = .ok 0 := by
  simp only [delayOf, negative, if_true]
  exact thousandth_zero

/-- A clock accepts intervals of whole milliseconds, up to three decades. -/
theorem accepts_int {n : Nat} (small : n ≤ 10 ^ 12) : Accepts (.int n) := by
  rw [Accepts, Value.compares_lessOrEqual_int]
  cases decide ((n : Int) ≤ 0) with
  | true => exact .inl rfl
  | false => exact .inr ⟨rfl, _, delayOf_int small⟩

end Timer

end DatasetForm
