import DatasetForm.Value.Order

/-!
Comparisons of values: those of whole numbers, and how comparisons fail.
-/

set_option autoImplicit false
set_option relaxedAutoImplicit false

namespace DatasetForm.Value

theorem compares_int (comparison : Comparison) (a b : Int) :
    (Value.int a).compares comparison (.int b) = .ok (comparison.holds (compare a b)) := rfl

@[simp] theorem compares_less_int (a b : Int) :
    (Value.int a).compares .less (.int b) = .ok (decide (a < b)) := by
  rw [compares_int, Comparison.holds, Except.ok.injEq, Bool.eq_iff_iff, beq_iff_eq, Int.compare_eq_lt,
    decide_eq_true_iff]

@[simp] theorem compares_greater_int (a b : Int) :
    (Value.int a).compares .greater (.int b) = .ok (decide (b < a)) := by
  rw [compares_int, Comparison.holds, Except.ok.injEq, Bool.eq_iff_iff, beq_iff_eq, Int.compare_eq_gt,
    decide_eq_true_iff]

@[simp] theorem compares_lessOrEqual_int (a b : Int) :
    (Value.int a).compares .lessOrEqual (.int b) = .ok (decide (a ≤ b)) := by
  rw [compares_int, Comparison.holds, Except.ok.injEq, Bool.eq_iff_iff, bne_iff_ne, Ne, Int.compare_eq_gt,
    Int.not_lt, decide_eq_true_iff]

/-- Comparing never fails for a timer that was disposed of. -/
theorem compares_ne_disposed {comparison : Comparison} {a b : Value} :
    a.compares comparison b ≠ .error .disposed := by
  intro failed
  simp only [compares] at failed
  split at failed
  · cases failed
  · cases failed
  · split at failed <;> cases failed

/-- What is greater than another is not less than or equal to it. -/
theorem compares_lessOrEqual {a b : Value} (greater : a.compares .greater b = .ok true) :
    a.compares .lessOrEqual b = .ok false := by
  simp only [compares] at greater ⊢
  split at greater
  next order _ =>
    cases order <;> simp_all [Comparison.holds]
  · cases greater
  · split at greater
    next s t _ =>
      simp only [Except.ok.injEq, Comparison.holds, beq_iff_eq] at greater
      simp [Comparison.holds, greater]
    · cases greater

/-- A binary number can be compared with a whole one. -/
theorem compares_float_int (comparison : Comparison) (x : Binary64) (n : Int) :
    ∃ answer, (Value.float x).compares comparison (.int n) = .ok answer := by
  have numbers : compareNumbers? (.float x) (.int n) = some (x.compareInt? n) := rfl
  simp only [compares, numbers]
  cases x.compareInt? n with
  | none => exact ⟨false, rfl⟩
  | some order => exact ⟨comparison.holds order, rfl⟩

theorem compares_less_float_int (x : Binary64) (n : Int) :
    (Value.float x).compares .less (.int n) = .ok (x.compareInt? n == some .lt) := by
  have numbers : compareNumbers? (.float x) (.int n) = some (x.compareInt? n) := rfl
  simp only [compares, numbers]
  cases x.compareInt? n <;> rfl

/-- What is less than a whole number is less than every greater one. -/
theorem compares_less_of_le {share : Value} {shorter longer : Int} (le : shorter ≤ longer)
    (less : share.compares .less (.int shorter) = .ok true) :
    share.compares .less (.int longer) = .ok true := by
  cases share with
  | int n =>
    rw [compares_less_int, Except.ok.injEq, decide_eq_true_iff] at less ⊢
    exact Int.lt_of_lt_of_le less le
  | bool b =>
    have whole : ∀ n, (Value.bool b).compares .less (.int n) =
        (Value.int (if b then 1 else 0)).compares .less (.int n) := fun _ => rfl
    rw [whole, compares_less_int, Except.ok.injEq, decide_eq_true_iff] at less ⊢
    exact Int.lt_of_lt_of_le less le
  | float x =>
    rw [compares_less_float_int, Except.ok.injEq, beq_iff_eq] at less ⊢
    cases x with
    | nan => exact less
    | infinite negative => exact less
    | finite negative significand exponent =>
      simp only [Binary64.compareInt?, Option.some.injEq, Int.compare_eq_lt] at less ⊢
      exact Int.lt_of_lt_of_le less (Int.mul_le_mul_of_nonneg_right le (Int.natCast_nonneg _))
  | _ => cases less

/-- What compares with a whole number is a number. -/
theorem number_of_compares {comparison : Comparison} {n : Int} {v : Value} {answer : Bool}
    (compared : (Value.int n).compares comparison v = .ok answer) :
    (∃ b, v = .bool b) ∨ (∃ m, v = .int m) ∨ ∃ x, v = .float x := by
  cases v with
  | bool b => exact .inl ⟨b, rfl⟩
  | int m => exact .inr (.inl ⟨m, rfl⟩)
  | float x => exact .inr (.inr ⟨x, rfl⟩)
  | _ => cases compared

end DatasetForm.Value
