import DatasetForm.Proofs.Format.Year
import DatasetForm.Proofs.Rule.Evaluate
import DatasetForm.Proofs.Value.Order
import DatasetForm.Proofs.Value.Part
import DatasetForm.Rule.Field

/-!
When the rules of fields that are judged by themselves block: for each list of rules, what the text of a
field has to be like for the list to let it pass.
-/

set_option autoImplicit false
set_option relaxedAutoImplicit false

namespace DatasetForm

@[simp] theorem Verdict.isBlocking_outcome? (verdict : Verdict) :
    Outcome.isBlocking verdict.outcome? = !verdict.isAccepted := by
  cases verdict <;> rfl

theorem Verdict.blocks_of_mem {verdict : Verdict} {outcome : Outcome}
    (found : outcome ∈ verdict.outcome?) : outcome.blocks = true := by
  cases verdict with
  | accepted normal => cases found
  | refused complaint =>
    cases found
    rfl

namespace Rule

variable {value context : Value}

/-- A rule whose check gives a verdict, or fails, never only warns. -/
theorem neverWarns_of_verdict {rule : Rule} {verdict : Value → Value → Except Failure Verdict}
    (check : ∀ value context, rule.check value context = (verdict value context).map Verdict.outcome?) :
    rule.NeverWarns := by
  refine neverWarns_of_check fun value context outcome found => ?_
  rw [check] at found
  cases given : verdict value context with
  | error failure =>
    rw [given] at found
    cases found
  | ok verdict =>
    rw [given] at found
    exact Verdict.blocks_of_mem (Except.ok.inj found)

theorem judge_plain (name : String) (debounce : Value) (check : Value → Option Outcome) :
    (plain name debounce check).judge value context = check value := rfl

theorem neverWarns_required (field : String) : (required field).NeverWarns := by
  intro value context outcome found
  exact Verdict.blocks_of_mem found

theorem neverWarns_maxLength (field : String) (most : Value) : (maxLength field most).NeverWarns :=
  neverWarns_of_verdict fun _ _ => rfl

theorem judge_required (field : String) :
    (required field).judge value context =
      if value.isBlank then some (.error (.required field)) else none := by
  rw [required, judge_plain, Format.checkRequired]
  cases value.isBlank <;> rfl

@[simp] theorem isBlocking_required (field : String) :
    Outcome.isBlocking ((required field).judge value context) = value.isBlank := by
  rw [judge_required]
  cases value.isBlank <;> rfl

/-- A field that may be blank blocks when it is not, and its check refuses it. -/
@[simp] theorem isBlocking_optional (name : String) (debounce : Value) (check : Value → Verdict) :
    Outcome.isBlocking ((optional name debounce check).judge value context) =
      (!value.isBlank && !(check value).isAccepted) := by
  rw [optional, judge_plain]
  cases value.isBlank <;> simp

theorem judge_maxLength (field : String) (most : Int) :
    (maxLength field (.int most)).judge value context =
      if most < Format.textLength value then
        some (.error (.tooLong field (.int most) (Format.textLength value))) else none := by
  have exceeds : Format.exceedsLimit (Format.textLength value) .greater (.int most) =
      .ok (decide (most < Format.textLength value)) :=
    Value.compares_greater_int ..
  simp only [judge, maxLength, Format.checkLength, exceeds]
  by_cases long : most < Format.textLength value <;>
    simp [Format.exceedsLimit, long, Except.map, Verdict.outcome?]

@[simp] theorem isBlocking_maxLength (field : String) (most : Int) :
    Outcome.isBlocking ((maxLength field (.int most)).judge value context) =
      decide (most < Format.textLength value) := by
  rw [judge_maxLength]
  by_cases long : most < Format.textLength value <;> simp [long]

/-- Near a limit that has a binary number there is a warning at most. -/
theorem isBlocking_nearLimit (field : String) {most : Int} (binary : (Binary64.ofInt? most).isSome)
    (ratio : Binary64) :
    Outcome.isBlocking ((nearLimit field (.int most) (.float ratio)).judge value context) = false := by
  obtain ⟨limit, isLimit⟩ := Option.isSome_iff_exists.mp binary
  obtain ⟨above, compared⟩ := Value.compares_float_int .less (limit.mul ratio)
    (Format.textLength value.orEmpty)
  have share : (Value.int most).times (.float ratio) = .ok (.float (limit.mul ratio)) := by
    simp [Value.times, Value.toBinary, isLimit, Except.map]
  have near : ∃ near, isNearLimit (.int most) (.float ratio) (Format.textLength value.orEmpty) =
      .ok near := by
    rw [isNearLimit, share]
    simp only [bind, Except.bind, compared]
    cases above with
    | true => exact ⟨_, Value.compares_lessOrEqual_int ..⟩
    | false => exact ⟨false, rfl⟩
  obtain ⟨near, found⟩ := near
  simp only [judge, nearLimit, found, Except.map]
  cases near <;> rfl

end Rule

namespace Record

/-- A part is left out, or its check accepts it. -/
def IsOptional (check : Value → Verdict) (part : Option String) : Prop :=
  trimmedPart part = "" ∨ (check (textValue part)).isAccepted = true

/-- The part is four decimal digits that write a year between the bounds; when there is no last year it is
the next one. -/
def HasYear (limits : Limits) (today : Date) (part : Option String) : Prop :=
  ∃ year : Nat, (trimmedPart part).length = 4 ∧ Text.Writes (trimmedPart part).toList year ∧
    limits.minYear ≤ year ∧ year ≤ limits.maxYear.getD (today.year + 1)

/-- The part has between one and `most` characters, blanks at its ends aside. -/
def HasLength (most : Int) (part : Option String) : Prop :=
  1 ≤ (trimmedPart part).length ∧ (trimmedPart part).length ≤ most

end Record

namespace Rule

open Record (IsOptional HasYear HasLength textValue textValue_eq)

theorem evaluate_optional (name : String) (debounce : Value) (check : Value → Verdict)
    (part : Option String) :
    Outcome.isBlocking (evaluate [optional name debounce check] (textValue part) .null) = false ↔
      IsOptional check part := by
  rw [isBlocking_evaluate_singleton, isBlocking_optional, textValue_eq, DateRow.isBlank_partValue,
    IsOptional, textValue_eq]
  cases check (DateRow.partValue part) <;> simp [Verdict.isAccepted]

private theorem checkYear_part (limits : Limits) (today : Date) (part : Option String) :
    ∃ verdict, Format.checkYear limits.settings.minYear limits.settings.maxYear today
        (DateRow.partValue part) = .ok verdict ∧
      (verdict.isAccepted = true ↔ HasYear limits today part) := by
  have last : Format.lastYear limits.settings.maxYear today =
      .int (limits.maxYear.getD (today.year + 1)) := by
    rw [Limits.settings]
    cases limits.maxYear <;> rfl
  have reads : Format.checkYear limits.settings.minYear limits.settings.maxYear today
      (DateRow.partValue part) =
        (Format.readYear? (trimmedPart part)).elim (.ok (.refused .yearForm)) fun year =>
          Format.checkYearRange (.int limits.minYear)
            (.int (limits.maxYear.getD (today.year + 1))) year := by
    rw [← last, ← DateRow.trimmedText_partValue]
    cases part <;> simp only [DateRow.partValue, Format.checkYear] <;> split <;> simp [*, Limits.settings]
  rw [reads]
  cases read : Format.readYear? (trimmedPart part) with
  | none =>
    refine ⟨_, rfl, ?_⟩
    constructor
    · intro accepted
      cases accepted
    · rintro ⟨year, four, writes, -⟩
      rw [(Format.readYear?_eq_some_iff ..).mpr ⟨four, writes⟩] at read
      cases read
  | some year =>
    obtain ⟨four, writes⟩ := (Format.readYear?_eq_some_iff ..).mp read
    refine ⟨_, Format.checkYearRange_int .., ?_⟩
    split
    next inside => exact iff_of_true rfl ⟨year, four, writes, inside⟩
    next outside =>
      constructor
      · intro accepted
        cases accepted
      · rintro ⟨other, -, writes', bounds⟩
        exact absurd (writes.unique writes' ▸ bounds) outside

theorem evaluate_yearRules (limits : Limits) (today : Date) (part : Option String) :
    Outcome.isBlocking (evaluate (yearRules limits.settings today) (textValue part) .null) = false ↔
      HasYear limits today part := by
  obtain ⟨verdict, checked, accepted⟩ := checkYear_part limits today part
  rw [yearRules, isBlocking_evaluate_cons (neverWarns_required _), isBlocking_required,
    isBlocking_evaluate_singleton, textValue_eq, DateRow.isBlank_partValue]
  simp only [judge, checked, Except.map, Verdict.isBlocking_outcome?, Bool.or_eq_false_iff,
    Bool.not_eq_false', accepted]
  refine ⟨And.right, fun year => ⟨?_, year⟩⟩
  obtain ⟨-, four, -⟩ := year
  simp only [beq_eq_false_iff_ne]
  intro blank
  simp [blank] at four

theorem evaluate_abstractRules (limits : Limits) (part : Option String)
    (binary : (Binary64.ofInt? limits.abstractMaxLength).isSome) :
    Outcome.isBlocking (evaluate (abstractRules limits.settings) (textValue part) .null) = false ↔
      HasLength limits.abstractMaxLength part := by
  rw [abstractRules, isBlocking_evaluate_cons (neverWarns_required _),
    isBlocking_evaluate_cons (neverWarns_maxLength _ _), isBlocking_evaluate_singleton, isBlocking_required]
  simp only [Limits.settings, isBlocking_nearLimit _ binary, isBlocking_maxLength, Bool.or_false,
    Bool.or_eq_false_iff, decide_eq_false_iff_not, Int.not_lt, textValue_eq, DateRow.isBlank_partValue,
    Format.textLength, DateRow.trimmedText_partValue, HasLength, beq_eq_false_iff_ne]
  rw [Nat.one_le_iff_ne_zero, Ne, Ne, String.length_eq_zero_iff]

end Rule

end DatasetForm
