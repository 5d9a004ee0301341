import DatasetForm.Proofs.Form.TitleRows

/-!
Runs in which only checks of title rows bring fields into use whose names begin like those of rows. All these
fields are rows then, whatever listeners do and whichever checks fail (`OnlyRows.run`).
-/

set_option autoImplicit false
set_option relaxedAutoImplicit false

namespace DatasetForm

/-- The step is a check of the title rows named by the stem. -/
def FormStep.ChecksRows (stem : String) : FormStep → Prop
  | .titles other _ _ _ => other = stem
  | _ => False

/-- The names of the rows that the step checks are not too long to be read. -/
def FormStep.HasReadableRows : FormStep → Prop
  | .titles _ _ rows _ => rows.length ≤ 10 ^ Failure.digitLimit
  | _ => True

namespace Form

/-- No step but a check of the rows brings a field into use whose name begins with the stem and a dot. -/
def OnlyTitlesCreate (stem : String) : Form → List FormStep → Prop
  | _, [] => True
  | form, step :: steps =>
    (step.ChecksRows stem ∨ ∀ field, BeginsWith stem field → form.fields.lookup field = none →
      (form.perform step).1.fields.lookup field = none) ∧
    OnlyTitlesCreate stem (form.perform step).1 steps

/-- All fields in use whose names begin with the stem and a dot are rows whose names can be read. -/
def OnlyRows (stem : String) (form : Form) : Prop :=
  ∀ field, form.fields.lookup field ≠ none → BeginsWith stem field →
    ∃ index < 10 ^ Failure.digitLimit, field = rowField stem index

section Unused

variable {form : Form} {field : String}

private theorem InStep.lookup_validate_other (inStep : form.InStep) {pass : Pass} (isImmediate : Bool)
    (other : pass.field ≠ field) :
    (form.validate pass isImmediate).1.fields.lookup field = form.fields.lookup field := by
  have outcome := inStep.validate_cases pass isImmediate
  generalize form.validate pass isImmediate = answer at outcome ⊢
  cases outcome with
  | unread => rfl
  | refused _ _ _ _ strikes => rw [strikes.fields]
  | atOnce _ _ strikes => rw [complete_lookup, if_neg other, strikes.fields]
  | putOff _ _ _ _ strikes => rw [putOff, update, lookup_assign, if_neg (Ne.symm other), strikes.fields]

private theorem InStep.lookup_validateAll_none (inStep : form.InStep) (isImmediate : Bool)
    {passes : List Pass} (others : ∀ pass ∈ passes, pass.field ≠ field)
    (unused : form.fields.lookup field = none) :
    (form.validateAll isImmediate passes).1.fields.lookup field = none := by
  apply inStep.validateAll_preserves isImmediate (P := fun next => next.fields.lookup field = none)
  · intro pass member next inStep' unused'
    rw [inStep'.lookup_validate_other isImmediate (others pass member), unused']
  · exact unused

private theorem lookup_sweep_none (stem : String) (count : Nat) (fields : List String)
    (unused : form.fields.lookup field = none) :
    (sweep stem count form fields).1.fields.lookup field = none := by
  induction fields generalizing form with
  | nil => exact unused
  | cons name fields ih =>
    rw [sweep]
    split
    · exact unused
    next stale _ =>
      apply ih
      cases stale with
      | false => exact unused
      | true =>
        change (form.reset name).fields.lookup field = none
        rw [reset, lookup_erase, unused, ite_self]

private theorem InStep.lookup_validateTitles_none (inStep : form.InStep) {stem : String} {settings : Settings}
    {rows : List TitleRow} (isImmediate : Bool) (apart : ∀ index < rows.length, field ≠ rowField stem index)
    (unused : form.fields.lookup field = none) :
    (form.validateTitles stem settings rows isImmediate).1.fields.lookup field = none := by
  have others : ∀ pass ∈ titlePasses stem settings rows, pass.field ≠ field := by
    intro pass member own
    obtain ⟨index, row, found, rfl⟩ := mem_titlePasses.mp member
    obtain ⟨bound, -⟩ := List.getElem?_eq_some_iff.mp found
    exact apart index bound own.symm
  have unused' := inStep.lookup_validateAll_none isImmediate others unused
  obtain ⟨next, events, failure, result, titles⟩ | ⟨next, events, checked, result, titles⟩ :=
    form.validateTitles_cases stem settings rows isImmediate
  · rw [result] at unused'
    rw [titles]
    exact unused'
  · rw [result] at unused'
    rw [titles]
    exact lookup_sweep_none stem rows.length _ unused'

end Unused

section OnlyRows

variable {stem : String} {form : Form}

theorem OnlyRows.isReadable (only : form.OnlyRows stem) {field : String}
    (used : form.fields.lookup field ≠ none) : IsReadable stem field := by
  intro rest name
  obtain ⟨index, bound, rfl⟩ := only field used ⟨rest, name⟩
  exact (isReadable_rowField stem index).mpr bound rest name

private theorem OnlyRows.titles (only : form.OnlyRows stem) (inStep : form.InStep) {settings : Settings}
    {rows : List TitleRow} {isImmediate : Bool} (few : rows.length ≤ 10 ^ Failure.digitLimit) :
    (form.validateTitles stem settings rows isImmediate).1.OnlyRows stem := by
  intro field used begins
  by_contra strange
  apply used
  apply inStep.lookup_validateTitles_none
  · rintro index bound rfl
    exact strange ⟨index, Nat.lt_of_lt_of_le bound few, rfl⟩
  · by_contra old
    exact strange (only field old begins)

private theorem OnlyRows.perform (only : form.OnlyRows stem) (inStep : form.InStep) {step : FormStep}
    (fits : step.HasReadableRows)
    (creates : step.ChecksRows stem ∨ ∀ field, BeginsWith stem field → form.fields.lookup field = none →
      (form.perform step).1.fields.lookup field = none) :
    (form.perform step).1.OnlyRows stem := by
  -- a check of the rows may bring in rows, and no other step brings in a field whose name begins like theirs
  rcases creates with rows | keeps
  · cases step with
    | titles other settings rows isImmediate =>
      cases rows
      exact only.titles inStep fits
    | _ => exact rows.elim
  · intro field used begins
    apply only field _ begins
    intro unused
    exact used (keeps field begins unused)

theorem OnlyRows.run (only : form.OnlyRows stem) (inStep : form.InStep) {steps : List FormStep}
    (creates : OnlyTitlesCreate stem form steps) (fit : ∀ step ∈ steps, step.HasReadableRows) :
    (form.run steps).OnlyRows stem := by
  induction steps generalizing form with
  | nil => exact only
  | cons step steps ih =>
    obtain ⟨first, others⟩ := creates
    obtain ⟨fits, fit'⟩ := List.forall_mem_cons.mp fit
    exact ih (only.perform inStep fits first) (inStep.perform step) others fit'

theorem opened_onlyRows (stem : String) (hasClock : Bool) (now : Int) :
    (opened hasClock now).OnlyRows stem := fun _ used => absurd rfl used

end OnlyRows

end Form

end DatasetForm
