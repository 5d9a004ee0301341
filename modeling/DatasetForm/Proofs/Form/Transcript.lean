import DatasetForm.Proofs.Form.SideBySide

/-!
All that can be learned of a form from outside: what is seen of it, and what is heard, answered and seen when
steps are taken with it (`transcript`). Forms that agree on their fields, on the checks that wait and, but for
raising, on their listeners have the same transcripts (`Indistinct.looksLike`).
-/

set_option autoImplicit false
set_option relaxedAutoImplicit false

namespace DatasetForm

/-- What is seen of a form: its fields in order, each with whether it waits, and what is counted. -/
structure Sight where
  fields : List (String × FieldState × Bool)
  invalidCount : Nat
  touchedCount : Nat
  canSubmit : Bool

/-- What is seen of a form at first and, for each step, what is heard and answered and what is seen from then on. -/
inductive Transcript
  | done (sight : Sight)
  | step (sight : Sight) (heard : List FormEvent) (answer : Except Failure FormAnswer) (rest : Transcript)

@[simp] theorem Listener.calmed_calmed (listener : Listener) : listener.calmed.calmed = listener.calmed := by
  obtain ⟨id, reaction⟩ := listener
  cases reaction <;> rfl

/-- The step, where a listener that raises is subscribed as one that records. -/
def FormStep.calmed : FormStep → FormStep
  | .subscribe listener => .subscribe listener.calmed
  | step => step

namespace Form

def sight (form : Form) : Sight where
  fields := form.fields.map fun (field, state) => (field, state, form.isPending field)
  invalidCount := form.invalidCount
  touchedCount := form.touchedCount
  canSubmit := form.canSubmit

/-- What a run of the form gives. -/
def transcript (form : Form) : List FormStep → Transcript
  | [] => .done form.sight
  | step :: steps =>
    let (next, heard, answer) := form.perform step
    .step form.sight heard answer (next.transcript steps)

/-- Whatever steps are taken, the forms give the same. -/
def LooksLike (form other : Form) : Prop :=
  ∀ steps, form.transcript steps = other.transcript steps

/-- Forms that agree on all fields, on all checks that wait and on the time. -/
structure Indistinct (form other : Form) : Prop extends Matches (fun _ => true) form other where
  inStep : form.InStep
  inStep' : other.InStep

/-- Forms in step that agree on all that counts; the numbers of their calls do not. -/
theorem InStep.indistinct {form other : Form} (inStep : form.InStep) (inStep' : other.InStep)
    (fields : form.fields = other.fields)
    (listeners : form.listeners.map Listener.calmed = other.listeners.map Listener.calmed)
    (hasClock : form.hasClock = other.hasClock) (now : form.agenda.now = other.agenda.now)
    (calls : form.agenda.calls.map Call.unnumbered = other.agenda.calls.map Call.unnumbered) :
    Indistinct form other := by
  refine ⟨⟨⟨⟨?_, listeners⟩, hasClock, ?_⟩, now⟩, inStep, inStep'⟩
  · rw [fields]
  · rw [plan, plan, List.filter_eq_self.mpr fun _ _ => rfl, List.filter_eq_self.mpr fun _ _ => rfl, calls]

namespace Indistinct

variable {form other : Form} (same : Indistinct form other)
include same

theorem fields_eq : form.fields = other.fields := by
  have kept := same.fields
  rwa [List.filter_eq_self.mpr fun _ _ => rfl, List.filter_eq_self.mpr fun _ _ => rfl] at kept

theorem sight_eq : form.sight = other.sight := by
  have fields := same.fields_eq
  have states : form.state = other.state := by
    funext field
    rw [state, state, fields]
  have pending : form.isPending = other.isPending := by
    funext field
    exact same.isPending same.inStep same.inStep' rfl
  simp only [sight, canSubmit, invalidCount, touchedCount, hasError, states, fields, pending]

theorem validate (pass : Pass) (isImmediate : Bool) :
    Indistinct (form.validate pass isImmediate).1 (other.validate pass isImmediate).1 ∧
      (form.validate pass isImmediate).2 = (other.validate pass isImmediate).2 := by
  obtain ⟨forms, answers⟩ := same.toMatches.validate same.inStep same.inStep' rfl isImmediate
  exact ⟨⟨forms, same.inStep.validate pass isImmediate, same.inStep'.validate pass isImmediate⟩, answers⟩

theorem reset (field : String) : Indistinct (form.reset field) (other.reset field) :=
  ⟨same.toMatches.reset same.inStep same.inStep' field, same.inStep.reset field, same.inStep'.reset field⟩

theorem validateAll (isImmediate : Bool) (passes : List Pass) :
    Indistinct (form.validateAll isImmediate passes).1 (other.validateAll isImmediate passes).1 ∧
      (form.validateAll isImmediate passes).2 = (other.validateAll isImmediate passes).2 := by
  induction passes generalizing form other with
  | nil => exact ⟨same, rfl⟩
  | cons pass passes ih =>
    obtain ⟨first, answers⟩ := same.validate pass isImmediate
    rw [Form.validateAll, Form.validateAll]
    generalize form.validate pass isImmediate = answer at first answers ⊢
    generalize other.validate pass isImmediate = answer' at first answers ⊢
    obtain ⟨next, heard, result⟩ := answer
    obtain ⟨next', heard', result'⟩ := answer'
    cases answers
    cases result with
    | error failure => exact ⟨first, rfl⟩
    | ok outcome =>
      obtain ⟨forms, others⟩ := ih first
      refine ⟨forms, ?_⟩
      simp only [others]

theorem sweep (stem : String) (count : Nat) (fields : List String) :
    Indistinct (Form.sweep stem count form fields).1 (Form.sweep stem count other fields).1 ∧
      (Form.sweep stem count form fields).2 = (Form.sweep stem count other fields).2 := by
  induction fields generalizing form other with
  | nil => exact ⟨same, rfl⟩
  | cons field fields ih =>
    rw [Form.sweep, Form.sweep]
    cases isStaleRow stem count field with
    | error failure => exact ⟨same, rfl⟩
    | ok stale =>
      cases stale with
      | true => exact ih (same.reset field)
      | false => exact ih same

theorem validateTitles (stem : String) (settings : Settings) (rows : List TitleRow) (isImmediate : Bool) :
    Indistinct (form.validateTitles stem settings rows isImmediate).1
        (other.validateTitles stem settings rows isImmediate).1 ∧
      (form.validateTitles stem settings rows isImmediate).2 =
        (other.validateTitles stem settings rows isImmediate).2 := by
  obtain ⟨checked, answers⟩ := same.validateAll isImmediate (titlePasses stem settings rows)
  rw [Form.validateTitles, Form.validateTitles]
  generalize form.validateAll isImmediate _ = answer at checked answers ⊢
  generalize other.validateAll isImmediate _ = answer' at checked answers ⊢
  obtain ⟨next, heard, result⟩ := answer
  obtain ⟨next', heard', result'⟩ := answer'
  cases answers
  cases result with
  | error failure => exact ⟨checked, rfl⟩
  | ok outcomes =>
    obtain ⟨swept, results⟩ := checked.sweep stem rows.length (next.fields.map (·.1))
    have fields : next.fields = next'.fields := checked.fields_eq
    rw [fields] at swept results
    simp only [fields, results]
    exact ⟨swept, trivial⟩

/-- Every step is answered alike, and leaves the forms as alike as before. -/
theorem perform (step : FormStep) :
    Indistinct (form.perform step).1 (other.perform step).1 ∧ (form.perform step).2 = (other.perform step).2 := by
  have forms := same.inStep.perform step
  have others := same.inStep'.perform step
  have waits (form : Form) : form.WaitsForKept fun _ => true := fun _ _ => rfl
  by_cases single : ∃ stem settings rows isImmediate, step = .titles stem settings rows isImmediate
  · obtain ⟨stem, settings, rows, isImmediate, rfl⟩ := single
    obtain ⟨checked, answers⟩ := same.validateTitles stem settings rows isImmediate
    refine ⟨checked, ?_⟩
    simp only [Form.perform, answers]
  · have plain : ∀ stem settings rows isImmediate, step ≠ .titles stem settings rows isImmediate :=
      fun stem settings rows isImmediate isTitles => single ⟨stem, settings, rows, isImmediate, isTitles⟩
    obtain ⟨alike, answers⟩ := same.toMatches.perform same.inStep same.inStep' (waits other) (.inl (waits form))
      plain fun _ _ => rfl
    exact ⟨⟨alike, forms, others⟩, answers (waits form)⟩

/-- No step tells whether the listeners that it subscribes raise. -/
theorem perform_calmed (step : FormStep) :
    Indistinct (form.perform step).1 (other.perform step.calmed).1 ∧
      (form.perform step).2 = (other.perform step.calmed).2 := by
  cases step with
  | subscribe listener =>
    have calm : (form.listeners ++ [listener]).map Listener.calmed =
        (other.listeners ++ [listener.calmed]).map Listener.calmed := by
      simp only [List.map_append, same.listeners, List.map_cons, List.map_nil, Listener.calmed_calmed]
    have listens := same.toMatches.listen calm
    exact ⟨⟨listens, keeps_inStep.listen _ same.inStep, keeps_inStep.listen _ same.inStep'⟩, rfl⟩
  | _ => exact same.perform _

theorem run_calmed (steps : List FormStep) : Indistinct (form.run steps) (other.run (steps.map .calmed)) := by
  induction steps generalizing form other with
  | nil => exact same
  | cons step steps ih => exact ih (same.perform_calmed step).1

theorem looksLike : form.LooksLike other := by
  intro steps
  induction steps generalizing form other with
  | nil => rw [transcript, transcript, same.sight_eq]
  | cons step steps ih =>
    obtain ⟨next, answers⟩ := same.perform step
    simp only [transcript, same.sight_eq, ih next, answers]

end Indistinct

end Form

end DatasetForm
