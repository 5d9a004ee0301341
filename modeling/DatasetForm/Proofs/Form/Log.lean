import DatasetForm.Proofs.Form.Alone
import DatasetForm.Proofs.Form.SingleSteps

/-!
The log of a form: which checks were completed, with which outcomes, and which fields were forgotten, in order.
A check counts as completed once its outcome is kept; what its listeners forget comes after it. The outcome that
a field keeps is the one that the log says last of it (`outcome_run`), and the checks of the log are those of
the history (`verdicts_log`).
-/

set_option autoImplicit false
set_option relaxedAutoImplicit false

namespace DatasetForm

/-- A check of a field was completed, the field was forgotten, or all fields were. -/
inductive Mark
  | checked (field : String) (outcome : Option Outcome)
  | forgotten (field : String)
  | cleared

namespace Mark

def concerns (field : String) : Mark → Bool
  | .checked other _ | .forgotten other => other == field
  | .cleared => true

/-- The outcome that a field keeps when this is said of it. -/
def outcome : Mark → Option Outcome
  | .checked _ outcome => outcome
  | .forgotten _ | .cleared => none

/-- The check that was completed, with its outcome. -/
def verdict? : Mark → Option (String × Option Outcome)
  | .checked field outcome => some (field, outcome)
  | .forgotten _ | .cleared => none

/-- The outcome that a field keeps once something more is said. -/
def after (field : String) (outcome : Option Outcome) (mark : Mark) : Option Outcome :=
  if mark.concerns field then mark.outcome else outcome

variable (field other : String) (before outcome : Option Outcome)

@[simp] theorem after_checked :
    after field before (.checked other outcome) = if other = field then outcome else before := by
  by_cases own : other = field <;> simp [after, concerns, Mark.outcome, own]

@[simp] theorem after_forgotten :
    after field before (.forgotten other) = if other = field then none else before := by
  by_cases own : other = field <;> simp [after, concerns, Mark.outcome, own]

end Mark

/-- What is said last of a field. -/
def lastMark? (field : String) (log : List Mark) : Option Mark :=
  log.reverse.find? (·.concerns field)

theorem foldl_after (field : String) (outcome : Option Outcome) (log : List Mark) :
    log.foldl (Mark.after field) outcome = ((lastMark? field log).map Mark.outcome).getD outcome := by
  rw [lastMark?, List.foldl_eq_foldr_reverse]
  induction log.reverse with
  | nil => rfl
  | cons mark earlier ih =>
    rw [List.foldr_cons, Mark.after, ih, List.find?_cons]
    cases mark.concerns field <;> rfl

/-- The check that was made, with its outcome. -/
def Made.verdict (made : Made) : String × Option Outcome :=
  (made.pass.field, Rule.evaluate made.pass.rules made.pass.value made.pass.context)

namespace Form

/-- A check is completed, and those of its listeners that forget the field do so. -/
def completion (form : Form) (pass : Pass) : List Mark :=
  .checked pass.field (Rule.evaluate pass.rules pass.value pass.context) ::
    (form.listeners.filter (·.reaction == .reset)).map fun _ => .forgotten pass.field

end Form

/-- What becomes of a check that is asked for: it is completed, unless it is refused or put off. -/
def CheckRequest.marks (request : CheckRequest) : List Mark :=
  request.made.flatMap fun made => request.form.completion made.pass

namespace Form

/-- What becomes of the checks that are due up to a time. -/
def marksUntil (target : Int) : (fuel : Nat) → Form → List Mark
  | 0, _ => []
  | fuel + 1, form =>
    match form.agenda.takeDue? target with
    | none => []
    | some (call, agenda) =>
      form.completion call.action ++ marksUntil target fuel (form.fire call.action agenda).1

/-- What is completed and forgotten in a step. -/
def marks (form : Form) : FormStep → List Mark
  | .validate pass isImmediate => CheckRequest.marks ⟨form, pass, isImmediate⟩
  | .titles stem settings rows isImmediate =>
    (requestsFor isImmediate form (titlePasses stem settings rows)).flatMap CheckRequest.marks ++
      (form.droppedRows stem settings rows isImmediate).map .forgotten
  | .reset field => [.forgotten field]
  | .resetAll | .exit | .dispose => [.cleared]
  | .advance duration => marksUntil (form.agenda.now + duration) form.agenda.calls.length form
  | .touch _ | .look _ | .subscribe _ | .unsubscribe _ | .enter => []

/-- What is completed and forgotten in a run. -/
def log (form : Form) : List FormStep → List Mark
  | [] => []
  | step :: steps => form.marks step ++ log (form.perform step).1 steps

theorem log_append (form : Form) (before after : List FormStep) :
    form.log (before ++ after) = form.log before ++ (form.run before).log after := by
  induction before generalizing form with
  | nil => rfl
  | cons step before ih => simp only [List.cons_append, log, ih, run, List.append_assoc]

section Outcome

variable (field : String)

private theorem outcome_heard (listeners : List Listener) (name : String) (entry : Option FieldState)
    (own : name = field) :
    ((listeners.foldl LoneField.heard entry).getD {}).outcome =
      ((listeners.filter (·.reaction == .reset)).map fun _ => Mark.forgotten name).foldl (Mark.after field)
        (entry.getD {}).outcome := by
  induction listeners generalizing entry with
  | nil => rfl
  | cons listener others ih =>
    rw [List.foldl_cons, ih, LoneField.heard]
    cases reaction : listener.reaction with
    | reset => simp [reaction, own]
    | _ => simp [reaction]

private theorem outcome_apart {name : String} (apart : name ≠ field) (listeners : List Listener)
    (outcome : Option Outcome) :
    ((listeners.filter (·.reaction == .reset)).map fun _ => Mark.forgotten name).foldl (Mark.after field)
      outcome = outcome := by
  induction listeners.filter (·.reaction == .reset) with
  | nil => rfl
  | cons listener others ih => simpa [apart] using ih

private theorem outcome_complete (form : Form) (pass : Pass) :
    ((form.complete pass).1.state field).outcome =
      (form.completion pass).foldl (Mark.after field) (form.state field).outcome := by
  rw [state, complete_lookup, completion, List.foldl_cons, Mark.after_checked]
  by_cases own : pass.field = field
  · rw [if_pos own, if_pos own, outcome_heard field _ _ _ own]
    rfl
  · rw [if_neg own, if_neg own, outcome_apart field own]
    rfl

private theorem outcome_struck {name : String} {form struck : Form} (strikes : Struck name form struck)
    (pass : Pass) :
    ((struck.complete pass).1.state field).outcome =
      (form.completion pass).foldl (Mark.after field) (form.state field).outcome := by
  rw [outcome_complete, completion, strikes.listeners, strikes.state]
  rfl

variable {form : Form} (inStep : form.InStep)
include inStep

private theorem InStep.outcome_validate (pass : Pass) (isImmediate : Bool) :
    ((form.validate pass isImmediate).1.state field).outcome =
      (CheckRequest.marks ⟨form, pass, isImmediate⟩).foldl (Mark.after field) (form.state field).outcome := by
  have outcome := inStep.validate_cases pass isImmediate
  rw [CheckRequest.marks]
  generalize form.validate pass isImmediate = answer at outcome ⊢
  cases outcome with
  | unread unread =>
    rw [CheckRequest.made_unread unread]
    rfl
  | refused read _ _ later strikes =>
    -- what waited is struck out, and nothing is completed
    rw [CheckRequest.made_later read later, strikes.state]
    rfl
  | atOnce read due strikes =>
    rw [CheckRequest.made_atOnce read due, List.flatMap_singleton]
    exact outcome_struck field strikes pass
  | putOff read later _ _ strikes =>
    -- the field waits, with the outcome that it had
    rw [CheckRequest.made_later read (by simp [later]), putOff_state, List.flatMap_nil, List.foldl_nil]
    split
    next own => rw [strikes.state, own]
    next => rw [strikes.state]

private theorem InStep.outcome_validateAll (isImmediate : Bool) (passes : List Pass) :
    ((form.validateAll isImmediate passes).1.state field).outcome =
      ((requestsFor isImmediate form passes).flatMap CheckRequest.marks).foldl (Mark.after field)
        (form.state field).outcome := by
  induction passes generalizing form with
  | nil => rfl
  | cons pass passes ih =>
    have first := inStep.outcome_validate field pass isImmediate
    have next := ih (inStep.validate pass isImmediate)
    rw [requestsFor, List.flatMap_cons, List.foldl_append, ← first]
    obtain ⟨after, events, failure, result, all⟩ | ⟨after, events, outcome, result, all⟩ :=
      form.validateAll_cons_cases isImmediate pass passes
    · simp [all, result]
    · rw [result] at next
      simp only [all, result, next]

private theorem InStep.outcome_drain (target : Int) (fuel : Nat) :
    ((drain target fuel form).1.state field).outcome =
      (marksUntil target fuel form).foldl (Mark.after field) (form.state field).outcome := by
  induction fuel generalizing form with
  | zero => rfl
  | succ fuel ih =>
    cases taken : form.agenda.takeDue? target with
    | none =>
      simp only [drain, marksUntil, taken]
      rfl
    | some entry =>
      obtain ⟨call, agenda⟩ := entry
      have next := ih (inStep.fire taken)
      have fired : ((form.fire call.action agenda).1.state field).outcome =
          (form.completion call.action).foldl (Mark.after field) (form.state field).outcome := by
        obtain ⟨struck, strikes, -, fires⟩ := inStep.fire_cases taken
        rw [fires]
        exact outcome_struck field strikes call.action
      rw [fired] at next
      simp only [drain, marksUntil, taken, List.foldl_append]
      exact next

omit inStep in
private theorem outcome_sweep (stem : String) (count : Nat) (fields : List String) (form : Form) :
    ((sweep stem count form fields).1.state field).outcome =
      ((staleFields stem count fields).map Mark.forgotten).foldl (Mark.after field)
        (form.state field).outcome := by
  induction fields generalizing form with
  | nil => rfl
  | cons other fields ih =>
    rw [sweep, staleFields]
    cases isStaleRow stem count other with
    | error failure => rfl
    | ok stale =>
      cases stale with
      | false => exact ih form
      | true =>
        have next := ih (form.reset other)
        rw [reset_state] at next
        rw [List.map_cons, List.foldl_cons, Mark.after_forgotten]
        by_cases own : other = field
        · rw [if_pos own.symm] at next
          rw [if_pos own]
          exact next
        · rw [if_neg (Ne.symm own)] at next
          rw [if_neg own]
          exact next

/-- A step leaves a field the outcome that its marks say last of the field. -/
theorem InStep.outcome_perform (step : FormStep) :
    ((form.perform step).1.state field).outcome =
      (form.marks step).foldl (Mark.after field) (form.state field).outcome := by
  cases step with
  | validate pass isImmediate => exact inStep.outcome_validate field pass isImmediate
  | titles stem settings rows isImmediate =>
    have rowsChecked := inStep.outcome_validateAll field isImmediate (titlePasses stem settings rows)
    rw [Form.perform, marks, List.foldl_append, ← rowsChecked, droppedRows]
    obtain ⟨next, events, failure, result, titles⟩ | ⟨next, events, outcomes, result, titles⟩ :=
      form.validateTitles_cases stem settings rows isImmediate
    · rw [titles, result]
      rfl
    · rw [titles, result]
      exact outcome_sweep field stem rows.length _ next
  | touch other =>
    rw [Form.perform, touch, state_update]
    split
    next own => rw [own]; rfl
    next => rfl
  | reset other =>
    rw [Form.perform, reset_state, marks, List.foldl_cons, Mark.after_forgotten]
    by_cases own : other = field
    · rw [if_pos own.symm, if_pos own]
      rfl
    · rw [if_neg (Ne.symm own), if_neg own]
      rfl
  | advance duration => exact inStep.outcome_drain field _ _
  | _ => rfl

theorem InStep.outcome_run (steps : List FormStep) :
    ((form.run steps).state field).outcome =
      (form.log steps).foldl (Mark.after field) (form.state field).outcome := by
  induction steps generalizing form with
  | nil => rfl
  | cons step steps ih =>
    rw [Form.run, log, List.foldl_append, ih (inStep.perform step), inStep.outcome_perform field step]

end Outcome

section Verdicts

private theorem verdicts_completion (form : Form) (pass : Pass) :
    (form.completion pass).filterMap Mark.verdict? =
      [(pass.field, Rule.evaluate pass.rules pass.value pass.context)] := by
  have none : ((form.listeners.filter (·.reaction == .reset)).map fun _ =>
      Mark.forgotten pass.field).filterMap Mark.verdict? = [] := by
    rw [List.filterMap_map]
    exact List.filterMap_eq_nil_iff.mpr fun _ _ => rfl
  rw [completion, List.filterMap_cons, none]
  rfl

private theorem verdicts_request (request : CheckRequest) :
    request.marks.filterMap Mark.verdict? = request.made.map Made.verdict := by
  rw [CheckRequest.marks]
  induction request.made with
  | nil => rfl
  | cons made others ih =>
    rw [List.flatMap_cons, List.filterMap_append, ih, verdicts_completion]
    rfl

private theorem verdicts_until (target : Int) (fuel : Nat) (form : Form) :
    (marksUntil target fuel form).filterMap Mark.verdict? = (madeUntil target fuel form).map Made.verdict := by
  induction fuel generalizing form with
  | zero => rfl
  | succ fuel ih =>
    rw [marksUntil, madeUntil]
    cases form.agenda.takeDue? target with
    | none => rfl
    | some entry =>
      rw [List.filterMap_append, ih, verdicts_completion]
      rfl

/-- The checks that are completed in a step are those that it makes. -/
theorem verdicts_marks (form : Form) (step : FormStep) :
    (form.marks step).filterMap Mark.verdict? = (form.made step).map Made.verdict := by
  have all (requests : List CheckRequest) :
      (requests.flatMap CheckRequest.marks).filterMap Mark.verdict? =
        (requests.flatMap CheckRequest.made).map Made.verdict := by
    induction requests with
    | nil => rfl
    | cons request others ih =>
      rw [List.flatMap_cons, List.flatMap_cons, List.filterMap_append, List.map_append, ih, verdicts_request]
  cases step with
  | validate pass isImmediate =>
    rw [marks, verdicts_request, made_validate]
  | titles stem settings rows isImmediate =>
    have dropped : ((form.droppedRows stem settings rows isImmediate).map Mark.forgotten).filterMap
        Mark.verdict? = [] := by
      rw [List.filterMap_map]
      exact List.filterMap_eq_nil_iff.mpr fun _ _ => rfl
    rw [marks, List.filterMap_append, dropped, List.append_nil, all]
    rfl
  | advance duration => exact verdicts_until _ _ form
  | _ => rfl

theorem verdicts_log (form : Form) (steps : List FormStep) :
    (form.log steps).filterMap Mark.verdict? = (form.history steps).map Made.verdict := by
  induction steps generalizing form with
  | nil => rfl
  | cons step steps ih =>
    rw [log, history, List.filterMap_append, List.map_append, ih, verdicts_marks]

end Verdicts

end Form

end DatasetForm
