import DatasetForm.Proofs.Form.Step

/-!
The history of a form: which checks it made, and when. `made` reads them off the steps, and `rules_of_made`
ties them to what is heard of a step from outside: the rules that it calls are those of the checks it made. A
check that was put off is made when the clock arrives at its time, once, unless something supersedes it
first (`filter_history`).
-/

set_option autoImplicit false
set_option relaxedAutoImplicit false

namespace DatasetForm

/-- A check that was made: the number of its call, if it was put off before, the time and the check. -/
structure Made where
  number : Option Nat
  time : Int
  pass : Pass

/-- The check that a call stands for, made when the call is due. -/
def Call.made (call : Call Pass) : Made :=
  ⟨some call.number, call.due, call.action⟩

/-- A check that is asked for, and the form that is asked. -/
structure CheckRequest where
  form : Form
  pass : Pass
  isImmediate : Bool

namespace CheckRequest

/-- Can the interval of the check be read? Only then is the check that waits struck out. -/
def isHeard (request : CheckRequest) : Bool :=
  (Form.delayFor request.pass.rules request.isImmediate).toBool

/-- Is the check made or put off? -/
def isAnswered (request : CheckRequest) : Bool :=
  (request.form.validate request.pass request.isImmediate).2.2.toBool

/-- The check itself, when it is made at once. -/
def made (request : CheckRequest) : List Made :=
  match Form.delayFor request.pass.rules request.isImmediate with
  | .error _ => []
  | .ok interval =>
    match interval.compares .lessOrEqual (.int 0) with
    | .ok true => [⟨none, request.form.agenda.now, request.pass⟩]
    | _ => []

variable {request : CheckRequest}

theorem made_unread {failure : Failure}
    (unread : Form.delayFor request.pass.rules request.isImmediate = .error failure) : request.made = [] := by
  rw [made, unread]

theorem made_atOnce {interval : Value}
    (read : Form.delayFor request.pass.rules request.isImmediate = .ok interval)
    (due : interval.compares .lessOrEqual (.int 0) = .ok true) :
    request.made = [⟨none, request.form.agenda.now, request.pass⟩] := by
  rw [made, read]
  simp only [due]

theorem made_later {interval : Value}
    (read : Form.delayFor request.pass.rules request.isImmediate = .ok interval)
    (later : interval.compares .lessOrEqual (.int 0) ≠ .ok true) : request.made = [] := by
  rw [made, read]
  dsimp only
  split
  next due => exact absurd due later
  next => rfl

end CheckRequest

namespace Form

/-- The checks that are asked for one after the other, up to the first one that fails. -/
def requestsFor (isImmediate : Bool) : Form → List Pass → List CheckRequest
  | _, [] => []
  | form, pass :: passes =>
    ⟨form, pass, isImmediate⟩ ::
      match form.validate pass isImmediate with
      | (_, _, .error _) => []
      | (next, _, .ok _) => requestsFor isImmediate next passes

/-- The checks that a step asks for. -/
def requests (form : Form) : FormStep → List CheckRequest
  | .validate pass isImmediate => requestsFor isImmediate form [pass]
  | .titles stem settings rows isImmediate =>
    requestsFor isImmediate form (rows.zipIdx.map fun (row, index) => rowPass stem settings rows index row)
  | _ => []

theorem requests_validate (form : Form) (pass : Pass) (isImmediate : Bool) :
    form.requests (.validate pass isImmediate) = [⟨form, pass, isImmediate⟩] := by
  simp only [requests, requestsFor]
  split <;> rfl

/-- The checks that are made while the clock goes on to a time. -/
def madeUntil (target : Int) : (fuel : Nat) → Form → List Made
  | 0, _ => []
  | fuel + 1, form =>
    match form.agenda.takeDue? target with
    | none => []
    | some (call, agenda) => call.made :: madeUntil target fuel (form.fire call.action agenda).1

/-- The checks that a step makes. -/
def made (form : Form) : FormStep → List Made
  | .advance duration => madeUntil (form.agenda.now + duration) form.agenda.calls.length form
  | step => (form.requests step).flatMap CheckRequest.made

theorem made_validate (form : Form) (pass : Pass) (isImmediate : Bool) :
    form.made (.validate pass isImmediate) = CheckRequest.made ⟨form, pass, isImmediate⟩ := by
  change (form.requests _).flatMap CheckRequest.made = _
  rw [requests_validate, List.flatMap_singleton]

/-- The checks that are made in a run. -/
def history (form : Form) : List FormStep → List Made
  | [] => []
  | step :: steps => form.made step ++ history (form.perform step).1 steps

theorem history_append (form : Form) (before after : List FormStep) :
    form.history (before ++ after) = form.history before ++ (form.run before).history after := by
  induction before generalizing form with
  | nil => rfl
  | cons step before ih => simp only [List.cons_append, history, ih, run, List.append_assoc]

end Form

/-- Was a rule called? -/
def FormEvent.isRule : FormEvent → Bool
  | .rule .. => true
  | .listener .. => false

namespace Form

private theorem notify_rules (field : String) (status : Status) (outcome : Option Outcome) (form : Form)
    (listeners : List Listener) :
    (notify field status outcome form listeners).2.filter FormEvent.isRule = [] := by
  induction listeners generalizing form with
  | nil => rfl
  | cons listener others ih => simpa [notify, FormEvent.isRule] using ih _

private theorem complete_rules (form : Form) (pass : Pass) :
    (form.complete pass).2.1.filter FormEvent.isRule = ruleEvents pass := by
  have rules : (ruleEvents pass).filter FormEvent.isRule = ruleEvents pass := by
    rw [List.filter_eq_self]
    intro event member
    obtain ⟨rule, -, rfl⟩ := List.mem_map.mp member
    rfl
  simp only [complete, List.filter_append, rules, notify_rules, List.append_nil]

private theorem validate_rules {form : Form} (inStep : form.InStep) (pass : Pass) (isImmediate : Bool) :
    (form.validate pass isImmediate).2.1.filter FormEvent.isRule =
      (CheckRequest.made ⟨form, pass, isImmediate⟩).flatMap fun made => ruleEvents made.pass := by
  have outcome := inStep.validate_cases pass isImmediate
  generalize form.validate pass isImmediate = answer at outcome ⊢
  cases outcome with
  | unread unread =>
    rw [CheckRequest.made_unread unread]
    rfl
  | refused read _ _ later _ =>
    rw [CheckRequest.made_later read later]
    rfl
  | atOnce read due => rw [CheckRequest.made_atOnce read due, complete_rules, List.flatMap_singleton]
  | putOff read later =>
    rw [CheckRequest.made_later read (by simp [later])]
    rfl

private theorem validateAll_rules {form : Form} (inStep : form.InStep) (isImmediate : Bool)
    (passes : List Pass) :
    (form.validateAll isImmediate passes).2.1.filter FormEvent.isRule =
      ((requestsFor isImmediate form passes).flatMap CheckRequest.made).flatMap
        fun made => ruleEvents made.pass := by
  induction passes generalizing form with
  | nil => rfl
  | cons pass passes ih =>
    have first := validate_rules inStep pass isImmediate
    have next := ih (inStep.validate pass isImmediate)
    rw [requestsFor, List.flatMap_cons, List.flatMap_append, ← first]
    obtain ⟨after, events, failure, result, all⟩ | ⟨after, events, outcome, result, all⟩ :=
      form.validateAll_cons_cases isImmediate pass passes
    · simp [all, result]
    · rw [result] at next
      simp only [all, result, List.filter_append, next]

private theorem drain_rules (target : Int) (fuel : Nat) (form : Form) :
    (drain target fuel form).2.filter FormEvent.isRule =
      (madeUntil target fuel form).flatMap fun made => ruleEvents made.pass := by
  induction fuel generalizing form with
  | zero => rfl
  | succ fuel ih =>
    cases taken : form.agenda.takeDue? target with
    | none => simp [drain, madeUntil, taken]
    | some due =>
      obtain ⟨call, agenda⟩ := due
      simp only [drain, madeUntil, taken, List.filter_append, ih, List.flatMap_cons, fire, complete_rules,
        Call.made]

/-- The rules called in a step are those of the checks made in it, with their own values and contexts. -/
theorem rules_of_made {form : Form} (inStep : form.InStep) (step : FormStep) :
    (form.perform step).2.1.filter FormEvent.isRule =
      (form.made step).flatMap fun made => ruleEvents made.pass := by
  cases step with
  | validate pass isImmediate =>
    rw [made_validate]
    exact validate_rules inStep pass isImmediate
  | titles stem settings rows isImmediate =>
    have rules := validateAll_rules inStep isImmediate (titlePasses stem settings rows)
    simp only [Form.perform, made, requests, ← rules]
    obtain ⟨next, events, failure, result, titles⟩ | ⟨next, events, outcomes, result, titles⟩ :=
      form.validateTitles_cases stem settings rows isImmediate
    · rw [titles, result]
    · rw [titles, result]
  | advance duration => exact drain_rules ..
  | _ => rfl

end Form

end DatasetForm
