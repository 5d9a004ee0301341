import DatasetForm.Rule.Titles
import DatasetForm.Timer.Basic

/-!
Forms: what is known about each field while it is being filled in. A field whose rules ask for quiet is
checked once its input has rested for the longest of their quiet periods; other fields are checked at once.
Listeners hear of every check that was completed.
-/

set_option autoImplicit false
set_option relaxedAutoImplicit false

namespace DatasetForm

/-- Where the check of a field stands. -/
inductive Status
  | idle
  | pending
  | valid
  | invalid
  deriving DecidableEq, Repr

def Status.word : Status → String
  | .idle => "idle"
  | .pending => "pending"
  | .valid => "valid"
  | .invalid => "invalid"

/-- What is known about a field. -/
structure FieldState where
  status : Status := .idle
  outcome : Option Outcome := none
  isTouched : Bool := false
  value : Value := .null

/-- Does the field keep the form from being submitted? -/
def FieldState.blocks (state : FieldState) : Bool :=
  (state.outcome.map Outcome.blocks).getD false

/-- A check of a field that is to be made: its value, its rules and their context. -/
structure Pass where
  field : String
  value : Value
  rules : List Rule
  context : Value

/-- What a listener does once it has heard of a check. -/
inductive Reaction
  | record
  | raise
  | unsubscribe
  | touch
  | reset
  deriving DecidableEq, Repr

/-- A listener. -/
structure Listener where
  id : String
  reaction : Reaction
  deriving DecidableEq, Repr

/-- What happened during a check: a rule made by hand was called, or a listener was told. -/
inductive FormEvent
  | rule (rule : Rule) (value context : Value)
  | listener (id field : String) (status : Status) (outcome : Option Outcome)

/-- A form. Fields are kept in the order in which they were first used. -/
structure Form where
  hasClock : Bool := true
  agenda : Agenda Pass := {}
  fields : List (String × FieldState) := []
  timers : List (String × Timer) := []
  listeners : List Listener := []

namespace Form

/-- Put a value under a name: in the place of the one that is there, or at the end. -/
def assign {α : Type} (name : String) (a : α) : List (String × α) → List (String × α)
  | [] => [(name, a)]
  | (key, b) :: rest => if key == name then (key, a) :: rest else (key, b) :: assign name a rest

/-- Take the value under a name out. -/
def erase {α : Type} (name : String) (entries : List (String × α)) : List (String × α) :=
  entries.filter fun entry => entry.1 != name

/-- What is known about a field; one that was never used is idle. -/
def state (form : Form) (field : String) : FieldState :=
  (form.fields.lookup field).getD {}

/-- Change what is known about a field. -/
def update (form : Form) (field : String) (change : FieldState → FieldState) : Form :=
  { form with fields := assign field (change (form.state field)) form.fields }

/-- Does a check of the field wait? -/
def isPending (form : Form) (field : String) : Bool :=
  ((form.timers.lookup field).map Timer.isPending).getD false

def hasError (form : Form) (field : String) : Bool :=
  (form.state field).blocks

/-- The number of fields with an error. -/
def invalidCount (form : Form) : Nat :=
  form.fields.countP fun entry => form.hasError entry.1

/-- The number of fields that were visited. -/
def touchedCount (form : Form) : Nat :=
  form.fields.countP fun entry => entry.2.isTouched

/-- May the form be submitted? Errors keep it from being, warnings do not. -/
def canSubmit (form : Form) : Bool :=
  form.invalidCount == 0

/-- Put a listener at the end. -/
def subscribe (form : Form) (listener : Listener) : Form :=
  { form with listeners := form.listeners ++ [listener] }

/-- Take the first subscription of a listener out. -/
def unsubscribe (form : Form) (id : String) : Form :=
  { form with listeners := form.listeners.eraseP fun listener => listener.id == id }

/-- Note that a field was visited. -/
def touch (form : Form) (field : String) : Form :=
  form.update field fun state => { state with isTouched := true }

/-- Forget a field and the check that waits for it. -/
def reset (form : Form) (field : String) : Form :=
  let agenda := match form.timers.lookup field with
    | none => form.agenda
    | some timer => (timer.dispose form.agenda).2
  { form with agenda, timers := erase field form.timers, fields := erase field form.fields }

/-- Forget all fields and the checks that wait for them. -/
def resetAll (form : Form) : Form :=
  { form with
    agenda := form.timers.foldl (fun agenda entry => (entry.2.dispose agenda).2) form.agenda
    timers := []
    fields := [] }

/-- Forget all fields, and take all subscriptions out. -/
def dispose (form : Form) : Form :=
  { form.resetAll with listeners := [] }

/-- What a listener does to the form. One that raises does nothing to it. -/
def react (form : Form) (field : String) (listener : Listener) : Form :=
  match listener.reaction with
  | .record | .raise => form
  | .unsubscribe => form.unsubscribe listener.id
  | .touch => form.touch field
  | .reset => form.reset field

/-- Tell listeners, one after the other, how a check ended. -/
def notify (field : String) (status : Status) (outcome : Option Outcome) :
    Form → List Listener → Form × List FormEvent
  | form, [] => (form, [])
  | form, listener :: others =>
    let (form, events) := notify field status outcome (form.react field listener) others
    (form, .listener listener.id field status outcome :: events)

/-- The status that an outcome gives. -/
def statusOf (outcome : Option Outcome) : Status :=
  if (outcome.map Outcome.blocks).getD false then .invalid else .valid

/-- The calls of rules made by hand. -/
def ruleEvents (pass : Pass) : List FormEvent :=
  ((Rule.called pass.rules pass.value pass.context).filter (·.isHandMade)).map fun rule =>
    .rule rule pass.value pass.context

/-- Check a field now. The outcome is kept before the listeners are told, and those are told who were
subscribed at that time. -/
def complete (form : Form) (pass : Pass) : Form × List FormEvent × Option Outcome :=
  let outcome := Rule.evaluate pass.rules pass.value pass.context
  let status := statusOf outcome
  let stored := form.update pass.field fun state =>
    { state with status, outcome, value := pass.value }
  let (form, events) := notify pass.field status outcome stored stored.listeners
  (form, ruleEvents pass ++ events, outcome)

/-- Strike out the check that waits for a field. -/
def cancel (form : Form) (field : String) : Form :=
  match form.timers.lookup field with
  | none => form
  | some timer =>
    let (timer, agenda) := timer.cancel form.agenda
    { form with agenda, timers := assign field timer form.timers }

/-- Put a check off. The field shows its new value and that it waits, unless the check cannot be put
off. -/
def defer (form : Form) (delay : Value) (pass : Pass) : Form × Except Failure Unit :=
  let timer := (form.timers.lookup pass.field).getD {}
  let (timer, agenda, result) := timer.schedule form.agenda form.hasClock delay pass
  let kept := { form with agenda, timers := assign pass.field timer form.timers }
  match result with
  | .error failure => (kept, .error failure)
  | .ok () =>
    (kept.update pass.field fun state => { state with status := .pending, value := pass.value }, .ok ())

/-- How long a check has to wait, in milliseconds. -/
def delayFor (rules : List Rule) (isImmediate : Bool) : Except Failure Value :=
  if isImmediate then .ok (.int 0) else Rule.longestQuietPeriod rules

/-- Check a field now or, if its rules ask for quiet, later; a check that waited for it is dropped. There
is no outcome yet when the check is put off. -/
def validate (form : Form) (pass : Pass) (isImmediate : Bool) :
    Form × List FormEvent × Except Failure (Option Outcome) :=
  match delayFor pass.rules isImmediate with
  | .error failure => (form, [], .error failure)
  | .ok delay =>
    let form := form.cancel pass.field
    match delay.compares .lessOrEqual (.int 0) with
    | .error failure => (form, [], .error failure)
    | .ok true =>
      let (form, events, outcome) := form.complete pass
      (form, events, .ok outcome)
    | .ok false =>
      let (form, result) := form.defer delay pass
      (form, [], result.map fun _ => none)

/-- Make a call that is due. -/
def fire (form : Form) (pass : Pass) (agenda : Agenda Pass) : Form × List FormEvent :=
  let timers := match form.timers.lookup pass.field with
    | none => form.timers
    | some timer => assign pass.field timer.fired form.timers
  let (form, events, _) := ({ form with agenda, timers } : Form).complete pass
  (form, events)

/-- Make the calls that are due up to a time, at most `fuel` of them, then set the clock. -/
def drain (target : Int) : (fuel : Nat) → Form → Form × List FormEvent
  | 0, form => ({ form with agenda := form.agenda.rest target }, [])
  | fuel + 1, form =>
    match form.agenda.takeDue? target with
    | none => ({ form with agenda := form.agenda.rest target }, [])
    | some (call, agenda) =>
      let (form, events) := form.fire call.action agenda
      let (form, others) := drain target fuel form
      (form, events ++ others)

/-- Let time pass, in microseconds. No check puts another one on the agenda, so there are no more calls
than are waiting now. -/
def advance (form : Form) (duration : Int) : Form × List FormEvent :=
  drain (form.agenda.now + duration) form.agenda.calls.length form

end Form

end DatasetForm
