import DatasetForm.Form.Titles

/-!
Runs of a form: the steps that a user interface takes with it, and what each of them answers.
-/

set_option autoImplicit false
set_option relaxedAutoImplicit false

namespace DatasetForm

/-- A step taken with a form. -/
inductive FormStep
  | validate (pass : Pass) (isImmediate : Bool)
  | titles (stem : String) (settings : Settings) (rows : List TitleRow) (isImmediate : Bool)
  | touch (field : String)
  | reset (field : String)
  | resetAll
  | look (field : String)
  | subscribe (listener : Listener)
  | unsubscribe (id : String)
  | enter
  | exit
  | dispose
  | advance (duration : Int)

/-- What a step answers. -/
inductive FormAnswer
  | nothing
  | entered
  | outcome (outcome : Option Outcome)
  | outcomes (outcomes : List (Option Outcome))
  | state (state : FieldState) (isPending : Bool)

namespace Form

/-- Take a step. What a failing step did before it failed stays done. -/
def perform (form : Form) (step : FormStep) : Form × List FormEvent × Except Failure FormAnswer :=
  match step with
  | .validate pass isImmediate =>
    let (form, events, result) := form.validate pass isImmediate
    (form, events, result.map .outcome)
  | .titles stem settings rows isImmediate =>
    let (form, events, result) := form.validateTitles stem settings rows isImmediate
    (form, events, result.map .outcomes)
  | .touch field => (form.touch field, [], .ok .nothing)
  | .reset field => (form.reset field, [], .ok .nothing)
  | .resetAll => (form.resetAll, [], .ok .nothing)
  | .look field => (form, [], .ok (.state (form.state field) (form.isPending field)))
  | .subscribe listener => (form.subscribe listener, [], .ok .nothing)
  | .unsubscribe id => (form.unsubscribe id, [], .ok .nothing)
  | .enter => (form, [], .ok .entered)
  | .exit => (form.dispose, [], .ok .nothing)
  | .dispose => (form.dispose, [], .ok .nothing)
  | .advance duration =>
    let (form, events) := form.advance duration
    (form, events, .ok .nothing)

/-- Take steps one after the other. -/
def run (form : Form) : List FormStep → Form
  | [] => form
  | step :: steps => run (form.perform step).1 steps

end Form

end DatasetForm
