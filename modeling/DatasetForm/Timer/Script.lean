import DatasetForm.Timer.Basic

/-!
Scripts for one timer and its clock. A scheduled call reports that it was made and then carries out steps of
its own; such a step may be guarded, so that its failure is reported instead of ending the advance.

A script is run by a machine with a stack of tasks. The steps of a call are on the agenda until it is made,
so that the weight of tasks and agenda together goes down with each transition and bounds their number.
-/

set_option autoImplicit false
set_option relaxedAutoImplicit false

namespace DatasetForm

inductive TimerStep
  | schedule (delay : Value) (tag : Value) (followUp : List TimerStep) (isGuarded : Bool)
  | cancel (isGuarded : Bool)
  | dispose (isGuarded : Bool)
  | enter (isGuarded : Bool)
  | exit (isGuarded : Bool)
  | advance (milliseconds : Value) (isGuarded : Bool)
  deriving Inhabited

namespace TimerStep

/-- Is a failure of the step reported instead of passed on, when the step is one of a call? -/
def isGuarded : TimerStep → Bool
  | .schedule _ _ _ g | .cancel g | .dispose g | .enter g | .exit g | .advance _ g => g

mutual

/-- The number of transitions that a step can take: its own and, for a step that schedules a call, making
it and the steps of the call; an advance also comes to rest. -/
def weight : TimerStep → Nat
  | .schedule _ _ followUp _ => 2 + weightAll followUp
  | .advance .. => 2
  | _ => 1

/-- The number of transitions that the steps of a call can take, with that of leaving each. -/
def weightAll : List TimerStep → Nat
  | [] => 0
  | step :: steps => weight step + 1 + weightAll steps

end

end TimerStep

/-- What a call does: it reports its tag and carries out steps. -/
structure TimerCall where
  tag : Value
  followUp : List TimerStep

/-- What is reported while a script runs. -/
inductive TimerEvent
  | fired (tag : Value) (now : Int)
  | failed (failure : Failure)

/-- The answer of a step. -/
inductive TimerAnswer
  | nothing
  | flag (b : Bool)

/-- A timer, its clock, and what was reported, last first. -/
structure TimerWorld where
  hasClock : Bool
  timer : Timer := {}
  agenda : Agenda TimerCall := {}
  events : List TimerEvent := []

/-- What the machine has still to do: carry out a step, make the calls that are due up to a time, or leave
a guarded step. -/
inductive TimerTask
  | step (step : TimerStep)
  | drain (target : Int)
  | leave

namespace TimerWorld

/-- The time reached by advancing. -/
def targetOf (world : TimerWorld) (milliseconds : Value) : Except Failure Int :=
  (Timer.durationOf milliseconds).map (world.agenda.now + ·)

/-- Carry out a step other than an advance. -/
def simple (world : TimerWorld) (step : TimerStep) : TimerWorld × Except Failure TimerAnswer :=
  match step with
  | .schedule delay tag followUp _ =>
    let (timer, agenda, result) :=
      world.timer.schedule world.agenda world.hasClock delay ⟨tag, followUp⟩
    ({ world with timer, agenda }, result.map fun _ => .nothing)
  | .cancel _ =>
    let (timer, agenda) := world.timer.cancel world.agenda
    ({ world with timer, agenda }, .ok (.flag world.timer.isPending))
  | .dispose _ | .exit _ =>
    let (timer, agenda) := world.timer.dispose world.agenda
    ({ world with timer, agenda }, .ok .nothing)
  | .enter _ => (world, .ok (.flag true))
  | .advance .. => (world, .ok .nothing)

/-- The tasks of the steps of a call. -/
def followUpTasks (steps : List TimerStep) : List TimerTask :=
  steps.flatMap fun step => if step.isGuarded then [.step step, .leave] else [.step step]

/-- The tasks after the guarded step that is being carried out, if there is one. -/
def afterGuard? : List TimerTask → Option (List TimerTask)
  | [] => none
  | .leave :: tasks => some tasks
  | _ :: tasks => afterGuard? tasks

/-- Make a call: the timer no longer waits for it, and its tag is reported. -/
def fire (world : TimerWorld) (call : Call TimerCall) (agenda : Agenda TimerCall) : TimerWorld :=
  { world with
    timer := world.timer.fired
    agenda
    events := .fired call.action.tag agenda.now :: world.events }

/-- Report the failure of a guarded step. -/
def report (world : TimerWorld) (failure : Failure) : TimerWorld :=
  { world with events := .failed failure :: world.events }

/-- Carry out tasks. A failure that no guarded step stops ends the run, and what was done stays done. -/
def perform : (fuel : Nat) → TimerWorld → List TimerTask → TimerWorld × Except Failure Unit
  | 0, world, _ => (world, .ok ())
  | _ + 1, world, [] => (world, .ok ())
  | fuel + 1, world, .leave :: tasks => perform fuel world tasks
  | fuel + 1, world, .drain target :: tasks =>
    match world.agenda.takeDue? target with
    | none => perform fuel { world with agenda := world.agenda.rest target } tasks
    | some (call, agenda) =>
      perform fuel (world.fire call agenda)
        (followUpTasks call.action.followUp ++ .drain target :: tasks)
  | fuel + 1, world, .step (.advance milliseconds _) :: tasks =>
    match world.targetOf milliseconds with
    | .ok target => perform fuel world (.drain target :: tasks)
    | .error failure =>
      match afterGuard? tasks with
      | some rest => perform fuel (world.report failure) rest
      | none => (world, .error failure)
  | fuel + 1, world, .step step :: tasks =>
    match world.simple step with
    | (world, .ok _) => perform fuel world tasks
    | (world, .error failure) =>
      match afterGuard? tasks with
      | some rest => perform fuel (world.report failure) rest
      | none => (world, .error failure)

/-- A bound on the transitions that a step can take in a world: its weight and that of all calls. -/
def fuelFor (world : TimerWorld) (step : TimerStep) : Nat :=
  step.weight +
    world.agenda.calls.foldr (fun call rest => 1 + TimerStep.weightAll call.action.followUp + rest) 0

/-- Carry out a step of the script itself. -/
def run (world : TimerWorld) (step : TimerStep) : TimerWorld × Except Failure TimerAnswer :=
  match step with
  | .advance .. =>
    let (world, result) := perform (world.fuelFor step) world [.step step]
    (world, result.map fun _ => .nothing)
  | step => world.simple step

end TimerWorld

end DatasetForm
