import DatasetForm.Agenda
import DatasetForm.Value.Order

/-!
Timers: each holds at most one call that waits on an agenda. Scheduling another strikes the first out and
starts the delay anew, so that of a burst of calls only the last is made. A timer that was disposed of
accepts no more calls.
-/

set_option autoImplicit false
set_option relaxedAutoImplicit false

namespace DatasetForm

/-- A timer: the number of the call that waits for it, if there is one, and whether it was disposed of. -/
structure Timer where
  waiting : Option Nat := none
  isDisposed : Bool := false
  deriving DecidableEq, Repr

namespace Timer

variable {α : Type}

/-- Does a call wait? -/
def isPending (timer : Timer) : Bool :=
  timer.waiting.isSome

/-- The whole number nearest to a binary one, a half to the even neighbour. -/
def nearest (x : Binary64) : Except Failure Int :=
  match x.round? with
  | some n => .ok n
  | none => .error (if x == .nan then .nanToWhole else .infiniteToWhole)

/-- A number of seconds in whole microseconds. -/
def microseconds (seconds : Binary64) : Except Failure Int :=
  nearest (seconds.mul (Binary64.roundQuotient false 1000000 1))

/-- A number of milliseconds by which a clock goes on, in whole microseconds. -/
def durationOf (milliseconds : Value) : Except Failure Int :=
  match milliseconds with
  | .float x => nearest (x.mul (Binary64.roundQuotient false 1000 1))
  | v =>
    match v.wholeNumber? with
    | some n => .ok (n * 1000)
    | none => .error (.notMultiplied v.qualifiedKindName "int")

/-- A thousandth of a number, as a binary number. -/
def thousandth (v : Value) : Except Failure Binary64 :=
  match v with
  | .float x => .ok (x.divNat 1000)
  | v =>
    match v.wholeNumber? with
    | some n =>
      match Binary64.ofRatio? n 1000 with
      | some x => .ok x
      | none => .error .quotientTooLarge
    | none => .error (.notComparable .greater "int" v.qualifiedKindName)

/-- A delay given in milliseconds, in microseconds; negative delays count as none. -/
def delayOf (milliseconds : Value) : Except Failure Int :=
  match (Value.int 0).compares .greater milliseconds with
  | .error failure => .error failure
  | .ok negative =>
    (thousandth (if negative then .int 0 else milliseconds)).bind microseconds

/-- Strike the waiting call out. -/
def cancel (timer : Timer) (agenda : Agenda α) : Timer × Agenda α :=
  match timer.waiting with
  | none => (timer, agenda)
  | some number => ({ timer with waiting := none }, agenda.strike number)

/-- Schedule a call after a delay in milliseconds. A call that waited before is struck out even when
scheduling then fails for want of a clock or a usable delay. -/
def schedule (timer : Timer) (agenda : Agenda α) (hasClock : Bool) (milliseconds : Value) (action : α) :
    Timer × Agenda α × Except Failure Unit :=
  if timer.isDisposed then (timer, agenda, .error .disposed)
  else
    let (timer, agenda) := timer.cancel agenda
    if !hasClock then (timer, agenda, .error .noClock)
    else match delayOf milliseconds with
      | .error failure => (timer, agenda, .error failure)
      | .ok delay => ({ timer with waiting := some agenda.next }, agenda.put delay action, .ok ())

/-- Strike the waiting call out and accept no more. -/
def dispose (timer : Timer) (agenda : Agenda α) : Timer × Agenda α :=
  let (timer, agenda) := timer.cancel agenda
  ({ timer with isDisposed := true }, agenda)

/-- The timer once its call is being made. -/
def fired (timer : Timer) : Timer :=
  { timer with waiting := none }

end Timer

end DatasetForm
