/-!
An agenda: a clock and the calls that wait for it, in the order in which they will be made. Calls that are
due at the same time are made in the order in which they were put down.
-/

set_option autoImplicit false
set_option relaxedAutoImplicit false

namespace DatasetForm

/-- A call that waits: when it is due, in microseconds, the number under which it was put down, and what is
to be done. -/
structure Call (α : Type) where
  due : Int
  number : Nat
  action : α

/-- A clock, in microseconds, and the calls that wait for it, soonest first. -/
structure Agenda (α : Type) where
  now : Int := 0
  next : Nat := 0
  calls : List (Call α) := []

namespace Agenda

variable {α : Type}

/-- Put a call behind those that are due no later. -/
def insertCall (call : Call α) : List (Call α) → List (Call α)
  | [] => [call]
  | other :: rest => if other.due ≤ call.due then other :: insertCall call rest else call :: other :: rest

/-- Put down a call that is due after a delay. Its number is the agenda's `next`. -/
def put (agenda : Agenda α) (delay : Int) (action : α) : Agenda α :=
  { agenda with
    next := agenda.next + 1
    calls := insertCall ⟨agenda.now + delay, agenda.next, action⟩ agenda.calls }

/-- Strike out the call with a number. -/
def strike (agenda : Agenda α) (number : Nat) : Agenda α :=
  { agenda with calls := agenda.calls.filter fun call => call.number != number }

/-- Does a call with the number wait? -/
def waits (agenda : Agenda α) (number : Nat) : Bool :=
  agenda.calls.any fun call => call.number == number

/-- Take the first call that is due up to a time, and set the clock to the time at which it is due. -/
def takeDue? (agenda : Agenda α) (target : Int) : Option (Call α × Agenda α) :=
  match agenda.calls with
  | [] => none
  | call :: rest =>
    if call.due ≤ target then some (call, { agenda with now := call.due, calls := rest }) else none

/-- Set the clock. -/
def rest (agenda : Agenda α) (target : Int) : Agenda α :=
  { agenda with now := target }

end Agenda

end DatasetForm
