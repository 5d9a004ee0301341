import DatasetForm.Proofs.Timer.Moves

/-!
A timer and its clock stay in step: the timer waits for the one call on the agenda, or for none when there is
none (`Coherent`). `Leaves` says of each move what it does to that call and what is reported of it.
-/

set_option autoImplicit false
set_option relaxedAutoImplicit false

namespace DatasetForm

namespace Move

/-- The call that a move puts down: that of a schedule that succeeded, due after its delay. -/
def scheduled? (move : Move) : Option (Call TimerCall) :=
  match move.task with
  | .step (.schedule delay tag followUp isGuarded) =>
    match (move.world.simple (.schedule delay tag followUp isGuarded)).2, Timer.delayOf delay with
    | .ok _, .ok wait => some ⟨move.world.agenda.now + wait, move.world.agenda.next, ⟨tag, followUp⟩⟩
    | _, _ => none
  | _ => none

/-- Is the move a disposal? -/
def disposes (move : Move) : Bool :=
  match move.task with
  | .step (.dispose _) | .step (.exit _) => true
  | _ => false

/-- Is the move a schedule, a cancel or a disposal? -/
def disturbs (move : Move) : Bool :=
  match move.task with
  | .step (.schedule ..) | .step (.cancel _) => true
  | _ => move.disposes

/-- Does an advance get to a time? -/
def reaches (due : Int) (move : Move) : Bool :=
  match move.task with
  | .drain target => due ≤ target
  | _ => false

/-- The call that is made. -/
def made? (move : Move) : Option (Call TimerCall) :=
  match move.task with
  | .drain target => (move.world.agenda.takeDue? target).map (·.1)
  | _ => none

end Move

namespace TimerWorld

/-- A timer that is not in use yet, with its clock. -/
def opened (now : Int) : TimerWorld :=
  { hasClock := true, agenda := { now } }

/-- What was reported of calls, first first: their tags, and the times at which they were made. -/
def fired (world : TimerWorld) : List (Value × Int) :=
  world.events.reverse.filterMap fun
    | .fired tag now => some (tag, now)
    | .failed _ => none

/-- The timer waits for the one call on the agenda, if there is one. -/
structure Coherent (world : TimerWorld) : Prop where
  clock : world.hasClock = true
  waits : (world.timer.waiting = none ∧ world.agenda.calls = []) ∨
    ∃ call, world.timer.waiting = some call.number ∧ world.agenda.calls = [call]
  disposed : world.timer.isDisposed = true → world.agenda.calls = []

/-- The world once the waiting call was struck out. -/
def cleared (world : TimerWorld) : TimerWorld :=
  { world with
    timer := { world.timer with waiting := none }
    agenda := { world.agenda with calls := [] } }

/-- The world once a call was put down in the place of the one that waited. -/
def replaced (world : TimerWorld) (delay : Int) (call : TimerCall) : TimerWorld :=
  { world with
    timer := { world.timer with waiting := some world.agenda.next }
    agenda :=
      { now := world.agenda.now
        next := world.agenda.next + 1
        calls := [⟨world.agenda.now + delay, world.agenda.next, call⟩] } }

/-- The world once the timer was disposed of. -/
def closed (world : TimerWorld) : TimerWorld :=
  { world.cleared with timer := { waiting := none, isDisposed := true } }

theorem fired_report (world : TimerWorld) (failure : Failure) : (world.report failure).fired = world.fired := by
  simp [fired, report]

theorem fired_fire (world : TimerWorld) (call : Call TimerCall) (agenda : Agenda TimerCall) :
    (world.fire call agenda).fired = world.fired ++ [(call.action.tag, agenda.now)] := by
  simp [fired, fire]

section Coherent

variable {world : TimerWorld} (coherent : world.Coherent)
include coherent

theorem Coherent.late {target : Int} (none : world.agenda.takeDue? target = none) :
    ∀ call ∈ world.agenda.calls, target < call.due := by
  intro call member
  rw [Agenda.takeDue?] at none
  rcases coherent.waits with ⟨-, empty⟩ | ⟨only, -, one⟩
  · rw [empty] at member
    cases member
  · rw [one, List.mem_singleton] at member
    subst member
    rw [one] at none
    by_contra early
    simp [Int.not_lt.mp early] at none

theorem Coherent.cancel_eq :
    world.timer.cancel world.agenda = (world.cleared.timer, world.cleared.agenda) := by
  obtain ⟨hasClock, ⟨waiting, isDisposed⟩, ⟨now, next, calls⟩, events⟩ := world
  rcases coherent.waits with ⟨idle, empty⟩ | ⟨call, waits, only⟩
  · cases idle
    cases empty
    rfl
  · cases waits
    cases only
    simp [Timer.cancel, Agenda.strike, cleared]

theorem Coherent.simple_cancel (isGuarded : Bool) :
    world.simple (.cancel isGuarded) = (world.cleared, .ok (.flag world.timer.isPending)) := by
  simp only [simple, coherent.cancel_eq]
  rfl

theorem Coherent.simple_dispose (isGuarded : Bool) :
    world.simple (.dispose isGuarded) = (world.closed, .ok .nothing) := by
  simp only [simple, Timer.dispose, coherent.cancel_eq]
  rfl

theorem Coherent.simple_schedule (live : world.timer.isDisposed = false) (delay tag : Value)
    (followUp : List TimerStep) (isGuarded : Bool) :
    world.simple (.schedule delay tag followUp isGuarded) =
      match Timer.delayOf delay with
      | .error failure => (world.cleared, .error failure)
      | .ok wait => (world.replaced wait ⟨tag, followUp⟩, .ok .nothing) := by
  have scheduled : world.timer.schedule world.agenda world.hasClock delay ⟨tag, followUp⟩ =
      match Timer.delayOf delay with
      | .error failure => (world.cleared.timer, world.cleared.agenda, .error failure)
      | .ok wait =>
        ((world.replaced wait ⟨tag, followUp⟩).timer, (world.replaced wait ⟨tag, followUp⟩).agenda, .ok ()) := by
    rw [Timer.schedule, live, coherent.cancel_eq, coherent.clock]
    cases Timer.delayOf delay with
    | error failure => rfl
    | ok wait =>
      simp only [replaced, cleared, Agenda.put, Agenda.insertCall]
      rw [live]
      rfl
  rw [simple, scheduled]
  cases Timer.delayOf delay <;> rfl

end Coherent

theorem simple_schedule_disposed {world : TimerWorld} (disposed : world.timer.isDisposed = true)
    (delay tag : Value) (followUp : List TimerStep) (isGuarded : Bool) :
    world.simple (.schedule delay tag followUp isGuarded) = (world, .error .disposed) := by
  simp only [simple, Timer.schedule, disposed, if_true]
  rfl

/-- What a move does that makes no call: nothing is reported of calls, and what waits then is what it put down,
or what waited before, unless it came in between. -/
structure Quiet (move : Move) (next : TimerWorld) : Prop where
  made : move.made? = none
  early : ∀ call ∈ move.world.agenda.calls, move.reaches call.due = false
  fired : next.fired = move.world.fired
  calls : next.agenda.calls = match move.scheduled? with
    | some call => [call]
    | none => if move.disturbs then [] else move.world.agenda.calls

/-- What a move does that makes the waiting call. -/
structure Fires (move : Move) (call : Call TimerCall) (next : TimerWorld) : Prop where
  made : move.made? = some call
  due : move.reaches call.due = true
  before : move.world.agenda.calls = [call]
  fired : next.fired = move.world.fired ++ [(call.action.tag, call.due)]
  calls : next.agenda.calls = []
  scheduled : move.scheduled? = none

/-- What a move leaves. -/
structure Leaves (move : Move) (next : TimerWorld) : Prop where
  coherent : next.Coherent
  disposed : next.timer.isDisposed = (move.world.timer.isDisposed || move.disposes)
  turn : Quiet move next ∨ ∃ call, Fires move call next

/-- A failure that is reported changes nothing else. -/
private theorem Leaves.stop {move : Move} {next : TimerWorld} (leaves : Leaves move next) (failure : Failure)
    (tasks : List TimerTask) : Leaves move (next.stop failure tasks).1 := by
  rw [TimerWorld.stop]
  cases afterGuard? tasks with
  | none => exact leaves
  | some rest =>
    have fired := next.fired_report failure
    obtain ⟨coherent, disposed, turn⟩ := leaves
    refine ⟨⟨coherent.clock, coherent.waits, coherent.disposed⟩, disposed, ?_⟩
    rcases turn with quiet | ⟨call, fires⟩
    · exact .inl ⟨quiet.made, quiet.early, fired.trans quiet.fired, quiet.calls⟩
    · exact .inr ⟨call, fires.made, fires.due, fires.before, fired.trans fires.fired, fires.calls, fires.scheduled⟩

section Leaves

variable {world : TimerWorld} (coherent : world.Coherent)
include coherent

private theorem Coherent.cleared : world.cleared.Coherent :=
  ⟨coherent.clock, .inl ⟨rfl, rfl⟩, fun _ => rfl⟩

private theorem Coherent.closed : world.closed.Coherent :=
  ⟨coherent.clock, .inl ⟨rfl, rfl⟩, fun _ => rfl⟩

private theorem Coherent.leaves_schedule (delay tag : Value) (followUp : List TimerStep) (isGuarded : Bool)
    (tasks : List TimerTask) :
    Leaves ⟨world, .step (.schedule delay tag followUp isGuarded), tasks⟩
      (world.simple (.schedule delay tag followUp isGuarded)).1 := by
  cases disposal : world.timer.isDisposed with
  | true =>
    have refused := simple_schedule_disposed disposal delay tag followUp isGuarded
    rw [refused]
    refine ⟨coherent, (Bool.or_false _).symm, .inl ⟨rfl, fun _ _ => rfl, rfl, ?_⟩⟩
    simp only [Move.scheduled?, refused, Move.disturbs]
    exact coherent.disposed disposal
  | false =>
    have done := coherent.simple_schedule disposal delay tag followUp isGuarded
    rw [done]
    cases delays : Timer.delayOf delay with
    | error failure =>
      rw [delays] at done
      refine ⟨coherent.cleared, (Bool.or_false _).symm, .inl ⟨rfl, fun _ _ => rfl, rfl, ?_⟩⟩
      simp only [Move.scheduled?, done, Move.disturbs]
      rfl
    | ok wait =>
      rw [delays] at done
      have live : world.timer.isDisposed ≠ true := Bool.eq_false_iff.mp disposal
      refine ⟨⟨coherent.clock, .inr ⟨_, rfl, rfl⟩, fun disposed => absurd disposed live⟩,
        (Bool.or_false _).symm, .inl ⟨rfl, fun _ _ => rfl, rfl, ?_⟩⟩
      simp only [Move.scheduled?, done, delays]
      rfl

private theorem Coherent.leaves_simple {step : TimerStep}
    (other : ∀ milliseconds isGuarded, step ≠ .advance milliseconds isGuarded) (tasks : List TimerTask) :
    Leaves ⟨world, .step step, tasks⟩ (world.simple step).1 := by
  cases step with
  | schedule delay tag followUp isGuarded => exact coherent.leaves_schedule delay tag followUp isGuarded tasks
  | cancel isGuarded =>
    rw [coherent.simple_cancel]
    exact ⟨coherent.cleared, (Bool.or_false _).symm, .inl ⟨rfl, fun _ _ => rfl, rfl, rfl⟩⟩
  | dispose isGuarded =>
    rw [coherent.simple_dispose]
    exact ⟨coherent.closed, (Bool.or_true _).symm, .inl ⟨rfl, fun _ _ => rfl, rfl, rfl⟩⟩
  | exit isGuarded =>
    have same : world.simple (.exit isGuarded) = world.simple (.dispose isGuarded) := rfl
    rw [same, coherent.simple_dispose]
    exact ⟨coherent.closed, (Bool.or_true _).symm, .inl ⟨rfl, fun _ _ => rfl, rfl, rfl⟩⟩
  | enter isGuarded => exact ⟨coherent, (Bool.or_false _).symm, .inl ⟨rfl, fun _ _ => rfl, rfl, rfl⟩⟩
  | advance milliseconds isGuarded => exact absurd rfl (other milliseconds isGuarded)

-- to advance only puts a task on the stack: the clock goes on, and calls are made, when that is carried out
private theorem Coherent.leaves_advance (milliseconds : Value) (isGuarded : Bool) (tasks : List TimerTask) :
    Leaves ⟨world, .step (.advance milliseconds isGuarded), tasks⟩ world :=
  ⟨coherent, (Bool.or_false _).symm, .inl ⟨rfl, fun _ _ => rfl, rfl, rfl⟩⟩

private theorem Coherent.leaves_rest {target : Int} (none : world.agenda.takeDue? target = none)
    (tasks : List TimerTask) :
    Leaves ⟨world, .drain target, tasks⟩ { world with agenda := world.agenda.rest target } := by
  refine ⟨⟨coherent.clock, coherent.waits, coherent.disposed⟩, (Bool.or_false _).symm, .inl ⟨?_, ?_, rfl, rfl⟩⟩
  · simp only [Move.made?, none, Option.map_none]
  · intro call member
    have late := coherent.late none call member
    exact decide_eq_false (by omega)

private theorem Coherent.leaves_fire {target : Int} {call : Call TimerCall} {agenda : Agenda TimerCall}
    (taken : world.agenda.takeDue? target = some (call, agenda)) (tasks : List TimerTask) :
    Leaves ⟨world, .drain target, tasks⟩ (world.fire call agenda) := by
  obtain ⟨rest, calls, due, rfl⟩ := Agenda.takeDue?_eq_some taken
  obtain ⟨only, -, one⟩ : ∃ only, world.timer.waiting = some only.number ∧ world.agenda.calls = [only] := by
    rcases coherent.waits with ⟨-, empty⟩ | single
    · rw [empty] at calls
      cases calls
    · exact single
  rw [one] at calls
  cases calls
  refine ⟨⟨coherent.clock, .inl ⟨rfl, rfl⟩, fun _ => rfl⟩, (Bool.or_false _).symm, .inr ⟨call, ?_⟩⟩
  exact {
    made := by simp only [Move.made?, taken, Option.map_some]
    due := decide_eq_true due
    before := one
    fired := fired_fire world call _
    calls := rfl
    scheduled := rfl }

theorem Coherent.leaves (task : TimerTask) (tasks : List TimerTask) :
    Leaves ⟨world, task, tasks⟩ (Move.mk world task tasks).outcome.1 := by
  have turns := Move.outcome_cases world task tasks
  generalize (Move.mk world task tasks).outcome = answer at turns
  cases turns with
  | leave => exact ⟨coherent, (Bool.or_false _).symm, .inl ⟨rfl, fun _ _ => rfl, rfl, rfl⟩⟩
  | rest none => exact coherent.leaves_rest none tasks
  | fire taken => exact coherent.leaves_fire taken tasks
  | advance read => exact coherent.leaves_advance _ _ tasks
  | simple other done =>
    have leaves := coherent.leaves_simple other tasks
    rw [done] at leaves
    exact leaves
  | @stop step next failure fails =>
    -- what a step did before it failed stays done, and its failure may be reported
    rcases fails with ⟨milliseconds, isGuarded, rfl, -, rfl⟩ | failed
    · exact (coherent.leaves_advance milliseconds isGuarded tasks).stop _ tasks
    · have other : ∀ milliseconds isGuarded, step ≠ .advance milliseconds isGuarded := by
        rintro milliseconds isGuarded rfl
        cases failed
      have leaves := coherent.leaves_simple other tasks
      rw [failed] at leaves
      exact leaves.stop _ tasks

end Leaves

end TimerWorld

end DatasetForm
