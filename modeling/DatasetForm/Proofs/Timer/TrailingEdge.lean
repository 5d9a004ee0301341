import DatasetForm.Proofs.Timer
import DatasetForm.Proofs.Timer.Coherent

/-!
Timers call at the trailing edge. In whatever order calls are scheduled, cancelled and made, and whatever the
calls themselves do to the timer, a call is made exactly when an advance reaches the time at which it is due and
nothing came in between that struck it out (`trailing_edge`).
-/

set_option autoImplicit false
set_option relaxedAutoImplicit false

namespace DatasetForm

namespace Move

/-- Does an advance get to a time before a move comes in between? -/
def reachedUndisturbed (due : Int) : List Move → Bool
  | [] => false
  | move :: moves => move.reaches due || !move.disturbs && reachedUndisturbed due moves

/-- The call that the first move puts down, if the moves after it get to the time at which it is due. -/
def survivor? : List Move → Option (Call TimerCall)
  | [] => none
  | move :: moves => move.scheduled?.filter fun call => reachedUndisturbed call.due moves

end Move

namespace TimerWorld

section Follow

/-- The waiting calls whose time is reached by the moves. -/
private def outstanding (calls : List (Call TimerCall)) (moves : List Move) : List (Call TimerCall) :=
  calls.filter fun call => Move.reachedUndisturbed call.due moves

private theorem outstanding_nil (calls : List (Call TimerCall)) : outstanding calls [] = [] :=
  List.filter_eq_nil_iff.mpr fun _ _ => Bool.false_ne_true

/-- A move that does not get to a waiting call strikes it out or leaves it. -/
private theorem outstanding_cons {calls : List (Call TimerCall)} {move : Move}
    (early : ∀ call ∈ calls, move.reaches call.due = false) (moves : List Move) :
    outstanding calls (move :: moves) = if move.disturbs then [] else outstanding calls moves := by
  cases disturbed : move.disturbs with
  | true =>
    refine List.filter_eq_nil_iff.mpr fun call member => ?_
    rw [Move.reachedUndisturbed, early call member, disturbed]
    exact Bool.false_ne_true
  | false =>
    refine List.filter_congr fun call member => ?_
    rw [Move.reachedUndisturbed, early call member, disturbed]
    rfl

private theorem disturbs_of_scheduled {move : Move} {call : Call TimerCall}
    (scheduled : move.scheduled? = some call) : move.disturbs = true := by
  obtain ⟨world, task, tasks⟩ := move
  cases task with
  | step step =>
    cases step with
    | schedule => rfl
    | _ => cases scheduled
  | _ => cases scheduled

/-- A move makes the waiting call if it gets to it, and hands on what it puts down. -/
private theorem Leaves.outstanding {move : Move} {next : TimerWorld} (leaves : Leaves move next)
    (moves : List Move) :
    move.made?.toList ++ outstanding next.agenda.calls moves =
      outstanding move.world.agenda.calls (move :: moves) ++ (Move.survivor? (move :: moves)).toList := by
  rcases leaves.turn with quiet | ⟨call, fires⟩
  · have calls := quiet.calls
    rw [quiet.made, outstanding_cons quiet.early, Move.survivor?]
    cases scheduled : move.scheduled? with
    | some call =>
      rw [scheduled] at calls
      rw [calls, disturbs_of_scheduled scheduled, TimerWorld.outstanding]
      cases reached : Move.reachedUndisturbed call.due moves <;> simp [Option.filter, reached]
    | none =>
      rw [scheduled] at calls
      rw [calls]
      cases move.disturbs <;> simp [TimerWorld.outstanding]
  · have reached : Move.reachedUndisturbed call.due (move :: moves) = true := by
      rw [Move.reachedUndisturbed, fires.due, Bool.true_or]
    rw [fires.made, fires.calls, fires.before, Move.survivor?, fires.scheduled]
    simp [TimerWorld.outstanding, reached]

private theorem Leaves.fired {move : Move} {next : TimerWorld} (leaves : Leaves move next) :
    next.fired = move.world.fired ++ move.made?.toList.map fun call => (call.action.tag, call.due) := by
  rcases leaves.turn with quiet | ⟨call, fires⟩
  · rw [quiet.fired, quiet.made, Option.toList_none, List.map_nil, List.append_nil]
  · rw [fires.fired, fires.made]
    rfl

variable {world last : TimerWorld} {moves : List Move}

theorem Follow.coherent (follow : Follow world moves last) (coherent : world.Coherent) :
    (∀ move ∈ moves, move.world.Coherent) ∧ last.Coherent := by
  induction moves generalizing world with
  | nil =>
    cases follow
    exact ⟨fun _ member => absurd member List.not_mem_nil, coherent⟩
  | cons move moves ih =>
    obtain ⟨rfl, others⟩ := follow
    obtain ⟨all, ends⟩ := ih others (coherent.leaves move.task move.tasks).coherent
    exact ⟨List.forall_mem_cons.mpr ⟨coherent, all⟩, ends⟩

/-- The calls that are made are the one that waits, if its time is reached, and those that are put down on the
way and whose time is reached. -/
private theorem Follow.made (follow : Follow world moves last) (coherent : world.Coherent) :
    moves.filterMap Move.made? =
        outstanding world.agenda.calls moves ++ moves.tails.filterMap Move.survivor? ∧
      last.fired = world.fired ++ (moves.filterMap Move.made?).map fun call => (call.action.tag, call.due) := by
  -- on the moves; the call that waits in between counts as one that is still to be made, or not
  induction moves generalizing world with
  | nil =>
    cases follow
    simp [outstanding_nil, Move.survivor?]
  | cons move moves ih =>
    obtain ⟨rfl, others⟩ := follow
    have leaves := coherent.leaves move.task move.tasks
    obtain ⟨made, fired⟩ := ih others leaves.coherent
    have hands := leaves.outstanding moves
    have first : (move :: moves).filterMap Move.made? = move.made?.toList ++ moves.filterMap Move.made? := by
      rw [List.filterMap_cons]
      cases move.made? <;> rfl
    have tails : (move :: moves).tails.filterMap Move.survivor? =
        (Move.survivor? (move :: moves)).toList ++ moves.tails.filterMap Move.survivor? := by
      rw [List.tails_cons, List.filterMap_cons]
      cases Move.survivor? (move :: moves) <;> rfl
    constructor
    · rw [first, tails, made, ← List.append_assoc, hands, List.append_assoc]
    · rw [first, List.map_append, ← List.append_assoc, ← leaves.fired, fired]

theorem Follow.disposed (follow : Follow world moves last) (coherent : world.Coherent)
    (disposed : world.timer.isDisposed = true) :
    (∀ move ∈ moves, move.world.timer.isDisposed = true ∧ move.made? = none) ∧
      last.timer.isDisposed = true := by
  induction moves generalizing world with
  | nil =>
    cases follow
    exact ⟨fun _ member => absurd member List.not_mem_nil, disposed⟩
  | cons move moves ih =>
    obtain ⟨rfl, others⟩ := follow
    have leaves := coherent.leaves move.task move.tasks
    have disposed' : move.outcome.1.timer.isDisposed = true := by
      rw [leaves.disposed]
      exact Bool.or_eq_true_iff.mpr (.inl disposed)
    have silent : move.made? = none := by
      rcases leaves.turn with quiet | ⟨call, fires⟩
      · exact quiet.made
      · have empty := coherent.disposed disposed
        rw [fires.before] at empty
        cases empty
    obtain ⟨all, ends⟩ := ih others leaves.coherent disposed'
    exact ⟨List.forall_mem_cons.mpr ⟨⟨disposed, silent⟩, all⟩, ends⟩

private theorem Follow.split {before after : List Move} {move : Move}
    (follow : Follow world (before ++ move :: after) last) : Follow move.outcome.1 after last := by
  induction before generalizing world with
  | nil => exact follow.2
  | cons first before ih => exact ih follow.2

end Follow

section Arrival

private theorem getLast?_cons_cases {α : Type} {a last : α} {rest : List α}
    (ends : (a :: rest).getLast? = some last) : rest = [] ∧ a = last ∨ rest.getLast? = some last := by
  cases rest with
  | nil => exact .inl ⟨rfl, Option.some.inj ends⟩
  | cons b rest => exact .inr (List.getLast?_cons_cons.symm.trans ends)

private theorem getLast?_afterGuard {tasks rest : List TimerTask} (guarded : afterGuard? tasks = some rest)
    {target : Int} (ends : tasks.getLast? = some (.drain target)) : rest.getLast? = some (.drain target) := by
  obtain ⟨dropped, rfl⟩ := afterGuard?_eq_some guarded
  rw [List.getLast?_append, List.getLast?_cons] at ends
  cases left : rest.getLast? with
  | none =>
    rw [left] at ends
    cases ends
  | some task =>
    rw [left] at ends
    exact ends

/-- An advance stays the last task until it has got to its end. -/
private theorem outcome_getLast? {world next : TimerWorld} {task : TimerTask} {tasks rest : List TimerTask}
    {target : Int} (moves : (Move.mk world task tasks).outcome = (next, .ok rest))
    (ends : (task :: tasks).getLast? = some (.drain target)) :
    rest.getLast? = some (.drain target) ∨
      rest = [] ∧ next.agenda.now = target ∧ next.agenda.takeDue? target = none := by
  have turns := Move.outcome_cases world task tasks
  generalize (Move.mk world task tasks).outcome = answer at moves turns
  cases turns with
  | leave =>
    cases moves
    rcases getLast?_cons_cases ends with ⟨-, never⟩ | later
    · cases never
    · exact .inl later
  | rest none =>
    cases moves
    rcases getLast?_cons_cases ends with ⟨empty, own⟩ | later
    · cases own
      exact .inr ⟨empty, rfl, none⟩
    · exact .inl later
  | fire taken =>
    cases moves
    rw [List.getLast?_append, ends]
    exact .inl rfl
  | advance read =>
    cases moves
    rcases getLast?_cons_cases ends with ⟨-, never⟩ | later
    · cases never
    · rw [List.getLast?_cons, later]
      exact .inl rfl
  | simple other done =>
    cases moves
    rcases getLast?_cons_cases ends with ⟨-, never⟩ | later
    · cases never
    · exact .inl later
  | stop fails =>
    rw [stop] at moves
    cases guarded : afterGuard? tasks with
    | none =>
      rw [guarded] at moves
      cases moves
    | some after =>
      rw [guarded] at moves
      cases moves
      rcases getLast?_cons_cases ends with ⟨-, never⟩ | later
      · cases never
      · exact .inl (getLast?_afterGuard guarded later)

private theorem Runs.arrives {world last : TimerWorld} {tasks : List TimerTask} {moves : List Move}
    {result : Except Failure Unit} (runs : Runs world tasks moves last result) (ok : result = .ok ())
    {target : Int} (ends : tasks.getLast? = some (.drain target)) :
    last.agenda.now = target ∧ last.agenda.takeDue? target = none := by
  induction runs with
  | done world => cases ends
  | next first others ih =>
    rcases outcome_getLast? first ends with later | ⟨rfl, now, none⟩
    · exact ih ok later
    · cases others
      exact ⟨now, none⟩
  | failed only => cases ok

/-- An advance that does not fail gets to its target, and leaves no call that is due by then. -/
private theorem Coherent.run_advance {world : TimerWorld} (coherent : world.Coherent) {milliseconds : Value}
    {isGuarded : Bool} {answer : TimerAnswer}
    (ok : (world.run (.advance milliseconds isGuarded)).2 = .ok answer) :
    ∃ target, world.targetOf milliseconds = .ok target ∧
      (world.run (.advance milliseconds isGuarded)).1.agenda.now = target ∧
      ∀ call ∈ (world.run (.advance milliseconds isGuarded)).1.agenda.calls, target < call.due := by
  have enough := Nat.le_of_eq (fuelFor_eq world (.advance milliseconds isGuarded)).symm
  obtain ⟨moves, runs⟩ := exists_runs _ world _ enough
  have performs : world.run (.advance milliseconds isGuarded) =
      ((perform (world.fuelFor (.advance milliseconds isGuarded)) world
          [.step (.advance milliseconds isGuarded)]).1,
        (perform (world.fuelFor (.advance milliseconds isGuarded)) world
          [.step (.advance milliseconds isGuarded)]).2.map fun _ => .nothing) := rfl
  rw [performs] at ok ⊢
  generalize perform (world.fuelFor (.advance milliseconds isGuarded)) world
    [.step (.advance milliseconds isGuarded)] = performed at ok runs ⊢
  obtain ⟨last, failure | ended⟩ := performed
  · cases ok
  · cases runs with
    | next first others =>
      simp only [Move.outcome] at first
      cases read : world.targetOf milliseconds with
      | error failure =>
        rw [read] at first
        cases first
      | ok target =>
        rw [read] at first
        cases first
        obtain ⟨now, none⟩ := others.arrives rfl rfl
        have ends := (others.follow.coherent coherent).2
        exact ⟨target, rfl, now, ends.late none⟩

end Arrival

/-- What a user of the timer may rely on. -/
structure Sound (world : TimerWorld) : Prop where
  pending : world.timer.isPending = true ↔
    ∃ call, world.agenda.calls = [call] ∧ world.timer.waiting = some call.number
  one : world.agenda.calls.length ≤ 1
  cancels : ∀ isGuarded, ∃ after flag, world.simple (.cancel isGuarded) = (after, .ok (.flag flag)) ∧
    (flag = true ↔ world.agenda.calls ≠ []) ∧ after.agenda.calls = []
  schedules : world.timer.isDisposed = false → ∀ delay tag followUp isGuarded,
    (world.simple (.schedule delay tag followUp isGuarded)).2 = .ok .nothing ↔
      ∃ wait, Timer.delayOf delay = .ok wait
  refuses : world.timer.isDisposed = true → ∀ delay tag followUp isGuarded,
    world.simple (.schedule delay tag followUp isGuarded) = (world, .error .disposed)

theorem Coherent.sound {world : TimerWorld} (coherent : world.Coherent) : world.Sound where
  pending := by
    rcases coherent.waits with ⟨idle, empty⟩ | ⟨call, waits, only⟩
    · simp [Timer.isPending, idle, empty]
    · simp [Timer.isPending, waits, only]
  one := by
    rcases coherent.waits with ⟨-, empty⟩ | ⟨call, -, only⟩
    · simp [empty]
    · simp [only]
  cancels isGuarded := by
    refine ⟨_, _, coherent.simple_cancel isGuarded, ?_, rfl⟩
    rcases coherent.waits with ⟨idle, empty⟩ | ⟨call, waits, only⟩
    · simp [Timer.isPending, idle, empty]
    · simp [Timer.isPending, waits, only]
  schedules := by
    intro live delay tag followUp isGuarded
    rw [coherent.simple_schedule live]
    cases Timer.delayOf delay <;> simp
  refuses disposed delay tag followUp isGuarded :=
    simple_schedule_disposed disposed delay tag followUp isGuarded

/-- Calls are made at the trailing edge. -/
structure TrailingEdge (moves : List Move) (last : TimerWorld) : Prop where
  sound : (∀ move ∈ moves, move.world.Sound) ∧ last.Sound
  made : moves.filterMap Move.made? = moves.tails.filterMap Move.survivor?
  reported : last.fired = (moves.filterMap Move.made?).map fun call => (call.action.tag, call.due)
  silent : ∀ before move after, moves = before ++ move :: after → move.disposes = true →
    (∀ later ∈ after, later.world.timer.isDisposed = true ∧ later.made? = none) ∧
      last.timer.isDisposed = true

private theorem opened_coherent (now : Int) : (opened now).Coherent :=
  ⟨rfl, .inl ⟨rfl, rfl⟩, fun _ => rfl⟩

private theorem Follow.trailingEdge {last : TimerWorld} {moves : List Move} {now : Int}
    (follow : Follow (opened now) moves last) : TrailingEdge moves last := by
  have start := opened_coherent now
  obtain ⟨coherent, ends⟩ := follow.coherent start
  obtain ⟨made, fired⟩ := follow.made start
  constructor
  · exact ⟨fun move member => (coherent move member).sound, ends.sound⟩
  · exact made
  · exact fired
  · rintro before move after rfl disposes
    have own : move.world.Coherent := coherent move (List.mem_append_right before (List.mem_cons_self ..))
    have leaves := own.leaves move.task move.tasks
    apply follow.split.disposed leaves.coherent
    rw [leaves.disposed]
    exact Bool.or_eq_true_iff.mpr (.inr disposes)

/-- Whatever is done with a timer and its clock, inside the calls that it makes or outside of them: the calls
that are made are those of the schedules that succeeded, whose due time an advance reached, and that no schedule,
cancel or disposal followed before it got there. -/
theorem trailing_edge (now : Int) (steps : List TimerStep) :
    (∃ moves, Carries (opened now) steps moves ((opened now).runAll steps) ∧
        TrailingEdge moves ((opened now).runAll steps)) ∧
      (∀ milliseconds isGuarded answer,
        (((opened now).runAll steps).run (.advance milliseconds isGuarded)).2 = .ok answer →
        ∃ target, ((opened now).runAll steps).targetOf milliseconds = .ok target ∧
          (((opened now).runAll steps).run (.advance milliseconds isGuarded)).1.agenda.now = target ∧
          ∀ call ∈ (((opened now).runAll steps).run (.advance milliseconds isGuarded)).1.agenda.calls,
            target < call.due) ∧
      (∀ n : Nat, n ≤ 10 ^ 12 → Timer.delayOf (.int n) = .ok (1000 * n : Nat)) ∧
      ∀ delay, (Value.int 0).compares .greater delay = .ok true → Timer.delayOf delay = .ok 0 := by
  obtain ⟨moves, carries⟩ := exists_carries (opened now) steps
  refine ⟨⟨moves, carries, carries.follow.trailingEdge⟩, ?_, ?_, ?_⟩
  · intro milliseconds isGuarded answer ok
    exact (carries.follow.coherent (opened_coherent now)).2.run_advance ok
  · intro n small
    exact Timer.delayOf_int small
  · intro delay negative
    exact Timer.delayOf_negative negative

/-- A call that is scheduled over is not made, and one that is scheduled inside a call is. -/
example :
    ((opened 0).runAll
        [.schedule (.int 300) (.text "early") [] false, .advance (.int 200) false,
          .schedule (.int 300) (.text "late") [.schedule (.int 100) (.text "nested") [] false] false,
          .advance (.int 400) false]).fired.map (fun call => (call.1.toText, call.2)) =
      [("late", 500000), ("nested", 600000)] := by
  decide +kernel

end TimerWorld

end DatasetForm
