import DatasetForm.Proofs.Agenda
import DatasetForm.Timer.Script
import Mathlib

/-!
What a script for a timer does, move by move. `Runs` lists the moves by which tasks are carried out, those of
steps inside calls among them, and knows no bound on their number; the bound that a script computes is never
reached, because each move takes away from the weight of tasks and agenda (`exists_carries`).
-/

set_option autoImplicit false
set_option relaxedAutoImplicit false

namespace DatasetForm

/-- A move: the world in which it is made, the task that is carried out, and those after it. -/
structure Move where
  world : TimerWorld
  task : TimerTask
  tasks : List TimerTask

/-- The number of moves that a task can take by itself. -/
def TimerTask.weight : TimerTask → Nat
  | .step taken => taken.weight
  | .drain _ | .leave => 1

namespace TimerWorld

/-- What follows a failure: the tasks after the guarded step, or nothing more. -/
def stop (world : TimerWorld) (failure : Failure) (tasks : List TimerTask) :
    TimerWorld × Except Failure (List TimerTask) :=
  match afterGuard? tasks with
  | some rest => (world.report failure, .ok rest)
  | none => (world, .error failure)

/-- The number of moves that calls can take when they are made. -/
def callsWeight (calls : List (Call TimerCall)) : Nat :=
  (calls.map fun call => 1 + TimerStep.weightAll call.action.followUp).sum

/-- A bound on the number of moves by which tasks are carried out. -/
def weight (world : TimerWorld) (tasks : List TimerTask) : Nat :=
  (tasks.map TimerTask.weight).sum + callsWeight world.agenda.calls

/-- A step can fail: an advance by a duration that cannot be read, or a call that cannot be scheduled. -/
def Fails (world : TimerWorld) (step : TimerStep) (next : TimerWorld) (failure : Failure) : Prop :=
  (∃ milliseconds isGuarded, step = .advance milliseconds isGuarded ∧
    world.targetOf milliseconds = .error failure ∧ next = world) ∨
  world.simple step = (next, .error failure)

end TimerWorld

namespace Move

open TimerWorld

/-- The world after a move and the tasks that are left, or the failure that ends the run. -/
def outcome (move : Move) : TimerWorld × Except Failure (List TimerTask) :=
  match move.task with
  | .leave => (move.world, .ok move.tasks)
  | .drain target =>
    match move.world.agenda.takeDue? target with
    | none => ({ move.world with agenda := move.world.agenda.rest target }, .ok move.tasks)
    | some (call, agenda) =>
      (move.world.fire call agenda, .ok (followUpTasks call.action.followUp ++ .drain target :: move.tasks))
  | .step (.advance milliseconds _) =>
    match move.world.targetOf milliseconds with
    | .ok target => (move.world, .ok (.drain target :: move.tasks))
    | .error failure => move.world.stop failure move.tasks
  | .step step =>
    match move.world.simple step with
    | (next, .ok _) => (next, .ok move.tasks)
    | (next, .error failure) => next.stop failure move.tasks

/-- The ways in which a move can turn out. -/
inductive Case (world : TimerWorld) (tasks : List TimerTask) :
    TimerTask → TimerWorld × Except Failure (List TimerTask) → Prop
  | leave : Case world tasks .leave (world, .ok tasks)
  | rest {target : Int} (none : world.agenda.takeDue? target = none) :
      Case world tasks (.drain target) ({ world with agenda := world.agenda.rest target }, .ok tasks)
  | fire {target : Int} {call : Call TimerCall} {agenda : Agenda TimerCall}
      (taken : world.agenda.takeDue? target = some (call, agenda)) :
      Case world tasks (.drain target)
        (world.fire call agenda, .ok (followUpTasks call.action.followUp ++ .drain target :: tasks))
  | advance {milliseconds : Value} {isGuarded : Bool} {target : Int}
      (read : world.targetOf milliseconds = .ok target) :
      Case world tasks (.step (.advance milliseconds isGuarded)) (world, .ok (.drain target :: tasks))
  | simple {step : TimerStep} {next : TimerWorld} {answer : TimerAnswer}
      (other : ∀ milliseconds isGuarded, step ≠ .advance milliseconds isGuarded)
      (done : world.simple step = (next, .ok answer)) : Case world tasks (.step step) (next, .ok tasks)
  | stop {step : TimerStep} {next : TimerWorld} {failure : Failure}
      (fails : world.Fails step next failure) : Case world tasks (.step step) (next.stop failure tasks)

theorem outcome_cases (world : TimerWorld) (task : TimerTask) (tasks : List TimerTask) :
    Case world tasks task (Move.mk world task tasks).outcome := by
  have plain (step : TimerStep) (other : ∀ milliseconds isGuarded, step ≠ .advance milliseconds isGuarded) :
      Case world tasks (.step step) (match world.simple step with
        | (next, .ok _) => (next, .ok tasks)
        | (next, .error failure) => next.stop failure tasks) := by
    rcases done : world.simple step with ⟨next, failure | answer⟩
    · exact .stop (.inr done)
    · exact .simple other done
  cases task with
  | leave => exact .leave
  | drain target =>
    simp only [outcome]
    cases taken : world.agenda.takeDue? target with
    | none => exact .rest taken
    | some entry => exact .fire taken
  | step step =>
    cases step with
    | advance milliseconds isGuarded =>
      simp only [outcome]
      cases read : world.targetOf milliseconds with
      | error failure => exact .stop (.inl ⟨milliseconds, isGuarded, rfl, read, rfl⟩)
      | ok target => exact .advance read
    | _ => exact plain _ (by simp)

end Move

namespace TimerWorld

theorem perform_cons (fuel : Nat) (world : TimerWorld) (task : TimerTask) (tasks : List TimerTask) :
    perform (fuel + 1) world (task :: tasks) =
      match (Move.mk world task tasks).outcome with
      | (next, .ok rest) => perform fuel next rest
      | (next, .error failure) => (next, .error failure) := by
  have stops (next : TimerWorld) (failure : Failure) :
      (match afterGuard? tasks with
        | some rest => perform fuel (next.report failure) rest
        | none => (next, .error failure)) =
      match next.stop failure tasks with
        | (next, .ok rest) => perform fuel next rest
        | (next, .error failure) => (next, .error failure) := by
    rw [stop]
    cases afterGuard? tasks <;> rfl
  have plain (answer : TimerWorld × Except Failure TimerAnswer) :
      (match answer with
        | (next, .ok _) => perform fuel next tasks
        | (next, .error failure) =>
          match afterGuard? tasks with
          | some rest => perform fuel (next.report failure) rest
          | none => (next, .error failure)) =
      match ((match answer with
          | (next, .ok _) => (next, .ok tasks)
          | (next, .error failure) => next.stop failure tasks) :
            TimerWorld × Except Failure (List TimerTask)) with
        | (next, .ok rest) => perform fuel next rest
        | (next, .error failure) => (next, .error failure) := by
    obtain ⟨next, failure | answer⟩ := answer
    · exact stops next failure
    · rfl
  cases task with
  | leave => rfl
  | drain target =>
    simp only [perform, Move.outcome]
    cases world.agenda.takeDue? target <;> rfl
  | step step =>
    cases step with
    | advance milliseconds isGuarded =>
      simp only [perform, Move.outcome]
      cases world.targetOf milliseconds with
      | error failure => exact stops world failure
      | ok target => rfl
    | schedule delay tag followUp isGuarded =>
      exact plain (world.simple (.schedule delay tag followUp isGuarded))
    | cancel isGuarded => exact plain (world.simple (.cancel isGuarded))
    | dispose isGuarded => exact plain (world.simple (.dispose isGuarded))
    | enter isGuarded => exact plain (world.simple (.enter isGuarded))
    | exit isGuarded => exact plain (world.simple (.exit isGuarded))

section Weight

private theorem foldr_weight (calls : List (Call TimerCall)) :
    calls.foldr (fun call rest => 1 + TimerStep.weightAll call.action.followUp + rest) 0 =
      callsWeight calls := by
  induction calls with
  | nil => rfl
  | cons call calls ih => rw [List.foldr_cons, ih, callsWeight, callsWeight, List.map_cons, List.sum_cons]

theorem fuelFor_eq (world : TimerWorld) (step : TimerStep) :
    world.fuelFor step = world.weight [.step step] := by
  rw [fuelFor, foldr_weight, weight, List.map_singleton, List.sum_singleton]
  rfl

private theorem callsWeight_insertCall (call : Call TimerCall) (calls : List (Call TimerCall)) :
    callsWeight (Agenda.insertCall call calls) =
      1 + TimerStep.weightAll call.action.followUp + callsWeight calls := by
  have same := ((Agenda.insertCall_perm call calls).map fun call =>
    1 + TimerStep.weightAll call.action.followUp).sum_eq
  rwa [List.map_cons, List.sum_cons] at same

private theorem callsWeight_cancel (timer : Timer) (agenda : Agenda TimerCall) :
    callsWeight (timer.cancel agenda).2.calls ≤ callsWeight agenda.calls := by
  rw [Timer.cancel]
  cases timer.waiting with
  | none => exact Nat.le_refl _
  | some number =>
    have fewer : (agenda.strike number).calls.Sublist agenda.calls := List.filter_sublist
    exact (fewer.map _).sum_le_sum fun _ _ => Nat.zero_le _

private theorem sum_followUpTasks (steps : List TimerStep) :
    ((followUpTasks steps).map TimerTask.weight).sum ≤ TimerStep.weightAll steps := by
  induction steps with
  | nil => rfl
  | cons step steps ih =>
    rw [followUpTasks] at ih ⊢
    rw [List.flatMap_cons, List.map_append, List.sum_append, TimerStep.weightAll]
    have own : ((if step.isGuarded then [TimerTask.step step, .leave] else [.step step]).map
        TimerTask.weight).sum ≤ step.weight + 1 := by
      split <;> simp [TimerTask.weight]
    omega

theorem afterGuard?_eq_some {tasks rest : List TimerTask} (guarded : afterGuard? tasks = some rest) :
    ∃ dropped, tasks = dropped ++ .leave :: rest := by
  induction tasks with
  | nil => cases guarded
  | cons task tasks ih =>
    cases task with
    | leave =>
      cases guarded
      exact ⟨[], rfl⟩
    | _ =>
      obtain ⟨dropped, same⟩ := ih guarded
      exact ⟨_ :: dropped, congrArg _ same⟩

private theorem weight_stop {world next : TimerWorld} {failure : Failure} {tasks rest : List TimerTask}
    (stops : next.stop failure tasks = (world, .ok rest)) : world.weight rest ≤ next.weight tasks := by
  rw [stop] at stops
  cases guarded : afterGuard? tasks with
  | none =>
    rw [guarded] at stops
    cases stops
  | some later =>
    rw [guarded] at stops
    cases stops
    obtain ⟨dropped, rfl⟩ := afterGuard?_eq_some guarded
    rw [weight, weight, List.map_append, List.sum_append, List.map_cons, List.sum_cons]
    change _ + callsWeight next.agenda.calls ≤ _
    omega

private theorem callsWeight_schedule (timer : Timer) (agenda : Agenda TimerCall) (hasClock : Bool)
    (delay : Value) (call : TimerCall) :
    callsWeight (timer.schedule agenda hasClock delay call).2.1.calls ≤
      1 + TimerStep.weightAll call.followUp + callsWeight agenda.calls := by
  have cancelled := callsWeight_cancel timer agenda
  rw [Timer.schedule]
  split
  · exact Nat.le_add_left _ _
  · cases hasClock with
    | false => exact Nat.le_add_left_of_le cancelled
    | true =>
      cases Timer.delayOf delay with
      | error failure => exact Nat.le_add_left_of_le cancelled
      | ok wait =>
        change callsWeight (Agenda.insertCall _ (timer.cancel agenda).2.calls) ≤ _
        rw [callsWeight_insertCall]
        exact Nat.add_le_add_left cancelled _

private theorem weight_simple (world : TimerWorld) (step : TimerStep) :
    callsWeight (world.simple step).1.agenda.calls + 1 ≤ step.weight + callsWeight world.agenda.calls := by
  have cancelled := callsWeight_cancel world.timer world.agenda
  cases step with
  | schedule delay tag followUp isGuarded =>
    have scheduled := callsWeight_schedule world.timer world.agenda world.hasClock delay ⟨tag, followUp⟩
    rw [TimerStep.weight]
    change callsWeight (world.timer.schedule world.agenda world.hasClock delay ⟨tag, followUp⟩).2.1.calls + 1 ≤ _
    change _ ≤ 1 + TimerStep.weightAll followUp + _ at scheduled
    omega
  | cancel isGuarded =>
    change callsWeight (world.timer.cancel world.agenda).2.calls + 1 ≤ 1 + _
    omega
  | dispose isGuarded =>
    change callsWeight (world.timer.cancel world.agenda).2.calls + 1 ≤ 1 + _
    omega
  | enter isGuarded =>
    change callsWeight world.agenda.calls + 1 ≤ 1 + _
    omega
  | exit isGuarded =>
    change callsWeight (world.timer.cancel world.agenda).2.calls + 1 ≤ 1 + _
    omega
  | advance milliseconds isGuarded =>
    change callsWeight world.agenda.calls + 1 ≤ 2 + _
    omega

private theorem weight_fails {world next : TimerWorld} {step : TimerStep} {failure : Failure}
    (fails : world.Fails step next failure) :
    callsWeight next.agenda.calls + 1 ≤ step.weight + callsWeight world.agenda.calls := by
  rcases fails with ⟨milliseconds, isGuarded, rfl, -, rfl⟩ | failed
  · change callsWeight next.agenda.calls + 1 ≤ 2 + _
    omega
  · have left := weight_simple world step
    rwa [failed] at left

theorem weight_outcome (world : TimerWorld) (task : TimerTask) (tasks : List TimerTask)
    {next : TimerWorld} {rest : List TimerTask}
    (moves : (Move.mk world task tasks).outcome = (next, .ok rest)) :
    next.weight rest < world.weight (task :: tasks) := by
  have turns := Move.outcome_cases world task tasks
  generalize (Move.mk world task tasks).outcome = answer at moves turns
  have total : world.weight (task :: tasks) =
      task.weight + ((tasks.map TimerTask.weight).sum + callsWeight world.agenda.calls) := by
    rw [weight, List.map_cons, List.sum_cons, Nat.add_assoc]
  rw [total]
  cases turns with
  | leave =>
    cases moves
    exact Nat.lt_add_of_pos_left Nat.zero_lt_one
  | rest none =>
    cases moves
    exact Nat.lt_add_of_pos_left Nat.zero_lt_one
  | @fire target call agenda taken =>
    cases moves
    obtain ⟨others, calls, -, rfl⟩ := Agenda.takeDue?_eq_some taken
    have followUps := sum_followUpTasks call.action.followUp
    rw [weight, List.map_append, List.sum_append, List.map_cons, List.sum_cons, calls, callsWeight, callsWeight,
      List.map_cons, List.sum_cons]
    change _ + (1 + _) + (others.map _).sum < 1 + _
    omega
  | advance read =>
    cases moves
    rw [weight, List.map_cons, List.sum_cons]
    change 1 + _ + _ < 2 + _
    omega
  | @simple step _ answer other done =>
    cases moves
    have left := weight_simple world step
    rw [done] at left
    change callsWeight next.agenda.calls + 1 ≤ _ at left
    change _ + callsWeight next.agenda.calls < step.weight + _
    omega
  | @stop step failing failure fails =>
    have left := weight_fails fails
    have dropped := weight_stop moves
    change _ ≤ _ + callsWeight failing.agenda.calls at dropped
    change _ < step.weight + _
    omega

end Weight

/-- Tasks are carried out by moves: the moves, one after the other, the world that they leave, and whether a
failure ended them. -/
inductive Runs : TimerWorld → List TimerTask → List Move → TimerWorld → Except Failure Unit → Prop
  | done (world : TimerWorld) : Runs world [] [] world (.ok ())
  | next {world next last : TimerWorld} {task : TimerTask} {tasks rest : List TimerTask} {moves : List Move}
      {result : Except Failure Unit} (first : (Move.mk world task tasks).outcome = (next, .ok rest))
      (others : Runs next rest moves last result) :
      Runs world (task :: tasks) (⟨world, task, tasks⟩ :: moves) last result
  | failed {world last : TimerWorld} {task : TimerTask} {tasks : List TimerTask} {failure : Failure}
      (only : (Move.mk world task tasks).outcome = (last, .error failure)) :
      Runs world (task :: tasks) [⟨world, task, tasks⟩] last (.error failure)

theorem exists_runs (fuel : Nat) (world : TimerWorld) (tasks : List TimerTask)
    (enough : world.weight tasks ≤ fuel) :
    ∃ moves, Runs world tasks moves (perform fuel world tasks).1 (perform fuel world tasks).2 := by
  -- on the fuel: each move takes away from the weight, so that what is left of the fuel lasts for the others
  induction fuel generalizing world tasks with
  | zero =>
    cases tasks with
    | nil => exact ⟨[], .done world⟩
    | cons task tasks =>
      have positive : 0 < task.weight := by
        cases task with
        | step step => cases step <;> simp [TimerTask.weight, TimerStep.weight]
        | _ => exact Nat.zero_lt_one
      rw [weight, List.map_cons, List.sum_cons] at enough
      omega
  | succ fuel ih =>
    cases tasks with
    | nil => exact ⟨[], .done world⟩
    | cons task tasks =>
      rw [perform_cons]
      rcases first : (Move.mk world task tasks).outcome with ⟨next, failure | rest⟩
      · exact ⟨_, .failed first⟩
      · have less := weight_outcome world task tasks first
        obtain ⟨moves, others⟩ := ih next rest (by omega)
        exact ⟨_, .next first others⟩

/-- The world after the steps of a script. A step that fails does not end the script. -/
def runAll (world : TimerWorld) : List TimerStep → TimerWorld
  | [] => world
  | step :: steps => runAll (world.run step).1 steps

/-- The moves by which the steps of a script are carried out, and the world that they leave. -/
inductive Carries : TimerWorld → List TimerStep → List Move → TimerWorld → Prop
  | done (world : TimerWorld) : Carries world [] [] world
  | next {world next last : TimerWorld} {step : TimerStep} {steps : List TimerStep} {moves more : List Move}
      {result : Except Failure Unit} (first : Runs world [.step step] moves next result)
      (others : Carries next steps more last) : Carries world (step :: steps) (moves ++ more) last

private theorem exists_runs_step (world : TimerWorld) (step : TimerStep) :
    ∃ moves result, Runs world [.step step] moves (world.run step).1 result := by
  have simple (other : ∀ milliseconds isGuarded, step ≠ .advance milliseconds isGuarded)
      (plain : world.run step = world.simple step) :
      ∃ moves result, Runs world [.step step] moves (world.run step).1 result := by
    have turns := Move.outcome_cases world (.step step) []
    rw [plain]
    rcases first : (Move.mk world (.step step) []).outcome with ⟨next, failure | rest⟩
    · rw [first] at turns
      cases turns with
      | stop fails =>
        rcases fails with ⟨milliseconds, isGuarded, rfl, -⟩ | failed
        · exact absurd rfl (other milliseconds isGuarded)
        · rw [failed]
          exact ⟨_, _, .failed first⟩
    · rw [first] at turns
      cases turns with
      | advance => exact absurd rfl (other _ _)
      | simple _ done =>
        rw [done]
        exact ⟨_, _, .next first (.done next)⟩
  cases step with
  | advance milliseconds isGuarded =>
    have enough : world.weight [.step (.advance milliseconds isGuarded)] ≤
        world.fuelFor (.advance milliseconds isGuarded) := Nat.le_of_eq (fuelFor_eq ..).symm
    obtain ⟨moves, runs⟩ := exists_runs _ world _ enough
    exact ⟨moves, _, runs⟩
  | _ => exact simple (by simp) rfl

/-- A script is carried out to its end. -/
theorem exists_carries (world : TimerWorld) (steps : List TimerStep) :
    ∃ moves, Carries world steps moves (world.runAll steps) := by
  induction steps generalizing world with
  | nil => exact ⟨[], .done world⟩
  | cons step steps ih =>
    obtain ⟨moves, result, first⟩ := exists_runs_step world step
    obtain ⟨more, others⟩ := ih (world.run step).1
    exact ⟨_, .next first others⟩

/-- Moves that follow one another: each is made in the world that the one before it has left. -/
def Follow : TimerWorld → List Move → TimerWorld → Prop
  | world, [], last => world = last
  | world, move :: moves, last => move.world = world ∧ Follow move.outcome.1 moves last

private theorem Follow.append {world next last : TimerWorld} {moves more : List Move}
    (first : Follow world moves next) (others : Follow next more last) : Follow world (moves ++ more) last := by
  induction moves generalizing world with
  | nil =>
    cases first
    exact others
  | cons move moves ih => exact ⟨first.1, ih first.2⟩

theorem Runs.follow {world last : TimerWorld} {tasks : List TimerTask} {moves : List Move}
    {result : Except Failure Unit} (runs : Runs world tasks moves last result) : Follow world moves last := by
  induction runs with
  | done world => rfl
  | next first _ ih =>
    rw [Follow, first]
    exact ⟨rfl, ih⟩
  | failed only =>
    rw [Follow, only]
    exact ⟨rfl, rfl⟩

theorem Carries.follow {world last : TimerWorld} {steps : List TimerStep} {moves : List Move}
    (carries : Carries world steps moves last) : Follow world moves last := by
  induction carries with
  | done world => rfl
  | next first _ ih => exact first.follow.append ih

end TimerWorld

end DatasetForm
