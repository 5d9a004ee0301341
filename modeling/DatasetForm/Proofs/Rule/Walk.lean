import DatasetForm.Proofs.Rule.Evaluate
import Mathlib.Logic.ExistsUnique

/-!
The walk over a list of rules, as it is made: rules are called one after the other, a failure is caught, and the
first rule that answers or fails ends the walk. `Course` tells which rules are called, and what comes of it, for rules
that may do anything when they are called; the walk takes its course (`run_walk_iff`). Walking two lists one after the
other is walking the second only when the first had nothing to say (`walk_append`). For rules that only look at the
value and its context, what the walk answers is `evaluate`, and the calls that it notes down are those of `called`
(`run_walk_call`).
-/

set_option autoImplicit false
set_option relaxedAutoImplicit false

namespace DatasetForm

/-- A rule was called with a value and its context. -/
structure RuleCall where
  rule : Rule
  value : Value
  context : Value

namespace Rule

section Walk

variable {ρ σ : Type} (call : ρ → ExceptT Failure (StateM σ) (Option Outcome))

/-- Call the rules one after the other, up to the first that answers or fails. A failure is caught and shown. -/
def walk : List ρ → StateM σ (Option Outcome)
  | [] => return none
  | rule :: rules => do
    match ← (call rule).run with
    | .error failure => return some (.error (.failed failure))
    | .ok (some outcome) => return some outcome
    | .ok none => walk rules

/-- From a state, calling rules of a list in order leads to an outcome and a state: those up to the first that
answers or fails are called, or all of them when none does. -/
inductive Course : σ → List ρ → List ρ → Option Outcome → σ → Prop
  | exhausted {state : σ} : Course state [] [] none state
  | silent {start middle finish : σ} {rule : ρ} {rules calls : List ρ} {outcome : Option Outcome}
      (gives : (call rule).run.run start = (.ok none, middle)) (rest : Course middle rules calls outcome finish) :
      Course start (rule :: rules) (rule :: calls) outcome finish
  | answered {start finish : σ} {rule : ρ} {rules : List ρ} {outcome : Outcome}
      (gives : (call rule).run.run start = (.ok (some outcome), finish)) :
      Course start (rule :: rules) [rule] (some outcome) finish
  | failed {start finish : σ} {rule : ρ} {rules : List ρ} {failure : Failure}
      (gives : (call rule).run.run start = (.error failure, finish)) :
      Course start (rule :: rules) [rule] (some (.error (.failed failure))) finish

variable {call} {start finish finish' : σ} {rules more calls calls' : List ρ} {outcome outcome' : Option Outcome}

/-- What a walk does once the first rule was called. -/
private theorem run_walk_cons (rule : ρ) (rules : List ρ) :
    (walk call (rule :: rules)).run start =
      match (call rule).run.run start with
      | (.error failure, middle) => (some (.error (.failed failure)), middle)
      | (.ok (some outcome), middle) => (some outcome, middle)
      | (.ok none, middle) => (walk call rules).run middle := by
  rw [walk, StateT.run_bind]
  match (call rule).run.run start with
  | (.error failure, middle) => rfl
  | (.ok (some outcome), middle) => rfl
  | (.ok none, middle) => rfl

theorem Course.run_walk (course : Course call start rules calls outcome finish) :
    (walk call rules).run start = (outcome, finish) := by
  induction course with
  | exhausted => rfl
  | silent gives _ ih =>
    rw [run_walk_cons, gives]
    exact ih
  | answered gives => rw [run_walk_cons, gives]
  | failed gives => rw [run_walk_cons, gives]

theorem Course.of_walk (rules : List ρ) (start : σ) :
    ∃ calls, Course call start rules calls ((walk call rules).run start).1 ((walk call rules).run start).2 := by
  induction rules generalizing start with
  | nil => exact ⟨[], .exhausted⟩
  | cons rule rules ih =>
    rw [run_walk_cons]
    match gives : (call rule).run.run start with
    | (.error failure, middle) => exact ⟨[rule], .failed gives⟩
    | (.ok (some outcome), middle) => exact ⟨[rule], .answered gives⟩
    | (.ok none, middle) =>
      obtain ⟨calls, rest⟩ := ih middle
      exact ⟨rule :: calls, .silent gives rest⟩

theorem Course.calls_eq (course : Course call start rules calls outcome finish)
    (other : Course call start rules calls' outcome' finish') : calls = calls' := by
  induction course generalizing calls' outcome' finish' with
  | exhausted =>
    cases other
    rfl
  | silent gives _ ih =>
    cases other with
    | silent gives' rest =>
      obtain ⟨-, rfl⟩ := Prod.mk.inj (gives.symm.trans gives')
      rw [ih rest]
    | answered gives' => cases gives.symm.trans gives'
    | failed gives' => cases gives.symm.trans gives'
  | answered gives =>
    cases other with
    | silent gives' rest => cases gives.symm.trans gives'
    | answered gives' => rfl
    | failed gives' => rfl
  | failed gives =>
    cases other with
    | silent gives' rest => cases gives.symm.trans gives'
    | answered gives' => rfl
    | failed gives' => rfl

/-- The walk takes its course, and there is one only. -/
theorem run_walk_iff :
    (walk call rules).run start = (outcome, finish) ↔ ∃! calls, Course call start rules calls outcome finish := by
  constructor
  · intro walked
    obtain ⟨calls, course⟩ := @Course.of_walk _ _ call rules start
    rw [walked] at course
    exact ⟨calls, course, fun _ other => other.calls_eq course⟩
  · rintro ⟨calls, course, -⟩
    exact course.run_walk

private theorem run_walk_append (rules more : List ρ) :
    (walk call (rules ++ more)).run start =
      match (walk call rules).run start with
      | (some outcome, middle) => (some outcome, middle)
      | (none, middle) => (walk call more).run middle := by
  induction rules generalizing start with
  | nil => rfl
  | cons rule rules ih =>
    rw [List.cons_append, run_walk_cons, run_walk_cons]
    match (call rule).run.run start with
    | (.error failure, middle) => rfl
    | (.ok (some outcome), middle) => rfl
    | (.ok none, middle) => exact ih

/-- A walk over two lists is a walk over the first and, when it gives nothing, over the second. -/
theorem walk_append (rules more : List ρ) :
    walk call (rules ++ more) = (do
      match ← walk call rules with
      | some outcome => return some outcome
      | none => walk call more) := by
  refine StateT.ext fun start => ?_
  rw [StateT.run_bind, run_walk_append]
  match (walk call rules).run start with
  | (some outcome, middle) => rfl
  | (none, middle) => rfl

/-- The calls of a walk over two lists are those of the first and, when it gives nothing, then those of the second. -/
theorem Course.append_iff :
    Course call start (rules ++ more) calls outcome finish ↔
      (outcome ≠ none ∧ Course call start rules calls outcome finish) ∨
        ∃ first middle second, Course call start rules first none middle ∧
          Course call middle more second outcome finish ∧ calls = first ++ second := by
  constructor
  · intro course
    induction rules generalizing start calls with
    | nil => exact .inr ⟨[], start, calls, .exhausted, course, rfl⟩
    | cons rule rules ih =>
      cases course with
      | answered gives => exact .inl ⟨Option.some_ne_none _, .answered gives⟩
      | failed gives => exact .inl ⟨Option.some_ne_none _, .failed gives⟩
      | silent gives rest =>
        obtain ⟨answers, course⟩ | ⟨first, middle, second, course, course', rfl⟩ := ih rest
        · exact .inl ⟨answers, .silent gives course⟩
        · exact .inr ⟨rule :: first, middle, second, .silent gives course, course', rfl⟩
  · rintro (⟨answers, course⟩ | ⟨first, middle, second, course, course', rfl⟩)
    · induction course with
      | exhausted => exact absurd rfl answers
      | silent gives _ ih => exact .silent gives (ih answers)
      | answered gives => exact .answered gives
      | failed gives => exact .failed gives
    · generalize nothing : (none : Option Outcome) = result at course
      induction course with
      | exhausted => exact course'
      | silent gives _ ih => exact .silent gives (ih course' nothing)
      | answered => cases nothing
      | failed => cases nothing

end Walk

/-- Call a rule. The call is noted down first, whether the rule then answers or fails. -/
def call (value context : Value) (rule : Rule) : ExceptT Failure (StateM (List RuleCall)) (Option Outcome) := do
  modify (· ++ [⟨rule, value, context⟩])
  liftExcept (rule.check value context)

/-- A call is noted down, and then answered. -/
theorem run_call (value context : Value) (rule : Rule) (calls : List RuleCall) :
    (call value context rule).run.run calls =
      (rule.check value context, calls ++ [⟨rule, value, context⟩]) := by
  cases checked : rule.check value context <;> rw [call, checked] <;> rfl

/-- Noted down as they are made, the calls are those of `called`, and the outcome is that of `evaluate`. -/
theorem course_call (rules : List Rule) (value context : Value) (calls : List RuleCall) :
    Course (call value context) calls rules (called rules value context) (evaluate rules value context)
      (calls ++ (called rules value context).map fun rule => ⟨rule, value, context⟩) := by
  induction rules generalizing calls with
  | nil =>
    rw [called, List.map_nil, List.append_nil]
    exact .exhausted
  | cons rule rules ih =>
    have gives := run_call value context rule calls
    match checked : rule.check value context with
    | .ok none =>
      have nothing : rule.judge value context = none := by rw [judge, checked]
      have rest := ih (calls ++ [⟨rule, value, context⟩])
      rw [checked] at gives
      rw [List.append_assoc] at rest
      rw [called, evaluate, nothing]
      exact .silent gives rest
    | .ok (some outcome) =>
      have found : rule.judge value context = some outcome := by rw [judge, checked]
      rw [checked] at gives
      rw [called, evaluate, found]
      exact .answered gives
    | .error failure =>
      have found : rule.judge value context = some (.error (.failed failure)) := by rw [judge, checked]
      rw [checked] at gives
      rw [called, evaluate, found]
      exact .failed gives

theorem run_walk_call (rules : List Rule) (value context : Value) (calls : List RuleCall) :
    (walk (call value context) rules).run calls =
      (evaluate rules value context,
        calls ++ (called rules value context).map fun rule => ⟨rule, value, context⟩) :=
  (course_call rules value context calls).run_walk

theorem evaluate_append (rules more : List Rule) (value context : Value) :
    evaluate (rules ++ more) value context =
      (evaluate rules value context).or (evaluate more value context) := by
  induction rules with
  | nil => rfl
  | cons rule rules ih => rw [List.cons_append, evaluate_cons, evaluate_cons, ih, Option.or_assoc]

theorem called_append (rules more : List Rule) (value context : Value) :
    called (rules ++ more) value context = called rules value context ++
      if (evaluate rules value context).isNone then called more value context else [] := by
  induction rules with
  | nil => rfl
  | cons rule rules ih =>
    rw [List.cons_append, called, called, evaluate]
    cases rule.judge value context with
    | some outcome => rfl
    | none =>
      dsimp only
      rw [ih, List.cons_append]

/-- The first outcome wins, and no failure escapes. Whatever rules do when they are called, a walk over them calls
those up to the first that answers or fails, each once and in order, and gives that rule's answer, or its failure as
an error; rules put after others are called, and decide, only when those have nothing to say. For rules that look at
the value and its context, these are the calls of `called`, all of that value and context, and the outcome of
`evaluate`. -/
theorem first_outcome_wins :
    (∀ (ρ σ : Type) (call : ρ → ExceptT Failure (StateM σ) (Option Outcome)) (rules more : List ρ) (start : σ),
      (∀ outcome finish, (walk call rules).run start = (outcome, finish) ↔
        ∃! calls, Course call start rules calls outcome finish) ∧
      walk call (rules ++ more) = (do
        match ← walk call rules with
        | some outcome => return some outcome
        | none => walk call more) ∧
      ∀ calls outcome finish, Course call start (rules ++ more) calls outcome finish ↔
        (outcome ≠ none ∧ Course call start rules calls outcome finish) ∨
          ∃ first middle second, Course call start rules first none middle ∧
            Course call middle more second outcome finish ∧ calls = first ++ second) ∧
    (∀ (rules : List Rule) (value context : Value) (calls : List RuleCall),
      Course (call value context) calls rules (called rules value context) (evaluate rules value context)
          (calls ++ (called rules value context).map fun rule => ⟨rule, value, context⟩) ∧
        (walk (call value context) rules).run calls =
          (evaluate rules value context,
            calls ++ (called rules value context).map fun rule => ⟨rule, value, context⟩)) ∧
    (∀ (rules more : List Rule) (value context : Value),
      evaluate (rules ++ more) value context =
          (evaluate rules value context).or (evaluate more value context) ∧
        called (rules ++ more) value context = called rules value context ++
          if (evaluate rules value context).isNone then called more value context else []) ∧
    ∀ failure, (Outcome.error (.failed failure)).blocks = true ∧
      (Outcome.error (.failed failure)).message = "Validation failed: " ++ failure.message := by
  refine ⟨?_, ?_, ?_, fun _ => ⟨rfl, rfl⟩⟩
  · intro ρ σ call rules more start
    exact ⟨fun _ _ => run_walk_iff, walk_append rules more, fun _ _ _ => Course.append_iff⟩
  · intro rules value context calls
    exact ⟨course_call rules value context calls, run_walk_call rules value context calls⟩
  · intro rules more value context
    exact ⟨evaluate_append rules more value context, called_append rules more value context⟩

end Rule

end DatasetForm
