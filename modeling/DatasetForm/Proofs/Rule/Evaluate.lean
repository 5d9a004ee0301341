import DatasetForm.Rule.Basic

/-!
What a list of rules finds, in terms of what each rule finds by itself.
-/

set_option autoImplicit false
set_option relaxedAutoImplicit false

namespace DatasetForm

/-- Does an outcome, if there is one, keep the form from being submitted? -/
def Outcome.isBlocking (outcome : Option Outcome) : Bool :=
  (outcome.map Outcome.blocks).getD false

@[simp] theorem Outcome.isBlocking_none : Outcome.isBlocking none = false := rfl

@[simp] theorem Outcome.isBlocking_error (complaint : Complaint) :
    Outcome.isBlocking (some (.error complaint)) = true := rfl

@[simp] theorem Outcome.isBlocking_warning (complaint : Complaint) :
    Outcome.isBlocking (some (.warning complaint)) = false := rfl

/-- With the same first choice, results agree when the second choices do, where they count. -/
theorem or_eq_or_iff {α : Type} (a b c : Option α) : a.or b = a.or c ↔ (a = none → b = c) := by
  cases a <;> simp

namespace Rule

variable {rule : Rule} {value context : Value}

theorem judge_eq_none_iff : rule.judge value context = none ↔ rule.check value context = .ok none := by
  rw [judge]
  cases rule.check value context with
  | ok outcome => simp
  | error failure => simp

/-- A rule that never only warns. -/
def NeverWarns (rule : Rule) : Prop :=
  ∀ value context, ∀ outcome ∈ rule.judge value context, outcome.blocks = true

/-- It is enough that the rule never warns when it does not fail. -/
theorem neverWarns_of_check
    (blocks : ∀ value context outcome,
      rule.check value context = .ok (some outcome) → outcome.blocks = true) :
    rule.NeverWarns := by
  intro value context outcome found
  rw [judge] at found
  split at found
  next result checked => exact blocks value context outcome (checked.trans (congrArg _ found))
  next failure checked =>
    cases found
    rfl

@[simp] theorem evaluate_nil : evaluate [] value context = none := rfl

theorem evaluate_cons (rules : List Rule) :
    evaluate (rule :: rules) value context =
      (rule.judge value context).or (evaluate rules value context) := by
  cases h : rule.judge value context <;> simp [evaluate, h]

/-- Of rules that stand before others and never only warn, an error of any is an error of the list. -/
theorem isBlocking_evaluate_cons (h : rule.NeverWarns) (rules : List Rule) :
    Outcome.isBlocking (evaluate (rule :: rules) value context) =
      (Outcome.isBlocking (rule.judge value context) ||
        Outcome.isBlocking (evaluate rules value context)) := by
  cases found : rule.judge value context with
  | none => simp [evaluate, found]
  | some outcome =>
    have blocks : outcome.blocks = true := h value context outcome found
    simp [evaluate, found, Outcome.isBlocking, blocks]

/-- The last rule of a list may warn. -/
theorem isBlocking_evaluate_singleton :
    Outcome.isBlocking (evaluate [rule] value context) =
      Outcome.isBlocking (rule.judge value context) := by
  cases found : rule.judge value context <;> simp [evaluate, found]

end Rule

end DatasetForm
