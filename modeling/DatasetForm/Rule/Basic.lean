import DatasetForm.Outcome
import DatasetForm.Value.Order

/-!
Rules and lists of rules. A field has an ordered list of rules; the first one that finds something decides
what the field displays, and a rule that fails is shown as an error. Rules after that one are not called.
-/

set_option autoImplicit false
set_option relaxedAutoImplicit false

namespace DatasetForm

/-- A check of the value of a field. -/
structure Rule where
  /-- The name of the rule; rules made by hand may have none. -/
  name : Value
  /-- How long, in milliseconds, input has to be quiet before the rule is worth checking. -/
  debounce : Value := .null
  /-- The check itself, given the value and its context: the rows beside it, or null. -/
  check : Value → Value → Except Failure (Option Outcome)
  /-- Was the rule made by hand? Calls of such rules are reported. -/
  isHandMade : Bool := false

namespace Rule

/-- The outcome of one rule; a failure becomes an error. -/
def judge (rule : Rule) (value context : Value) : Option Outcome :=
  match rule.check value context with
  | .ok outcome => outcome
  | .error failure => some (.error (.failed failure))

/-- The quiet period of one rule, zero when it has none. -/
def quietPeriod (rule : Rule) : Value :=
  if rule.debounce.isTruthy then rule.debounce else .int 0

/-- The first outcome of the rules in order. -/
def evaluate : List Rule → Value → Value → Option Outcome
  | [], _, _ => none
  | rule :: rules, value, context =>
    match rule.judge value context with
    | some outcome => some outcome
    | none => evaluate rules value context

/-- The rules that are called until one has an outcome. -/
def called : List Rule → Value → Value → List Rule
  | [], _, _ => []
  | rule :: rules, value, context =>
    match rule.judge value context with
    | some _ => [rule]
    | none => rule :: called rules value context

/-- The longest quiet period after one that was found before. -/
def longestAfter (best : Value) : List Rule → Except Failure Value
  | [] => .ok best
  | rule :: rules =>
    match rule.quietPeriod.compares .greater best with
    | .error failure => .error failure
    | .ok true => longestAfter rule.quietPeriod rules
    | .ok false => longestAfter best rules

/-- The longest quiet period of the rules, zero when there are none. -/
def longestQuietPeriod : List Rule → Except Failure Value
  | [] => .ok (.int 0)
  | rule :: rules => longestAfter rule.quietPeriod rules

/-- A rule from a check that cannot fail and needs no context. -/
def plain (name : String) (debounce : Value) (check : Value → Option Outcome) : Rule :=
  { name := .text name, debounce, check := fun value _ => .ok (check value) }

end Rule

end DatasetForm
