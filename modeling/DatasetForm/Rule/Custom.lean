import DatasetForm.Rule.Basic

/-!
Rules made by hand, which answer in a fixed way: always, or for one value only.
-/

set_option autoImplicit false
set_option relaxedAutoImplicit false

namespace DatasetForm

/-- What a rule made by hand does. -/
inductive FixedAnswer
  | nothing
  | raises (kind : String) (detail : Value)
  | error (text : String)
  | warning (text : String)

/-- The answer of a rule made by hand. -/
def FixedAnswer.result : FixedAnswer → Except Failure (Option Outcome)
  | .nothing => .ok none
  | .raises kind detail => .error (.raised kind detail)
  | .error text => .ok (some (.error (.other text)))
  | .warning text => .ok (some (.warning (.other text)))

namespace Rule

/-- A rule made by hand. With `only`, it finds nothing in any other value. -/
def fixed (name debounce : Value) (only : Option Value) (answer : FixedAnswer) : Rule :=
  { name
    debounce
    isHandMade := true
    check := fun value _ =>
      match only with
      | none => answer.result
      | some expected => if value.same expected then answer.result else .ok none }

end Rule

end DatasetForm
