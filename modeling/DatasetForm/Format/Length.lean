import DatasetForm.Outcome
import DatasetForm.Value.Order

/-!
Required fields and limits on the length of a text. Lengths count characters, without the blanks at both
ends.
-/

set_option autoImplicit false
set_option relaxedAutoImplicit false

namespace DatasetForm

namespace Format

/-- Refuse a value whose text is blank. -/
def checkRequired (field : String) (v : Value) : Verdict :=
  if v.isBlank then .refused (.required field) else .accepted none

/-- The length of a value's text. -/
def textLength (v : Value) : Nat :=
  v.trimmedText.length

/-- Does a limit that may be missing compare so with a length? -/
def exceedsLimit (length : Nat) (comparison : Comparison) (limit : Value) : Except Failure Bool :=
  match limit with
  | .null => .ok false
  | limit => (Value.int length).compares comparison limit

/-- Refuse a text that is shorter or longer than the limits; a limit of null does not count. -/
def checkLength (field : String) (least most v : Value) : Except Failure Verdict :=
  match exceedsLimit (textLength v) .less least with
  | .error failure => .error failure
  | .ok true => .ok (.refused (.tooShort field least (textLength v)))
  | .ok false =>
    match exceedsLimit (textLength v) .greater most with
    | .error failure => .error failure
    | .ok true => .ok (.refused (.tooLong field most (textLength v)))
    | .ok false => .ok (.accepted none)

end Format

end DatasetForm
