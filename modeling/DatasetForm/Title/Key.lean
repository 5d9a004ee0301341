import DatasetForm.Text.Blank
import DatasetForm.Text.Case
import DatasetForm.Text.Normal
import DatasetForm.Value.Order

/-!
The key under which titles are compared: titles that look alike, but for case and the amount of white
space, have the same key.
-/

set_option autoImplicit false
set_option relaxedAutoImplicit false

namespace DatasetForm

namespace Title

/-- The key of a title, as characters: the words of its normal form without regard to case. -/
def keyChars (cs : List Char) : List Char :=
  Text.joinRuns ' ' (Text.words (Text.fold (Text.normalKC cs)))

def key (title : String) : String :=
  String.ofList (keyChars title.toList)

/-- The key of a value; one that counts as missing has the empty key. -/
def keyOf (v : Value) : Except Failure String :=
  match v.orEmpty with
  | .text s => .ok (key s)
  | other => .error (.notNormalizable other.kindName)

end Title

end DatasetForm
