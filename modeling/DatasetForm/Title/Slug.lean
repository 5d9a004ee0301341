import DatasetForm.Text.Runs
import DatasetForm.Text.Case
import DatasetForm.Value.Text

/-!
The slug of a title type: its words in small letters with hyphens between them. Whatever is not an ASCII
letter or digit separates words, and so does the change from a small letter or digit to a capital, so
that all spellings of a type share one slug.
-/

set_option autoImplicit false
set_option relaxedAutoImplicit false

namespace DatasetForm

namespace Title

/-- Does the character stand between words? -/
def separatesWords (c : Char) : Bool :=
  !Text.isAlnum c

/-- The words of a title type. -/
def slugWords (cs : List Char) : List (List Char) :=
  Text.runs separatesWords (Text.breakCamel '-' cs)

/-- The slug of a title type, as characters. -/
def slugChars (cs : List Char) : List Char :=
  (Text.joinRuns '-' (slugWords cs)).map Text.lowerAscii

/-- The slug of a title type. -/
def slug (text : String) : String :=
  String.ofList (slugChars text.toList)

/-- The slug of a value; null has none. -/
def slugOf : Value → String
  | .null => ""
  | v => slug v.toText

end Title

end DatasetForm
