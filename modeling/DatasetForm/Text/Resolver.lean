import DatasetForm.Text.Case

/-!
Resolver prefixes: the beginning of a text that says where an identifier can be looked up. Prefixes are
written in small ASCII letters and found without regard to case.
-/

set_option autoImplicit false
set_option relaxedAutoImplicit false

namespace DatasetForm.Text

/-- What follows a prefix at the beginning of a text. No character past ASCII has the lower-case form of
a letter in a prefix, so ASCII case is all that counts. -/
def afterPrefix? : (written cs : List Char) → Option (List Char)
  | [], cs => some cs
  | _ :: _, [] => none
  | p :: ps, c :: cs => if lowerAscii c == p then afterPrefix? ps cs else none

/-- A text without the first of the prefixes that it begins with. -/
def dropResolver (prefixes : List String) (cs : List Char) : List Char :=
  (prefixes.findSome? fun written => afterPrefix? written.toList cs).getD cs

end DatasetForm.Text
