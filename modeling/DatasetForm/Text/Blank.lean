import DatasetForm.Text.Runs

/-!
White space: which characters are blank, the text between the blanks at its ends, and the words
between runs of blanks.
-/

set_option autoImplicit false
set_option relaxedAutoImplicit false

namespace DatasetForm.Text

/-- Is the character white space? These are the controls that separate lines, columns, pages and
records, and the characters of Unicode property White_Space. -/
def isBlank (c : Char) : Bool :=
  let n := c.toNat
  (0x09 ≤ n && n ≤ 0x0D) || (0x1C ≤ n && n ≤ 0x20) || n == 0x85 || n == 0xA0 || n == 0x1680 ||
    (0x2000 ≤ n && n ≤ 0x200A) || n == 0x2028 || n == 0x2029 || n == 0x202F || n == 0x205F ||
    n == 0x3000

/-- The characters from the first that is not blank on. -/
def trimLeft (cs : List Char) : List Char :=
  cs.dropWhile isBlank

/-- The characters up to the last that is not blank. -/
def trimRight (cs : List Char) : List Char :=
  (cs.reverse.dropWhile isBlank).reverse

/-- The characters between the blanks at both ends. -/
def trim (cs : List Char) : List Char :=
  trimRight (trimLeft cs)

/-- The text between the blanks at its ends. -/
def strip (text : String) : String :=
  String.ofList (trim text.toList)

/-- The runs of characters that are not blank, in order. -/
def words (cs : List Char) : List (List Char) :=
  runs isBlank cs

end DatasetForm.Text
