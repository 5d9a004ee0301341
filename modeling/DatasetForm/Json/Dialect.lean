import DatasetForm.Json.Fault
import DatasetForm.Number.Decimal

/-!
Two kinds of files hold JSON. One is read as nothing else; the other is a language of plain scalars, lists and
mappings, of which JSON is a part, and which has rules of its own for numbers, for the lines of a text, for
where a key has to end, and for pairs of escapes.
-/

set_option autoImplicit false
set_option relaxedAutoImplicit false

namespace DatasetForm

/-- How a kind of files is read. -/
structure Dialect where
  /-- The value of a number, given as it is written and as it is read. -/
  number : List Char → Decimal → Except JsonProblem Value
  /-- The value of one of the words for numbers that no digits write. -/
  word : String → Value
  /-- Is the character a blank between tokens? -/
  isSpace : Char → Bool
  /-- Do two escapes make one character when they are the halves of a surrogate pair? -/
  joinsHalves : Bool
  /-- May lines end inside a text, and are they folded then? -/
  foldsLines : Bool
  /-- The most characters from the opening quote of a key to its colon, on one line, if that matters. -/
  keySpan? : Option Nat
  /-- How deep lists and mappings may be nested. -/
  depth : Nat

namespace Dialect

/-- Does the character end a line? -/
def endsLine (c : Char) : Bool :=
  c == '\n' || c == '\r' || c.toNat == 0x85 || c.toNat == 0x2028 || c.toNat == 0x2029

/-- How many digits stand in a number. -/
def digitCount (written : List Char) : Nat :=
  written.countP Decimal.isDigit

/-- Numbers are whole when they have neither fraction nor exponent, otherwise the nearest binary
numbers. -/
def jsonNumber (written : List Char) (d : Decimal) : Except JsonProblem Value :=
  if !d.whole then .ok (.float d.toBinary64)
  else if digitCount written > Failure.digitLimit then .error (.tooManyDigits (digitCount written))
  else .ok (.int d.toInt)

/-- Files of JSON and nothing else. -/
def json : Dialect :=
  { number := jsonNumber
    word := fun w =>
      if w == "NaN" then .float .nan
      else if w == "Infinity" then .float (.infinite false)
      else .float (.infinite true)
    isSpace := fun c => c == ' ' || c == '\t' || c == '\n' || c == '\r'
    joinsHalves := true
    foldsLines := false
    keySpan? := none
    depth := 980 }

/-- Does an exponent in the text have a sign, if there is one? -/
def exponentIsSigned (written : List Char) : Bool :=
  match written.dropWhile fun c => !(c == 'e' || c == 'E') with
  | _ :: c :: _ => c == '+' || c == '-'
  | _ => true

/-- A number with a fraction or exponent needs a point, and a sign in its exponent, to be one; all else is
text. -/
def scalarNumber (written : List Char) (d : Decimal) : Except JsonProblem Value :=
  if d.whole then .ok (.int d.toInt)
  else if written.contains '.' && exponentIsSigned written then .ok (.float d.toBinary64)
  else .ok (.text (String.ofList written))

/-- Files of plain scalars, lists and mappings. -/
def scalars : Dialect :=
  { number := scalarNumber
    word := .text
    isSpace := fun c => c == ' ' || endsLine c
    joinsHalves := false
    foldsLines := true
    keySpan? := some 1024
    depth := 483 }

end Dialect

end DatasetForm
