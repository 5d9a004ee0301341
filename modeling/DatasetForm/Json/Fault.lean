import DatasetForm.Failure

/-!
Why a text is no JSON, and where: the place is told by how much of the text is left there. A text can also
be JSON and yet go past what is read.
-/

set_option autoImplicit false
set_option relaxedAutoImplicit false

namespace DatasetForm

/-- Why a text is not read. -/
inductive JsonProblem
  | byteOrderMark
  | notPrintable
  | noValue
  | noComma
  | noColon
  | noKey
  | extra
  | control
  | unterminated
  | escape
  | codeEscape
  /-- A line that would begin another document stands inside a text. -/
  | documentMark
  /-- A whole number has more digits than are read. -/
  | tooManyDigits (digits : Nat)
  /-- Lists and mappings are nested more deeply than is read. -/
  | tooDeep
  deriving DecidableEq, Repr

/-- A place where a text is not read, with the number of characters left there. -/
structure JsonFault where
  problem : JsonProblem
  left : Nat
  deriving DecidableEq, Repr

/-- A fault at the beginning of `rest`. -/
def JsonFault.at {α : Type} (problem : JsonProblem) (rest : List Char) : Except JsonFault α :=
  .error ⟨problem, rest.length⟩

/-- The failure of reading a text that is JSON but goes past what is read. -/
def JsonProblem.limit? : JsonProblem → Option Failure
  | .tooManyDigits digits => some (.tooManyDigits digits)
  | .tooDeep => some .tooDeep
  | _ => none

/-- Why a text is not read, in words. -/
def JsonProblem.reason (problem : JsonProblem) : String :=
  match problem with
  | .byteOrderMark => "Unexpected UTF-8 BOM (decode using utf-8-sig)"
  | .notPrintable => "Special characters are not allowed"
  | .noValue => "Expecting value"
  | .noComma => "Expecting ',' delimiter"
  | .noColon => "Expecting ':' delimiter"
  | .noKey => "Expecting property name enclosed in double quotes"
  | .extra => "Extra data"
  | .control => "Invalid control character at"
  | .unterminated => "Unterminated string starting at"
  | .escape => "Invalid \\escape"
  | .codeEscape => "Invalid \\uXXXX escape"
  | .documentMark => "Unexpected document separator"
  | .tooManyDigits digits => (Failure.tooManyDigits digits).message
  | .tooDeep => Failure.tooDeep.message

/-- The text of a fault in a text: why, and on which line, in which column, at which character. -/
def JsonFault.message (fault : JsonFault) (text : List Char) : String :=
  let position := text.length - fault.left
  let before := text.take position
  let line := before.count '\n' + 1
  let column := (before.reverse.takeWhile (· != '\n')).length + 1
  s!"{fault.problem.reason}: line {line} column {column} (char {position})"

end DatasetForm
