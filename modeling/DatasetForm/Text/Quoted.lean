import DatasetForm.Text.Printable
import DatasetForm.Text.Surrogate

/-!
Texts in quotes, as they stand inside lists, mappings and messages: in single quotes, or in double
quotes when the text holds single quotes and no double ones; the quote in use, the backslash and all
that is not printable is escaped.
-/

set_option autoImplicit false
set_option relaxedAutoImplicit false

namespace DatasetForm.Text

/-- The last `width` hexadecimal digits of a number, in lower case. -/
def hexDigits : (width n : Nat) → List Char
  | 0, _ => []
  | width + 1, n => hexDigits width (n / 16) ++ [Nat.digitChar (n % 16)]

/-- The mark that a text is quoted with. -/
def quoteMark (cs : List Char) : Char :=
  if cs.contains '\'' && !cs.contains '"' then '"' else '\''

/-- A character by its code. -/
def escapeCode (c : Char) : List Char :=
  if codeOf c < 0x10000 then '\\' :: 'u' :: hexDigits 4 (codeOf c)
  else '\\' :: 'U' :: hexDigits 8 (codeOf c)

/-- One character inside quotes. -/
def escapeChar (mark c : Char) : List Char :=
  if c == mark || c == '\\' then ['\\', c]
  else if c == '\n' then ['\\', 'n']
  else if c == '\r' then ['\\', 'r']
  else if c == '\t' then ['\\', 't']
  else if isPrintable c then [c]
  else if codeOf c < 0x100 then '\\' :: 'x' :: hexDigits 2 (codeOf c)
  else escapeCode c

def quoted (text : String) : String :=
  let cs := text.toList
  let mark := quoteMark cs
  String.ofList (mark :: cs.flatMap (escapeChar mark) ++ [mark])

/-- A text with its halves of surrogate pairs by their codes. -/
def escapeHalves (text : String) : String :=
  String.ofList (text.toList.flatMap fun c => if isHalf c then escapeCode c else [c])

end DatasetForm.Text
