import DatasetForm.Text.Blank
import DatasetForm.Text.Digit
import DatasetForm.Value.Order

/-!
Date tokens: a date, and after a `T` a clock time and a zone. `DateToken.parse` takes a token apart,
`DateToken.text` puts one together, and `DateToken.dayOf?` reads the date part as a day of the calendar.
-/

set_option autoImplicit false
set_option relaxedAutoImplicit false

namespace DatasetForm

/-- The parts of a date token. There is a time only when the token has a `T`, and a zone only when there
is a time. -/
structure DateToken where
  date : String
  time : Option String
  zone : Option String
  deriving DecidableEq, Repr

namespace DateToken

/-- Is the character the sign of an offset? -/
def isSign (c : Char) : Bool :=
  c == '+' || c == '-'

/-- The offset at the end of a text, given backwards: a sign, two digits for hours and two for minutes,
with or without a colon between them. The result is what stands before it, backwards, and the offset with
a colon. -/
def splitOffset? : List Char → Option (List Char × List Char)
  | m₂ :: m₁ :: ':' :: h₂ :: h₁ :: sign :: rest =>
    if [m₂, m₁, h₂, h₁].all Text.isDigit && isSign sign then
      some (rest, [sign, h₁, h₂, ':', m₁, m₂])
    else none
  | m₂ :: m₁ :: h₂ :: h₁ :: sign :: rest =>
    if [m₂, m₁, h₂, h₁].all Text.isDigit && isSign sign then
      some (rest, [sign, h₁, h₂, ':', m₁, m₂])
    else none
  | _ => none

/-- Split what follows the `T` of a token into clock time and zone. -/
def splitZone (cs : List Char) : List Char × Option (List Char) :=
  match cs.reverse with
  | 'Z' :: rest => (rest.reverse, some ['Z'])
  | reversed =>
    match splitOffset? reversed with
    | some (rest, offset) => (rest.reverse, some offset)
    | none => (cs, none)

/-- Take a token without blanks at its ends apart. -/
def parseChars (cs : List Char) : DateToken :=
  match Text.cutAt 'T' cs with
  | (date, none) => ⟨String.ofList date, none, none⟩
  | (date, some rest) =>
    ⟨String.ofList date, some (String.ofList (splitZone rest).1), (splitZone rest).2.map String.ofList⟩

/-- Take a token apart. -/
def parse (token : String) : DateToken :=
  parseChars (Text.trim token.toList)

/-- The text of a part that may be missing. -/
def partText (part : Option String) : String :=
  part.getD ""

/-- Put a token together. A zone is written only after a time that is not empty. -/
def text (t : DateToken) : String :=
  if partText t.time == "" then t.date
  else t.date ++ "T" ++ partText t.time ++ partText t.zone

/-- The numbers of a date written as a year, a year and month, or a year, month and day. -/
def dayNumbers? (cs : List Char) : Option (Nat × Nat × Nat) :=
  let number? (ds : List Char) : Option Nat := Text.readDigits? ds
  match cs with
  | [y₁, y₂, y₃, y₄] => (number? [y₁, y₂, y₃, y₄]).map fun year => (year, 1, 1)
  | [y₁, y₂, y₃, y₄, '-', m₁, m₂] => do
    let year ← number? [y₁, y₂, y₃, y₄]
    let month ← number? [m₁, m₂]
    return (year, month, 1)
  | [y₁, y₂, y₃, y₄, '-', m₁, m₂, '-', d₁, d₂] => do
    let year ← number? [y₁, y₂, y₃, y₄]
    let month ← number? [m₁, m₂]
    let day ← number? [d₁, d₂]
    return (year, month, day)
  | _ => none

/-- The day that a date names; a year stands for its first day and a month for its first. -/
def dayOf? (date : String) : Option Date :=
  (dayNumbers? (Text.trim date.toList)).bind fun (year, month, day) => Date.ofNumbers? year month day

/-- Take the token in a value apart, which has to be a text or missing. -/
def parseValue (v : Value) : Except Failure DateToken :=
  (v.textOrEmpty "strip").map parse

/-- The day that a value names, which has to be a text or missing. -/
def dayOfValue (v : Value) : Except Failure (Option Date) :=
  (v.textOrEmpty "strip").map dayOf?

/-- Put a token together from values. Without a time the date is passed on as it is. -/
def buildFrom (date time zone : Value) : Except Failure Value :=
  if !time.isTruthy then .ok date.orEmpty
  else match date.orEmpty with
    | .text d =>
      let token := d ++ "T" ++ time.toText
      if !zone.isTruthy then .ok (.text token)
      else match zone with
        | .text z => .ok (.text (token ++ z))
        | z => .error (.notJoined "str" z.qualifiedKindName)
    | d => .error (.notJoined d.qualifiedKindName "str")

end DateToken

end DatasetForm
