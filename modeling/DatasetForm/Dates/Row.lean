import DatasetForm.Dates.Token
import DatasetForm.Value.SnakeCase

/-!
Date rows: a start, an end or both, and the composite text in which a record keeps them, `start`,
`start/end` or `/end`.
-/

set_option autoImplicit false
set_option relaxedAutoImplicit false

namespace DatasetForm

inductive DateType
  | accepted
  | available
  | copyrighted
  | collected
  | coverage
  | created
  | issued
  | submitted
  | updated
  | valid
  | withdrawn
  | other
  deriving DecidableEq, Repr

namespace DateType

/-- All types, in the order in which they are offered. -/
def all : List DateType :=
  [.accepted, .available, .copyrighted, .collected, .coverage, .created, .issued, .submitted, .updated,
    .valid, .withdrawn, .other]

def word : DateType → String
  | .accepted => "accepted"
  | .available => "available"
  | .copyrighted => "copyrighted"
  | .collected => "collected"
  | .coverage => "coverage"
  | .created => "created"
  | .issued => "issued"
  | .submitted => "submitted"
  | .updated => "updated"
  | .valid => "valid"
  | .withdrawn => "withdrawn"
  | .other => "other"

/-- Do dates of the type tell of something that has happened? -/
def isPastOnly : DateType → Bool
  | .accepted | .collected | .created | .submitted | .updated => true
  | _ => false

/-- Does a value name a type whose dates lie in the past? -/
def isPastOnlyName (name : Value) : Bool :=
  all.any fun type => type.isPastOnly && name.same (.text type.word)

end DateType

/-- A date range with its type; one of its ends may be missing. -/
structure DateRange where
  kind : String
  start : Option String
  stop : Option String
  deriving DecidableEq, Repr

/-- A row of a form for a date or a date range. What it was filled with has not been checked. -/
structure DateRow where
  kind : Value
  start : Value
  stop : Value

namespace DateRow

def toValue (row : DateRow) : Value :=
  .dateRow row.kind row.start row.stop

/-- A date as text. Days and times, which some documents hold as such, are written in their standard
form. -/
def dateText : Value → Value
  | .null => .null
  | .text s => .text s
  | .date d => .text d.text
  | .dateTime t => .text t.isoText
  | v => .text v.toText

/-- A row from the fields of a mapping. -/
def ofFields (fields : Entries) : DateRow :=
  let field (name : String) : Value := (fields.field? name).getD .null
  ⟨(field "date_type").orEmpty, dateText (field "start_date"), dateText (field "end_date")⟩

/-- A row from a value: a row as it is, or a mapping. -/
def ofValue (v : Value) : Except Failure DateRow :=
  match v with
  | .dateRow kind start stop => .ok ⟨kind, start, stop⟩
  | v =>
    match v.snakeFields? with
    | some fields => .ok (ofFields fields)
    | none => .error (.cannotBuild "DateRangeEntry" v.kindName)

/-- Is there anything in the row? The end is looked at only when there is no start. -/
def isFilled (row : DateRow) : Except Failure Bool :=
  match row.start.stripped with
  | .error failure => .error failure
  | .ok start => if start != "" then .ok true else row.stop.stripped.map (· != "")

/-- The text that a record keeps for a start and an end without blanks around them, if there is one. -/
def compose? (start stop : String) : Option String :=
  if start != "" && stop != "" then some (start ++ "/" ++ stop)
  else if start != "" then some start
  else if stop != "" then some ("/" ++ stop)
  else none

/-- The text that a record keeps for the row. -/
def serialize (row : DateRow) : Except Failure String :=
  match row.start.stripped with
  | .error failure => .error failure
  | .ok start =>
    match row.stop.stripped with
    | .error failure => .error failure
    | .ok stop =>
      match compose? start stop with
      | some text => .ok text
      | none => .error (.emptyDateRow row.kind)

/-- A part of a stored text, nothing when it is blank. -/
def part? (cs : List Char) : Option String :=
  match Text.trim cs with
  | [] => none
  | trimmed => some (String.ofList trimmed)

/-- The start and end in a stored text; the first slash stands between them. -/
def parse (stored : String) : Option String × Option String :=
  match Text.cutAt '/' (Text.trim stored.toList) with
  | (start, none) => (part? start, none)
  | (start, some rest) => (part? start, part? rest)

def partValue : Option String → Value
  | none => .null
  | some s => .text s

/-- The row that a stored value stands for, which has to be a text or missing. -/
def parseValue (stored kind : Value) : Except Failure DateRow :=
  (stored.textOrEmpty "strip").map fun s =>
    let (start, stop) := parse s
    ⟨kind, partValue start, partValue stop⟩

/-- May another row be added to those in a value? There must be a row, fewer than the most there may be,
and the last one must be filled in. -/
def mayAdd (rows most : Value) : Except Failure Bool := do
  let count ← rows.size
  if count == 0 then return false
  if !(← (Value.int count).compares .less most) then return false
  (← ofValue (← rows.last)).isFilled

end DateRow

def DateRange.row (r : DateRange) : DateRow :=
  ⟨.text r.kind, DateRow.partValue r.start, DateRow.partValue r.stop⟩

end DatasetForm
