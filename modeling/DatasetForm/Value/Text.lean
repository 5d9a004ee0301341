import DatasetForm.Number.Shortest
import DatasetForm.Text.Blank
import DatasetForm.Text.Quoted
import DatasetForm.Value.Basic

/-!
The text of a value: texts as they are, null and truth values by name, numbers by their shortest text,
days and times in their written form. Inside lists, tuples, mappings and rows a text is quoted and a
day or time is shown as the call that makes it.
-/

set_option autoImplicit false
set_option relaxedAutoImplicit false

namespace DatasetForm

namespace Value

/-- Items with a separator between them. -/
def joined (separator : String) : List String → String
  | [] => ""
  | [s] => s
  | s :: rest => s ++ separator ++ joined separator rest

/-- The call that makes an offset from universal time. -/
def shownOffset (offset : Int) : String :=
  if offset == 0 then "datetime.timezone.utc"
  else
    let days := Int.fdiv offset 86400
    let seconds := Int.fmod offset 86400
    let parts := (if days == 0 then [] else [s!"days={days}"]) ++
      (if seconds == 0 then [] else [s!"seconds={seconds}"])
    "datetime.timezone(datetime.timedelta(" ++ joined ", " parts ++ "))"

/-- The call that makes a day. -/
def shownDate (d : Date) : String :=
  s!"datetime.date({d.year}, {d.month}, {d.day})"

/-- The call that makes a point in time; seconds and microseconds are left out when they are zero. -/
def shownDateTime (t : DateTime) : String :=
  let d := t.date
  let clock :=
    if t.microsecond != 0 then [t.hour, t.minute, t.second, t.microsecond]
    else if t.second != 0 then [t.hour, t.minute, t.second]
    else [t.hour, t.minute]
  let numbers := [d.year, d.month, d.day] ++ clock
  let zone := match t.offset with
    | none => ""
    | some offset => ", tzinfo=" ++ shownOffset offset
  "datetime.datetime(" ++ joined ", " (numbers.map toString) ++ zone ++ ")"

/-- A tuple; one item alone has a comma after it. -/
def shownTuple : List String → String
  | [s] => "(" ++ s ++ ",)"
  | items => "(" ++ joined ", " items ++ ")"

mutual

/-- A value as it is shown inside another. -/
def shown : Value → String
  | .null => "None"
  | .bool b => if b then "True" else "False"
  | .int n => toString n
  | .float x => x.text
  | .text s => Text.quoted s
  | .list items => "[" ++ joined ", " (shownItems items) ++ "]"
  | .tuple items => shownTuple (shownItems items)
  | .mapping entries => "\x7b" ++ joined ", " (shownEntries entries) ++ "\x7d"
  | .date d => shownDate d
  | .dateTime t => shownDateTime t
  | .titleRow title kind => "TitleEntry(title=" ++ shown title ++ ", title_type=" ++ shown kind ++ ")"
  | .dateRow kind start stop =>
    "DateRangeEntry(date_type=" ++ shown kind ++ ", start_date=" ++ shown start ++ ", end_date=" ++
      shown stop ++ ")"

/-- Items as they are shown inside a list. -/
def shownItems : List Value → List String
  | [] => []
  | v :: rest => shown v :: shownItems rest

/-- Entries as they are shown inside a mapping. -/
def shownEntries : List (Value × Value) → List String
  | [] => []
  | (k, v) :: rest => (shown k ++ ": " ++ shown v) :: shownEntries rest

end

def toText : Value → String
  | .text s => s
  | .date d => d.text
  | .dateTime t => t.spacedText
  | v => v.shown

/-- The text of a value without blanks at its ends; null has no text. -/
def trimmedText : Value → String
  | .null => ""
  | v => Text.strip v.toText

/-- Is the value null or its text blank? -/
def isBlank (v : Value) : Bool :=
  v.trimmedText == ""

end Value

end DatasetForm
