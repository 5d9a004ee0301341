import DatasetForm.Calendar.Date

/-!
Points in time as a calendar day with a clock time, with or without an offset from universal time.
-/

set_option autoImplicit false
set_option relaxedAutoImplicit false

namespace DatasetForm

/-- A day and a clock time; the offset, in seconds east of universal time, may be missing. -/
structure DateTime where
  date : Date
  hour : Nat
  minute : Nat
  second : Nat
  microsecond : Nat
  offset : Option Int
  deriving DecidableEq, Repr

namespace DateTime

/-- An offset as `+HH:MM`, with seconds when there are any. -/
def offsetChars (offset : Int) : List Char :=
  let n := offset.natAbs
  let minutes := (if offset < 0 then '-' else '+') ::
    Date.padded 2 (n / 3600) ++ ':' :: Date.padded 2 (n / 60 % 60)
  if n % 60 == 0 then minutes else minutes ++ ':' :: Date.padded 2 (n % 60)

/-- Day, separator and clock time, with microseconds when there are any, and the offset. -/
def textWith (separator : Char) (t : DateTime) : String :=
  let fraction := if t.microsecond == 0 then [] else '.' :: Date.padded 6 t.microsecond
  String.ofList (t.date.chars ++ separator :: Date.padded 2 t.hour ++ ':' :: Date.padded 2 t.minute ++
    ':' :: Date.padded 2 t.second ++ fraction ++ (t.offset.map offsetChars).getD [])

/-- The text with a `T` between day and time. -/
def isoText (t : DateTime) : String :=
  t.textWith 'T'

/-- The text with a space between day and time. -/
def spacedText (t : DateTime) : String :=
  t.textWith ' '

/-- The microseconds since the beginning of the calendar, by the clock that shows the time. -/
def clock (t : DateTime) : Int :=
  ((((t.date.dayNumber * 24 + t.hour) * 60 + t.minute) * 60 + t.second) * 1000000 + t.microsecond : Nat)

/-- Are two times the same instant? A time with an offset never equals one without. -/
def same (a b : DateTime) : Bool :=
  match a.offset, b.offset with
  | none, none => a.clock == b.clock
  | some x, some y => a.clock - x * 1000000 == b.clock - y * 1000000
  | _, _ => false

/-- The number of exactly `width` ASCII digits at the front, and the rest. -/
def takeNumber? (width : Nat) (cs : List Char) : Option (Nat × List Char) :=
  let ds := cs.take width
  if ds.length == width && ds.all Char.isDigit then
    some (ds.foldl (fun n c => 10 * n + (c.toNat - 48)) 0, cs.drop width)
  else none

/-- The characters after a given one. -/
def after? (mark : Char) : List Char → Option (List Char)
  | c :: cs => if c == mark then some cs else none
  | [] => none

/-- Read `YYYY-MM-DD` from the front. -/
def takeDate? (cs : List Char) : Option (Date × List Char) := do
  let (year, cs) ← takeNumber? 4 cs
  let cs ← after? '-' cs
  let (month, cs) ← takeNumber? 2 cs
  let cs ← after? '-' cs
  let (day, cs) ← takeNumber? 2 cs
  let date ← Date.ofNumbers? year month day
  return (date, cs)

/-- Read `:MM` or nothing. -/
def takeColonNumber (cs : List Char) : Nat × List Char :=
  ((after? ':' cs).bind (takeNumber? 2)).getD (0, cs)

/-- Read a fraction of a second in microseconds, or nothing. -/
def takeMicroseconds (cs : List Char) : Nat × List Char :=
  match after? '.' cs with
  | none => (0, cs)
  | some rest =>
    let ds := rest.takeWhile Char.isDigit
    let six := (ds ++ List.replicate (6 - ds.length) '0').take 6
    (six.foldl (fun n c => 10 * n + (c.toNat - 48)) 0, rest.dropWhile Char.isDigit)

/-- Read an offset that ends the text: nothing, `Z`, or a sign with hours, minutes and seconds. -/
def readOffset? : List Char → Option (Option Int)
  | [] => some none
  | ['Z'] => some (some 0)
  | sign :: cs => do
    let negative ← if sign == '-' then some true else if sign == '+' then some false else none
    let (hours, cs) ← takeNumber? 2 cs
    let (minutes, cs) := takeColonNumber cs
    let (seconds, cs) := takeColonNumber cs
    let total : Int := ((hours * 60 + minutes) * 60 + seconds : Nat)
    if cs.isEmpty then some (some (if negative then -total else total)) else none

/-- Read a day with or without a clock time after a `T` or a space. -/
def read? (cs : List Char) : Option DateTime := do
  let (date, cs) ← takeDate? cs
  match cs with
  | [] => return ⟨date, 0, 0, 0, 0, none⟩
  | _ :: cs =>
    let (hour, cs) ← takeNumber? 2 cs
    let (minute, cs) := takeColonNumber cs
    let (second, cs) := takeColonNumber cs
    let (microsecond, cs) := takeMicroseconds cs
    let offset ← readOffset? cs
    return ⟨date, hour, minute, second, microsecond, offset⟩

end DateTime

namespace Date

/-- Read a text `YYYY-MM-DD`. -/
def read? (cs : List Char) : Option Date :=
  match DateTime.takeDate? cs with
  | some (d, []) => some d
  | _ => none

end Date

end DatasetForm
