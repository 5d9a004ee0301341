import DatasetForm.Dates.Row
import DatasetForm.Format.Day
import DatasetForm.Rule.Basic

/-!
The rules of date rows. Empty rows are accepted; otherwise each part that is there must name a day, and
the start must not come after the end.
-/

set_option autoImplicit false
set_option relaxedAutoImplicit false

namespace DatasetForm

namespace Rule

/-- What is wrong with one part of a row; a blank part is not looked at. -/
def partOutcome (wrap : Complaint → Complaint) (bounds : Format.DayBounds) (today : Date)
    (part : Value) : Option Outcome :=
  if part.isBlank then none
  else match Format.checkDay bounds today part with
    | .accepted _ => none
    | .refused complaint => some (.error (wrap complaint))

/-- Each part of a row that is there must name a day. -/
def dateParts (allowsFuture : Bool) (today : Date) (value : Value) :
    Except Failure (Option Outcome) := do
  let bounds : Format.DayBounds := { allowsFuture }
  let row ← DateRow.ofValue value
  if !(← row.isFilled) then return none
  return (partOutcome .startDate bounds today row.start).or
    (partOutcome .endDate bounds today row.stop)

/-- The start of a row must not come after its end. -/
def dateOrder (value : Value) : Except Failure (Option Outcome) := do
  let row ← DateRow.ofValue value
  if row.start.isBlank || row.stop.isBlank then return none
  let start ← DateToken.parseValue row.start
  let stop ← DateToken.parseValue row.stop
  match DateToken.dayOf? start.date, DateToken.dayOf? stop.date with
  | some first, some last =>
    return if last.before first then some (.error .dateOrder) else none
  | _, _ => return none

/-- The rules of a date row of a type. -/
def dateRules (kind : Value) (today : Date) : Except Failure (List Rule) :=
  kind.checkHashable.map fun _ =>
    let allowsFuture := !DateType.isPastOnlyName kind
    [{ name := .text "date_format", check := fun value _ => dateParts allowsFuture today value },
      { name := .text "date_order", check := fun value _ => dateOrder value }]

end Rule

end DatasetForm
