import DatasetForm.Dates.Token
import DatasetForm.Outcome

/-!
Dates as the fields of a form hold them: a date token whose date part names a day between two bounds.
-/

set_option autoImplicit false
set_option relaxedAutoImplicit false

namespace DatasetForm

namespace Format

/-- The bounds that a date must keep. -/
structure DayBounds where
  least : Date := ⟨1900, 1, 1, by decide⟩
  most : Option Date := none
  /-- Without an upper bound, may the date lie after today? -/
  allowsFuture : Bool := false

/-- What is wrong with a day, if anything. -/
def DayBounds.complaint? (bounds : DayBounds) (today day : Date) : Option Complaint :=
  if day.before bounds.least then some (.dateBefore bounds.least)
  else match bounds.most with
    | some most => if most.before day then some (.dateAfter most) else none
    | none => if !bounds.allowsFuture && today.before day then some .dateInFuture else none

/-- Check a date. The normal form is the day that it names. -/
def checkDay (bounds : DayBounds) (today : Date) (v : Value) : Verdict :=
  if v.isBlank then .refused (.required "Date")
  else match DateToken.dayOf? (DateToken.parse v.trimmedText).date with
    | none => .refused .dateForm
    | some day =>
      match bounds.complaint? today day with
      | some complaint => .refused complaint
      | none => .accepted (some day.text)

end Format

end DatasetForm
