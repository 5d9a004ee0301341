import DatasetForm.Outcome
import DatasetForm.Text.Digit
import DatasetForm.Value.Order

/-!
Publication years: whole numbers, or texts of four decimal digits, between two bounds.
-/

set_option autoImplicit false
set_option relaxedAutoImplicit false

namespace DatasetForm

namespace Format

/-- The number that a text of four decimal digits writes. -/
def readYear? (text : String) : Option Nat :=
  match text.toList with
  | [a, b, c, d] => Text.readDigits? [a, b, c, d]
  | _ => none

/-- The last year that is accepted when no bound is set: next year, for records registered ahead. -/
def lastYear (most : Value) (today : Date) : Value :=
  match most with
  | .null => .int (today.year + 1)
  | most => most

/-- Refuse a year outside the bounds. -/
def checkYearRange (least most : Value) (year : Int) : Except Failure Verdict :=
  match (Value.int year).compares .less least with
  | .error failure => .error failure
  | .ok true => .ok (.refused (.yearRange least most))
  | .ok false =>
    match (Value.int year).compares .greater most with
    | .error failure => .error failure
    | .ok true => .ok (.refused (.yearRange least most))
    | .ok false => .ok (.accepted none)

/-- Check a publication year. A whole number is taken as it is; a truth value is none. -/
def checkYear (least most : Value) (today : Date) (v : Value) : Except Failure Verdict :=
  match v with
  | .bool _ => .ok (.refused .yearKind)
  | .int year => checkYearRange least (lastYear most today) year
  | v =>
    match readYear? v.trimmedText with
    | none => .ok (.refused .yearForm)
    | some year => checkYearRange least (lastYear most today) year

end Format

end DatasetForm
