import DatasetForm.Form.Basic
import DatasetForm.Text.Digit

/-!
Checking all title rows of a form together. Rows are fields named by a common beginning, a dot and their
position; fields of rows that no longer exist are forgotten.
-/

set_option autoImplicit false
set_option relaxedAutoImplicit false

namespace DatasetForm

namespace Form

def rowField (stem : String) (index : Nat) : String :=
  s!"{stem}.{index}"

/-- The check of a row beside all rows. -/
def rowPass (stem : String) (settings : Settings) (rows : List TitleRow) (index : Nat)
    (row : TitleRow) : Pass :=
  { field := rowField stem index
    value := row.title
    rules := Rule.titleRules index row.kind rows settings
    context := Rule.contextOf rows }

/-- Make or put off checks one after the other. The first one that fails ends the run. -/
def validateAll (isImmediate : Bool) :
    Form → List Pass → Form × List FormEvent × Except Failure (List (Option Outcome))
  | form, [] => (form, [], .ok [])
  | form, pass :: passes =>
    match form.validate pass isImmediate with
    | (form, events, .error failure) => (form, events, .error failure)
    | (form, events, .ok outcome) =>
      let (form, others, result) := validateAll isImmediate form passes
      (form, events ++ others, result.map (outcome :: ·))

/-- What follows a text at the beginning of another. -/
def afterStem? : (stem cs : List Char) → Option (List Char)
  | [], cs => some cs
  | _ :: _, [] => none
  | s :: stem, c :: cs => if s == c then afterStem? stem cs else none

/-- The number in the name of a row, when all that follows the dot stands for digits. Signs that stand for
a digit without being one cannot be read. -/
def rowNumber? (cs : List Char) : Except Failure (Option Nat) :=
  if cs.isEmpty || !cs.all Text.isDigitLike then .ok none
  else
    let digits := cs.takeWhile Text.isDigit
    if digits.length > Failure.digitLimit then .error (.tooManyDigits digits.length)
    else match Text.readDigits? cs with
      | some n => .ok (some n)
      | none => .error (.notWhole (String.ofList cs))

/-- Is the field that of a row at `count` or after? -/
def isStaleRow (stem : String) (count : Nat) (field : String) : Except Failure Bool :=
  match afterStem? (stem ++ ".").toList field.toList with
  | none => .ok false
  | some number => (rowNumber? number).map fun n => n.any (count ≤ ·)

/-- Forget the fields of rows that no longer exist. -/
def sweep (stem : String) (count : Nat) : Form → List String → Form × Except Failure Unit
  | form, [] => (form, .ok ())
  | form, field :: fields =>
    match isStaleRow stem count field with
    | .error failure => (form, .error failure)
    | .ok stale => sweep stem count (if stale then form.reset field else form) fields

/-- Check all title rows, and forget the fields of rows that no longer exist. -/
def validateTitles (form : Form) (stem : String) (settings : Settings) (rows : List TitleRow)
    (isImmediate : Bool) : Form × List FormEvent × Except Failure (List (Option Outcome)) :=
  let passes := rows.zipIdx.map fun (row, index) => rowPass stem settings rows index row
  match validateAll isImmediate form passes with
  | (form, events, .error failure) => (form, events, .error failure)
  | (form, events, .ok outcomes) =>
    let (form, result) := sweep stem rows.length form (form.fields.map (·.1))
    (form, events, result.map fun _ => outcomes)

end Form

end DatasetForm
