import DatasetForm.Number.Decimal
import DatasetForm.Settings.Basic

/-!
Settings from a configuration. Configurations may hold numbers as text, since environment variables do: a
text stands for the number that it writes in JSON. Truth values are never numbers.
-/

set_option autoImplicit false
set_option relaxedAutoImplicit false

namespace DatasetForm

namespace Limits

/-- The whole number that equals a binary one, if it has one and is small enough to be exact. -/
def exactInt? (x : Binary64) : Option Int :=
  x.toInt?.filter fun n => n.natAbs ≤ twoTo 53

/-- The small letters of an ASCII text. -/
def smallLetters (text : String) : List Char :=
  text.toList.map Char.toLower

/-- The number that one of the words for numbers without digits stands for. -/
def wordNumber? (cs : List Char) : Option Binary64 :=
  let (negative, word) := match cs with
    | '-' :: rest => (true, rest)
    | _ => (false, cs)
  if word == "nan".toList then some .nan
  else if word == "inf".toList || word == "infinity".toList then some (.infinite negative)
  else none

/-- A number as it is given. -/
inductive Given
  | whole (n : Int)
  | binary (x : Binary64)
  /-- A number past the largest one. -/
  | tooLarge

/-- The number that a decimal text stands for. -/
def givenBy (d : Decimal) : Given :=
  if d.whole then .whole d.toInt
  else match d.toBinary64 with
    | .infinite _ => .tooLarge
    | x => .binary x

/-- The number in a value, if there is one. -/
def given? (v : Value) : Option Given :=
  match v with
  | .int n => some (.whole n)
  | .float x => some (.binary x)
  | .text s =>
    match Decimal.read? s.toList with
    | some d => some (givenBy d)
    | none => (wordNumber? (smallLetters s)).map .binary
  | _ => none

/-- Does a text write more than is read as a whole number, its sign counted? -/
def isTooLong : Value → Bool
  | .text s => s.length > Failure.digitLimit
  | _ => false

/-- Read a whole number where `expected` stands. -/
def readIntFor (expected : String) (path : List Step) (v : Value) : Except ShapeFault Int :=
  match given? v with
  | some (.whole n) => if isTooLong v then .error ⟨.wholeOutOfRange, path⟩ else .ok n
  | some (.binary x) =>
    match exactInt? x with
    | some n => .ok n
    | none => v.misfit expected path
  | some .tooLarge => .error ⟨.outOfRange, path⟩
  | none => v.misfit expected path

/-- Read a whole number. -/
def readInt (path : List Step) (v : Value) : Except ShapeFault Int :=
  readIntFor "int" path v

/-- Does a value stand for null? A text may write it. -/
def isNull : Value → Bool
  | .null => true
  | .text s => smallLetters s == "null".toList
  | _ => false

/-- Read a whole number or null. -/
def readIntOrNull (path : List Step) (v : Value) : Except ShapeFault (Option Int) :=
  if isNull v then .ok none else (readIntFor "int | null" path v).map some

/-- Read a binary number; a whole number is made the nearest one. -/
def readBinary (path : List Step) (v : Value) : Except ShapeFault Binary64 :=
  match given? v with
  | some (.whole n) => .ok (Binary64.roundQuotient (n < 0) n.natAbs 1)
  | some (.binary x) => .ok x
  | some .tooLarge => .error ⟨.outOfRange, path⟩
  | none => v.misfit "float" path

/-- Read one setting whose text has bytes. -/
def readPlainSetting (l : Limits) (path : List Step) (name : SettingName) (v : Value) :
    Except ShapeFault Limits :=
  match name with
  | .titleMaxLength => (readInt path v).map fun n => { l with titleMaxLength := n }
  | .abstractMaxLength => (readInt path v).map fun n => { l with abstractMaxLength := n }
  | .lengthWarningRatio => (readBinary path v).map fun x => { l with lengthWarningRatio := x }
  | .minYear => (readInt path v).map fun n => { l with minYear := n }
  | .maxYear => (readIntOrNull path v).map fun n => { l with maxYear := n }
  | .debounceMs => (readInt path v).map fun n => { l with debounceMs := n }
  | .doiDebounceMs => (readInt path v).map fun n => { l with doiDebounceMs := n }
  | .maxTitles => (readInt path v).map fun n => { l with maxTitles := n }
  | .maxDates => (readInt path v).map fun n => { l with maxDates := n }

def readSetting (l : Limits) (name : SettingName) (v : Value) : Except ShapeFault Limits :=
  let path := [Step.field name.key]
  match v with
  | .text s => (Value.readBytes path s).bind fun s => readPlainSetting l path name (.text s)
  | v => readPlainSetting l path name v

/-- Read the settings of a section one after the other; other keys are left out. -/
def readSection (l : Limits) (section_ : Entries) : Except ShapeFault Limits :=
  section_.foldlM
    (fun l entry =>
      match SettingName.ofKey? entry.1 with
      | some name => readSetting l name entry.2
      | none => .ok l)
    l

/-- Does the ratio lie above zero and not above one? -/
def ratioHolds (l : Limits) : Bool :=
  l.lengthWarningRatio.compareInt? 0 == some .gt &&
    (l.lengthWarningRatio.compareInt? 1).any (· != .gt)

def checkRanges (l : Limits) : Except Failure Limits :=
  if !l.ratioHolds then .error .ratioOutOfRange
  else if l.debounceMs < 0 || l.doiDebounceMs < 0 then .error .negativeDebounce
  else .ok l

def ofSection (section_ : Entries) : Except Failure Limits :=
  match readSection {} section_ with
  | .ok l => l.checkRanges
  | .error fault => .error (.shape fault)

end Limits

end DatasetForm
