import DatasetForm.Value.Order

/-!
The settings of the rules: limits on lengths and numbers of rows, bounds for years, and quiet periods.

Settings made in code (`Settings.make`) are checked for their ranges only, so a field may hold a value of
any kind; a rule that meets one of the wrong kind fails. `Limits` are settings whose kinds are known to be
right.
-/

set_option autoImplicit false
set_option relaxedAutoImplicit false

namespace DatasetForm

inductive SettingName
  | titleMaxLength
  | abstractMaxLength
  | lengthWarningRatio
  | minYear
  | maxYear
  | debounceMs
  | doiDebounceMs
  | maxTitles
  | maxDates
  deriving DecidableEq, Repr

namespace SettingName

/-- All names, in order. -/
def all : List SettingName :=
  [.titleMaxLength, .abstractMaxLength, .lengthWarningRatio, .minYear, .maxYear, .debounceMs,
    .doiDebounceMs, .maxTitles, .maxDates]

/-- The key of a setting in a configuration. -/
def key : SettingName → String
  | .titleMaxLength => "title_max_length"
  | .abstractMaxLength => "abstract_max_length"
  | .lengthWarningRatio => "length_warning_ratio"
  | .minYear => "min_year"
  | .maxYear => "max_year"
  | .debounceMs => "debounce_ms"
  | .doiDebounceMs => "doi_debounce_ms"
  | .maxTitles => "max_titles"
  | .maxDates => "max_dates"

/-- The environment variable of a setting. -/
def environmentName : SettingName → String
  | .titleMaxLength => "DCFORM_TITLE_MAX_LENGTH"
  | .abstractMaxLength => "DCFORM_ABSTRACT_MAX_LENGTH"
  | .lengthWarningRatio => "DCFORM_LENGTH_WARNING_RATIO"
  | .minYear => "DCFORM_MIN_YEAR"
  | .maxYear => "DCFORM_MAX_YEAR"
  | .debounceMs => "DCFORM_DEBOUNCE_MS"
  | .doiDebounceMs => "DCFORM_DOI_DEBOUNCE_MS"
  | .maxTitles => "DCFORM_MAX_TITLES"
  | .maxDates => "DCFORM_MAX_DATES"

/-- The setting with a key. -/
def ofKey? (key : Value) : Option SettingName :=
  all.find? fun name => key.same (.text name.key)

end SettingName

/-- Settings of known kinds. -/
structure Limits where
  titleMaxLength : Int := 325
  abstractMaxLength : Int := 17500
  /-- The share of a limit above which a length is near it; by default the number nearest to 0.9. -/
  lengthWarningRatio : Binary64 := .finite false 8106479329266893 (-53)
  minYear : Int := 1900
  maxYear : Option Int := none
  debounceMs : Int := 300
  doiDebounceMs : Int := 500
  maxTitles : Int := 100
  maxDates : Int := 100
  deriving DecidableEq, Repr

/-- Settings as rules read them. -/
structure Settings where
  titleMaxLength : Value
  abstractMaxLength : Value
  lengthWarningRatio : Value
  minYear : Value
  maxYear : Value
  debounceMs : Value
  doiDebounceMs : Value
  maxTitles : Value
  maxDates : Value

def Limits.settings (l : Limits) : Settings :=
  { titleMaxLength := .int l.titleMaxLength
    abstractMaxLength := .int l.abstractMaxLength
    lengthWarningRatio := .float l.lengthWarningRatio
    minYear := .int l.minYear
    maxYear := (l.maxYear.map Value.int).getD .null
    debounceMs := .int l.debounceMs
    doiDebounceMs := .int l.doiDebounceMs
    maxTitles := .int l.maxTitles
    maxDates := .int l.maxDates }

namespace Settings

/-- The settings that hold when nothing is set. -/
def default : Settings :=
  ({} : Limits).settings

def get (s : Settings) : SettingName → Value
  | .titleMaxLength => s.titleMaxLength
  | .abstractMaxLength => s.abstractMaxLength
  | .lengthWarningRatio => s.lengthWarningRatio
  | .minYear => s.minYear
  | .maxYear => s.maxYear
  | .debounceMs => s.debounceMs
  | .doiDebounceMs => s.doiDebounceMs
  | .maxTitles => s.maxTitles
  | .maxDates => s.maxDates

/-- Change the value of a setting. -/
def set (s : Settings) (name : SettingName) (v : Value) : Settings :=
  match name with
  | .titleMaxLength => { s with titleMaxLength := v }
  | .abstractMaxLength => { s with abstractMaxLength := v }
  | .lengthWarningRatio => { s with lengthWarningRatio := v }
  | .minYear => { s with minYear := v }
  | .maxYear => { s with maxYear := v }
  | .debounceMs => { s with debounceMs := v }
  | .doiDebounceMs => { s with doiDebounceMs := v }
  | .maxTitles => { s with maxTitles := v }
  | .maxDates => { s with maxDates := v }

/-- Check that the ratio lies above zero and not above one, and that no quiet period is negative. -/
def checkRanges (s : Settings) : Except Failure Unit := do
  if !(← (Value.int 0).compares .less s.lengthWarningRatio) then throw .ratioOutOfRange
  if !(← s.lengthWarningRatio.compares .lessOrEqual (.int 1)) then throw .ratioOutOfRange
  if ← s.debounceMs.compares .less (.int 0) then throw .negativeDebounce
  if ← s.doiDebounceMs.compares .less (.int 0) then throw .negativeDebounce

/-- Change settings by key; an unknown key is an error. -/
def assign (s : Settings) (fields : Entries) : Except Failure Settings :=
  fields.foldlM
    (fun s field =>
      match SettingName.ofKey? field.1 with
      | some name => .ok (s.set name field.2)
      | none => .error (.unknownSetting field.1.toText))
    s

/-- Make settings from named values; those that are not named have their default. -/
def make (fields : Entries) : Except Failure Settings := do
  let s ← default.assign fields
  s.checkRanges
  return s

/-- The settings as a mapping. -/
def entries (s : Settings) : Entries :=
  SettingName.all.map fun name => (.text name.key, s.get name)

end Settings

end DatasetForm
