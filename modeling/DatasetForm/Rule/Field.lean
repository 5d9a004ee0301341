import DatasetForm.Format.Doi
import DatasetForm.Format.Email
import DatasetForm.Format.Length
import DatasetForm.Format.Orcid
import DatasetForm.Format.Url
import DatasetForm.Format.Version
import DatasetForm.Format.Year
import DatasetForm.Rule.Basic
import DatasetForm.Settings.Basic
import DatasetForm.Text.Case

/-!
The rules of fields that are judged by themselves.
-/

set_option autoImplicit false
set_option relaxedAutoImplicit false

namespace DatasetForm

namespace Rule

def fieldRuleName (field what : String) : String :=
  Text.lower field ++ "_" ++ what

/-- A field that must be filled in. -/
def required (field : String) : Rule :=
  plain (fieldRuleName field "required") .null fun value =>
    (Format.checkRequired field value).outcome?

/-- A field that is checked when it is filled in. -/
def optional (name : String) (debounce : Value) (check : Value → Verdict) : Rule :=
  plain name debounce fun value => if value.isBlank then none else (check value).outcome?

/-- A limit on the length of a field. -/
def maxLength (field : String) (most : Value) : Rule :=
  { name := .text (fieldRuleName field "length")
    check := fun value _ => (Format.checkLength field .null most value).map Verdict.outcome? }

/-- Is a length near a limit: above the share of it that `ratio` gives, and within it? -/
def isNearLimit (most ratio : Value) (length : Nat) : Except Failure Bool := do
  let share ← most.times ratio
  if ← share.compares .less (.int length) then (Value.int length).compares .lessOrEqual most
  else return false

/-- A warning for a length near its limit. It stands last in a list, so that it hides no error. -/
def nearLimit (field : String) (most ratio : Value) : Rule :=
  { name := .text (fieldRuleName field "near_limit")
    check := fun value _ =>
      let length := Format.textLength value.orEmpty
      (isNearLimit most ratio length).map fun near =>
        if near then some (.warning (.nearLimit field length most)) else none }

/-- The rules of a field that must be filled in. -/
def requiredRules (field : String) : List Rule :=
  [required field]

/-- The rules of the publication year. -/
def yearRules (settings : Settings) (today : Date) : List Rule :=
  [required "Publication Year",
    { name := .text "year_range"
      check := fun value _ =>
        (Format.checkYear settings.minYear settings.maxYear today value).map Verdict.outcome? }]

/-- The rules of the identifier. -/
def doiRules (settings : Settings) : List Rule :=
  [optional "doi_format" settings.doiDebounceMs Format.checkDoi]

/-- The rules of the version. -/
def versionRules : List Rule :=
  [optional "version_format" .null Format.checkVersion]

/-- The rules of a web address. -/
def urlRules (field : String) (isRequired : Bool) : List Rule :=
  (if isRequired then [required field] else []) ++
    [optional (fieldRuleName field "format") .null Format.checkUrl]

/-- The rules of an ORCID identifier. -/
def orcidRules : List Rule :=
  [optional "orcid_format" .null Format.checkOrcid]

/-- The rules of a mail address. -/
def emailRules (isRequired : Bool) : List Rule :=
  (if isRequired then [required "Email"] else []) ++
    [optional "email_format" .null Format.checkEmail]

/-- The rules of the abstract. -/
def abstractRules (settings : Settings) : List Rule :=
  [required "Abstract",
    maxLength "Abstract" settings.abstractMaxLength,
    nearLimit "Abstract" settings.abstractMaxLength settings.lengthWarningRatio]

end Rule

end DatasetForm
