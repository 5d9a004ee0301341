import DatasetForm.Outcome
import DatasetForm.Text.Digit
import DatasetForm.Text.Resolver

/-!
ORCID identifiers: sixteen characters in four groups, the last a check digit by ISO 7064 MOD 11-2, where
ten is written X.
-/

set_option autoImplicit false
set_option relaxedAutoImplicit false

namespace DatasetForm

namespace Format

/-- The resolvers of ORCID identifiers. -/
def orcidPrefixes : List String :=
  ["https://orcid.org/", "http://orcid.org/", "orcid.org/"]

/-- The sixteen characters of an identifier in its written form: four groups of four with hyphens between
them, decimal digits except that the last may be an X. -/
def orcidDigits? : List Char → Option (List Char × Char)
  | [a, b, c, d, '-', e, f, g, h, '-', i, j, k, l, '-', m, n, o, check] =>
    let payload := [a, b, c, d, e, f, g, h, i, j, k, l, m, n, o]
    if payload.all Text.isDigit && (Text.isDigit check || check == 'X') then some (payload, check)
    else none
  | _ => none

/-- The sum that the check digit belongs to: each digit is added and the sum doubled. -/
def orcidSum (payload : List Char) : Nat :=
  payload.foldl (fun total c => (total + (Text.digitValue? c).getD 0) * 2) 0

/-- The check digit of fifteen digits. -/
def orcidCheck (payload : List Char) : Char :=
  let n := (12 - orcidSum payload % 11) % 11
  if n == 10 then 'X' else Nat.digitChar n

/-- Check an identifier; a blank one is accepted. The normal form is without resolver and has a capital
X. -/
def checkOrcid (v : Value) : Verdict :=
  let bare := (Text.dropResolver orcidPrefixes v.trimmedText.toList).map Text.upperAscii
  if v.isBlank then .accepted none
  else match orcidDigits? bare with
    | none => .refused .orcidForm
    | some (payload, check) =>
      if check == orcidCheck payload then .accepted (some (String.ofList bare))
      else .refused .orcidChecksum

end Format

end DatasetForm
