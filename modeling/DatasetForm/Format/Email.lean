import DatasetForm.Outcome
import DatasetForm.Text.Runs

/-!
Addresses for electronic mail: a local part, an at sign and dot-separated labels.
-/

set_option autoImplicit false
set_option relaxedAutoImplicit false

namespace DatasetForm

namespace Format

/-- May the character stand in the local part? -/
def isLocalChar (c : Char) : Bool :=
  Text.isAlnum c || ".!#$%&'*+/=?^_\x60\x7b|\x7d~-".toList.contains c

/-- Is this a label: 1 to 63 ASCII letters, digits and hyphens, with no hyphen at either end? -/
def isDomainLabel (cs : List Char) : Bool :=
  cs.length ≤ 63 && cs.all (fun c => Text.isAlnum c || c == '-') &&
    (cs.head?.map Text.isAlnum).getD false && (cs.getLast?.map Text.isAlnum).getD false

/-- Is the text an address? -/
def isEmail (cs : List Char) : Bool :=
  match Text.cutAt '@' cs with
  | (localPart, some domain) =>
    !localPart.isEmpty && localPart.all isLocalChar && (Text.splitAt '.' domain).all isDomainLabel
  | (_, none) => false

/-- Check an address. -/
def checkEmail (v : Value) : Verdict :=
  if v.isBlank then .refused (.required "Email")
  else if isEmail v.trimmedText.toList then .accepted none
  else .refused .email

end Format

end DatasetForm
