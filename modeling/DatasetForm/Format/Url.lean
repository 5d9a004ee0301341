import DatasetForm.Address.Parts
import DatasetForm.Outcome

/-!
Web addresses: absolute, over http or https, with an authority.
-/

set_option autoImplicit false
set_option relaxedAutoImplicit false

namespace DatasetForm

namespace Format

/-- The schemes that are accepted. -/
def webSchemes : List (List Char) :=
  [['h', 't', 't', 'p'], ['h', 't', 't', 'p', 's']]

/-- Check a web address. The normal form is the address without blanks around it. -/
def checkUrl (v : Value) : Verdict :=
  if v.isBlank then .refused (.required "URL")
  else match WebAddress.parse v.trimmedText.toList with
    | .error fault => .refused (.address fault)
    | .ok address =>
      if !webSchemes.contains address.scheme then .refused .addressScheme
      else if address.authority.isEmpty then .refused .addressHost
      else .accepted (some v.trimmedText)

end Format

end DatasetForm
