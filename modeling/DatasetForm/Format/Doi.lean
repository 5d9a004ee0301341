import DatasetForm.Outcome
import DatasetForm.Text.Digit
import DatasetForm.Text.Resolver
import DatasetForm.Text.Runs

/-!
Digital object identifiers: `10.`, a registrant code, a slash and a suffix. Resolver addresses are taken
off, and the bare identifier is what is kept.
-/

set_option autoImplicit false
set_option relaxedAutoImplicit false

namespace DatasetForm

namespace Format

/-- The resolvers of identifiers. -/
def doiPrefixes : List String :=
  ["https://doi.org/", "http://doi.org/", "https://dx.doi.org/", "http://dx.doi.org/", "doi:"]

/-- Is this a group of at least `least` decimal digits? -/
def isDigitGroup (least : Nat) (cs : List Char) : Bool :=
  least ≤ cs.length && cs.all Text.isDigit

/-- Is this the part before the slash: `10`, then groups of digits after dots, the first of at least
four? -/
def isRegistrant (cs : List Char) : Bool :=
  match Text.splitAt '.' cs with
  | directory :: first :: groups =>
    directory == ['1', '0'] && isDigitGroup 4 first && groups.all (isDigitGroup 1)
  | _ => false

/-- Is the text a bare identifier? -/
def isDoi (cs : List Char) : Bool :=
  match Text.cutAt '/' cs with
  | (registrant, some suffix) =>
    isRegistrant registrant && !suffix.isEmpty && suffix.all (!Text.isBlank ·)
  | (_, none) => false

/-- Check an identifier. -/
def checkDoi (v : Value) : Verdict :=
  let bare := Text.dropResolver doiPrefixes v.trimmedText.toList
  if v.isBlank then .refused (.required "DOI")
  else if isDoi bare then .accepted (some (String.ofList bare))
  else .refused .doi

end Format

end DatasetForm
