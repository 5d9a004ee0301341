import DatasetForm.Address.Host
import DatasetForm.Complaint
import DatasetForm.Text.Case
import DatasetForm.Text.Normal
import DatasetForm.Text.Runs

/-!
Taking a web address apart into its scheme and its authority, the part between `//` and the path.
-/

set_option autoImplicit false
set_option relaxedAutoImplicit false

namespace DatasetForm

namespace Address

/-- Characters that are taken off the beginning: controls and the space. -/
def isLeadingNoise (c : Char) : Bool :=
  c.toNat ≤ 0x20

/-- Characters that are taken out everywhere: tabs and line ends. -/
def isNoise (c : Char) : Bool :=
  c == '\t' || c == '\n' || c == '\r'

/-- The characters of an address that count. -/
def withoutNoise (cs : List Char) : List Char :=
  (cs.dropWhile isLeadingNoise).filter (!isNoise ·)

/-- May the character stand in a scheme? -/
def isSchemeChar (c : Char) : Bool :=
  Text.isAlnum c || c == '+' || c == '-' || c == '.'

/-- The scheme before the first colon, in small letters, and what follows the colon. Without a proper
scheme there is none, and everything follows. -/
def splitScheme (cs : List Char) : List Char × List Char :=
  match Text.cutAt ':' cs with
  | (scheme, some rest) =>
    if (scheme.head?.map Text.isLetter).getD false && scheme.all isSchemeChar then
      (scheme.map Text.lowerAscii, rest)
    else ([], cs)
  | (_, none) => ([], cs)

/-- Does the character end an authority? -/
def endsAuthority (c : Char) : Bool :=
  c == '/' || c == '?' || c == '#'

/-- The authority: what stands between two slashes at the beginning and the next character that ends
it. -/
def authorityOf : List Char → List Char
  | '/' :: '/' :: rest => rest.takeWhile (!endsAuthority ·)
  | _ => []

/-- Is this `v`, hexadecimal digits, a dot and something? -/
def isFutureHost : List Char → Bool
  | 'v' :: cs =>
    match Text.cutAt '.' cs with
    | (digits, some rest) => !digits.isEmpty && digits.all isHex && !rest.isEmpty
    | (_, none) => false
  | _ => false

/-- What is wrong with a host that stands in brackets. -/
def hostFault? (host : List Char) : Option AddressFault :=
  if host.head? == some 'v' then if isFutureHost host then none else some .futureHost
  else if isVersion4 host then some .bracketedVersion4
  else if isVersion6 host then none
  else some (.host (String.ofList host))

/-- What is wrong with an authority that holds both brackets. The host follows the last at sign; without a
bracket there, it ends at the first colon. -/
def bracketFault? (authority : List Char) : Option AddressFault :=
  let hostAndPort := Text.afterLast '@' authority
  match Text.cutAt '[' hostAndPort with
  | (_, none) => hostFault? (Text.cutAt ':' hostAndPort).1
  | (before, some bracketed) =>
    let (host, rest) := Text.cutAt ']' bracketed
    if !before.isEmpty then some .brackets
    else match rest.getD [] with
      | [] => hostFault? host
      | c :: _ => if c == ':' then hostFault? host else some .brackets

/-- Does the normal form of an authority hold a character that ends an authority or a host, though the
authority itself does not? -/
def isDisguised (authority : List Char) : Bool :=
  let bare := authority.filter fun c => !(c == '@' || c == ':' || c == '#' || c == '?')
  let normal := Text.normalKC bare
  authority.any (0x80 ≤ ·.toNat) && bare != normal &&
    normal.any fun c => c == '/' || c == '?' || c == '#' || c == '@' || c == ':'

/-- What is wrong with an authority. -/
def authorityFault? (authority : List Char) : Option AddressFault :=
  let opens := authority.contains '['
  let closes := authority.contains ']'
  let bracketed := if opens && closes then bracketFault? authority else none
  if opens != closes then some .brackets
  else match bracketed with
    | some fault => some fault
    | none => if isDisguised authority then some (.disguised (String.ofList authority)) else none

end Address

/-- The parts of a web address that matter here. -/
structure WebAddress where
  scheme : List Char
  authority : List Char
  deriving DecidableEq, Repr

/-- Take a web address apart. -/
def WebAddress.parse (cs : List Char) : Except AddressFault WebAddress :=
  let (scheme, rest) := Address.splitScheme (Address.withoutNoise cs)
  let authority := Address.authorityOf rest
  match Address.authorityFault? authority with
  | some fault => .error fault
  | none => .ok ⟨scheme, authority⟩

end DatasetForm
