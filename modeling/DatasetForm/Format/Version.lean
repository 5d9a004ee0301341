import DatasetForm.Outcome
import DatasetForm.Text.Digit
import DatasetForm.Text.Runs

/-!
Version numbers: `MAJOR.MINOR`, or `MAJOR.MINOR.PATCH` with an optional pre-release after a hyphen and
optional build data after a plus sign.
-/

set_option autoImplicit false
set_option relaxedAutoImplicit false

namespace DatasetForm

namespace Format

/-- Is this a number without leading zeros? Digits after the first may be of any script. -/
def isVersionNumber : List Char → Bool
  | [] => false
  | c :: cs =>
    (c == '0' && cs.isEmpty) || (0x31 ≤ c.toNat && c.toNat ≤ 0x39 && cs.all Text.isDigit)

/-- Is the character an ASCII letter, an ASCII digit or a hyphen? -/
def isVersionChar (c : Char) : Bool :=
  Text.isAlnum c || c == '-'

/-- Is this digits, then an ASCII letter or hyphen, then further letters, digits and hyphens? -/
def isVersionWord (cs : List Char) : Bool :=
  match cs.dropWhile Text.isDigit with
  | [] => false
  | c :: rest => (Text.isLetter c || c == '-') && rest.all isVersionChar

/-- Is this one part of a pre-release? -/
def isPreReleasePart (cs : List Char) : Bool :=
  isVersionNumber cs || isVersionWord cs

/-- Is this one part of build data? -/
def isBuildPart (cs : List Char) : Bool :=
  !cs.isEmpty && cs.all isVersionChar

/-- Are the dot-separated parts of a suffix, which may be missing, all of the given form? -/
def suffixHolds (isPart : List Char → Bool) : Option (List Char) → Bool
  | none => true
  | some cs => (Text.splitAt '.' cs).all isPart

/-- Is the text a version number? -/
def isVersion (cs : List Char) : Bool :=
  let (core, build) := Text.cutAt '+' cs
  let (numbers, preRelease) := Text.cutAt '-' core
  match Text.splitAt '.' numbers with
  | [major, minor] =>
    isVersionNumber major && isVersionNumber minor && preRelease.isNone && build.isNone
  | [major, minor, patch] =>
    isVersionNumber major && isVersionNumber minor && isVersionNumber patch &&
      suffixHolds isPreReleasePart preRelease && suffixHolds isBuildPart build
  | _ => false

/-- Check a version; a blank one is accepted. -/
def checkVersion (v : Value) : Verdict :=
  if v.isBlank || isVersion v.trimmedText.toList then .accepted none else .refused .version

end Format

end DatasetForm
