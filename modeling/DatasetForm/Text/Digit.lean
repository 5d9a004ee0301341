import DatasetForm.Text.Packed

/-!
Decimal digits (general category Nd of Unicode 14) and the numbers they write. Each script has ten of
them in a row, from its zero on.
-/

set_option autoImplicit false
set_option relaxedAutoImplicit false

namespace DatasetForm.Text

/-- The zeros of all scripts, ASCII first. -/
def digitZeros : List Nat :=
  [
    0x30, 0x660, 0x6F0, 0x7C0, 0x966, 0x9E6, 0xA66, 0xAE6, 0xB66, 0xBE6, 0xC66, 0xCE6, 0xD66,
    0xDE6, 0xE50, 0xED0, 0xF20, 0x1040, 0x1090, 0x17E0, 0x1810, 0x1946, 0x19D0, 0x1A80, 0x1A90,
    0x1B50, 0x1BB0, 0x1C40, 0x1C50, 0xA620, 0xA8D0, 0xA900, 0xA9D0, 0xA9F0, 0xAA50, 0xABF0,
    0xFF10, 0x104A0, 0x10D30, 0x11066, 0x110F0, 0x11136, 0x111D0, 0x112F0, 0x11450, 0x114D0,
    0x11650, 0x116C0, 0x11730, 0x118E0, 0x11950, 0x11C50, 0x11D50, 0x11DA0, 0x16A60, 0x16AC0,
    0x16B50, 0x1D7CE, 0x1D7D8, 0x1D7E2, 0x1D7EC, 0x1D7F6, 0x1E140, 0x1E2F0, 0x1E950, 0x1FBF0]

/-- The number that a decimal digit of any script stands for. -/
def digitValue? (c : Char) : Option Nat :=
  (digitZeros.find? fun start => start ≤ c.toNat && c.toNat < start + 10).map (c.toNat - ·)

/-- Is the character a decimal digit of some script? -/
def isDigit (c : Char) : Bool :=
  (digitValue? c).isSome

/-- Is the character one of 0 to 9? -/
def isAsciiDigit (c : Char) : Bool :=
  0x30 ≤ c.toNat && c.toNat ≤ 0x39

/-- The spans of characters that stand for a digit without being a decimal digit, such as
superscripts and circled digits. -/
def digitSignSpans : List Span := spans (
  [
    0xB2_0000B3, 0xB9_0000B9, 0x1369_001371, 0x19DA_0019DA, 0x2070_002070, 0x2074_002079,
    0x2080_002089, 0x2460_002468, 0x2474_00247C, 0x2488_002490, 0x24EA_0024EA, 0x24F5_0024FD,
    0x24FF_0024FF, 0x2776_00277E, 0x2780_002788, 0x278A_002792, 0x10A40_010A43, 0x10E60_010E68,
    0x11052_01105A, 0x1F100_01F10A])

/-- Does the character stand for a digit, as a decimal digit or as a sign such as a superscript? -/
def isDigitLike (c : Char) : Bool :=
  isDigit c || covers digitSignSpans c.toNat

/-- The number that decimal digits write, most significant first; nothing when one of the characters
is no decimal digit. No characters write zero. -/
def readDigits? (cs : List Char) : Option Nat :=
  cs.foldl (fun read c => read.bind fun n => (digitValue? c).map (10 * n + ·)) (some 0)

end DatasetForm.Text
