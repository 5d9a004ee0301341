/-!
Halves of surrogate pairs. A document can write half a pair by itself, such as `\ud800`: it is no character,
and UTF-8 has no bytes for it. A text holds a half as one of the characters from U+7D800 on, in a plane in
which none is assigned, so that it is carried along like any character without a name; what has to be
written in UTF-8 is searched for halves first.
-/

set_option autoImplicit false
set_option relaxedAutoImplicit false

namespace DatasetForm

/-- Halves in a text that has to be written: the first of them, its position, and how many there are in a
row. -/
structure HalfFault where
  code : Nat
  position : Nat
  size : Nat
  deriving DecidableEq, Repr

namespace Text

/-- The distance from a half to the character that a text holds for it. -/
def halfDistance : Nat := 0x70000

/-- Is the code the first of a pair? -/
def isHighHalf (code : Nat) : Bool :=
  0xD800 ≤ code && code ≤ 0xDBFF

/-- Is the code the second of a pair? -/
def isLowHalf (code : Nat) : Bool :=
  0xDC00 ≤ code && code ≤ 0xDFFF

/-- Is the code that of a half? -/
def isHalfCode (code : Nat) : Bool :=
  isHighHalf code || isLowHalf code

/-- The code of the character for which a pair stands. -/
def pairCode (high low : Nat) : Nat :=
  0x10000 + (high - 0xD800) * 0x400 + (low - 0xDC00)

/-- The character that a text holds for a code. -/
def charOfCode (code : Nat) : Char :=
  Char.ofNat (if isHalfCode code then code + halfDistance else code)

/-- Does the character stand for a half? -/
def isHalf (c : Char) : Bool :=
  isHalfCode (c.toNat - halfDistance)

/-- The code for which a character stands. -/
def codeOf (c : Char) : Nat :=
  if isHalf c then c.toNat - halfDistance else c.toNat

/-- The first halves in a text. -/
def halfFault? (text : String) : Option HalfFault :=
  let before := text.toList.takeWhile fun c => !isHalf c
  let halves := (text.toList.drop before.length).takeWhile isHalf
  halves.head?.map fun c => ⟨codeOf c, before.length, halves.length⟩

end Text

end DatasetForm
