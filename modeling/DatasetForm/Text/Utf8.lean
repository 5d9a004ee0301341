/-!
Reading bytes as text in UTF-8, and where and why they are none.
-/

set_option autoImplicit false
set_option relaxedAutoImplicit false

namespace DatasetForm

/-- Why bytes are no text. -/
inductive Utf8Problem
  /-- No character begins with this byte. -/
  | start
  /-- A byte does not continue the character that was begun. -/
  | continuation
  /-- The bytes end within a character. -/
  | truncated
  deriving DecidableEq, Repr

/-- A place where bytes are no text: the first byte, its position, and how many bytes the fault takes. -/
structure Utf8Fault where
  problem : Utf8Problem
  byte : Nat
  position : Nat
  size : Nat
  deriving DecidableEq, Repr

/-- A fault as it is told when bytes are read as they come in: a character that the end cuts off is all that
is left then, so that its position is counted from its own first byte. -/
def Utf8Fault.atEnd (fault : Utf8Fault) : Utf8Fault :=
  if fault.problem = .truncated then { fault with position := 0 } else fault

namespace Text

/-- Does a byte continue a character? -/
def isContinuation (b : Nat) : Bool :=
  0x80 ≤ b && b ≤ 0xBF

/-- The number of bytes after a first byte and the bounds of the second one; nothing when no character
begins with the byte. -/
def sequenceShape? (b : Nat) : Option (Nat × Nat × Nat) :=
  if b < 0x80 then some (0, 0, 0)
  else if 0xC2 ≤ b && b ≤ 0xDF then some (1, 0x80, 0xBF)
  else if b == 0xE0 then some (2, 0xA0, 0xBF)
  else if b == 0xED then some (2, 0x80, 0x9F)
  else if 0xE1 ≤ b && b ≤ 0xEF then some (2, 0x80, 0xBF)
  else if b == 0xF0 then some (3, 0x90, 0xBF)
  else if b == 0xF4 then some (3, 0x80, 0x8F)
  else if 0xF1 ≤ b && b ≤ 0xF3 then some (3, 0x80, 0xBF)
  else none

/-- Bytes that are still to come in the character that is being read. -/
structure Utf8Partial where
  /-- The first byte and its position. -/
  byte : Nat
  position : Nat
  /-- How many bytes were read, and how many are to come. -/
  size : Nat
  missing : Nat
  /-- The bounds of the next byte. -/
  least : Nat
  most : Nat
  /-- The number that the bytes read so far stand for. -/
  code : Nat

/-- A fault in a character that was begun. -/
def Utf8Partial.fault (p : Utf8Partial) (problem : Utf8Problem) : Utf8Fault :=
  ⟨problem, p.byte, p.position, p.size⟩

/-- Read bytes from a position on; a character may have been begun. -/
def readUtf8 : (position : Nat) → Option Utf8Partial → List Nat → Except Utf8Fault (List Char)
  | _, none, [] => .ok []
  | _, some p, [] => .error (p.fault .truncated)
  | position, none, b :: bs =>
    match sequenceShape? b with
    | none => .error ⟨.start, b, position, 1⟩
    | some (0, _, _) => (readUtf8 (position + 1) none bs).map (Char.ofNat b :: ·)
    | some (missing, least, most) =>
      readUtf8 (position + 1)
        (some ⟨b, position, 1, missing, least, most, b % 2 ^ (6 - missing)⟩) bs
  | position, some p, b :: bs =>
    if !(p.least ≤ b && b ≤ p.most) then .error (p.fault .continuation)
    else
      let code := p.code * 64 + b % 64
      match p.missing with
      | 0 | 1 => (readUtf8 (position + 1) none bs).map (Char.ofNat code :: ·)
      | missing + 1 =>
        readUtf8 (position + 1)
          (some { p with size := p.size + 1, missing, least := 0x80, most := 0xBF, code }) bs

/-- The text that bytes hold. -/
def decodeUtf8 (bytes : List Nat) : Except Utf8Fault (List Char) :=
  readUtf8 0 none bytes

/-- A text with line feeds for all ways of ending a line. -/
def unifyLines : List Char → List Char
  | '\r' :: '\n' :: cs => '\n' :: unifyLines cs
  | '\r' :: cs => '\n' :: unifyLines cs
  | c :: cs => c :: unifyLines cs
  | [] => []

end Text

end DatasetForm
