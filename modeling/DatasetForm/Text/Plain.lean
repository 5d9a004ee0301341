/-!
Text for a place that is no terminal: without the sequences that set colours or move the cursor, without
returns before the ends of lines, and without the characters that ring, go back, or feed a page.
-/

set_option autoImplicit false
set_option relaxedAutoImplicit false

namespace DatasetForm.Text

/-- The character with which a sequence for a terminal begins. -/
def escape : Char := '\x1B'

/-- May the character stand between the bracket of a sequence and its last letter? -/
def isParameter (c : Char) : Bool :=
  c == ';' || c == '?' || (0x30 ≤ c.toNat && c.toNat ≤ 0x39)

/-- Does the letter end a sequence? -/
def endsSequence (c : Char) : Bool :=
  (0x41 ≤ c.toNat && c.toNat ≤ 0x5A) || (0x61 ≤ c.toNat && c.toNat ≤ 0x7A)

/-- How many characters a sequence takes of a text that begins with its parameters, if it is one. -/
def sequenceLength? : List Char → Option Nat
  | [] => none
  | c :: cs =>
    if isParameter c then (sequenceLength? cs).map (· + 1)
    else if endsSequence c then some 1
    else none

/-- Leave `skipped` characters out, and then all sequences. -/
def dropSequences : (skipped : Nat) → List Char → List Char
  | _, [] => []
  | skipped + 1, _ :: cs => dropSequences skipped cs
  | 0, c :: cs =>
    match c == escape, cs with
    | true, '[' :: rest =>
      match sequenceLength? rest with
      | some length => dropSequences (length + 1) ('[' :: rest)
      | none => c :: dropSequences 0 ('[' :: rest)
    | _, cs => c :: dropSequences 0 cs

/-- A text without the sequences that set colours or move the cursor. -/
def withoutSequences (text : String) : String :=
  String.ofList (dropSequences 0 text.toList)

/-- A text in which no line is ended by a return and a feed together: the feed ends it alone. -/
def withoutReturns : List Char → List Char
  | '\r' :: '\n' :: cs => '\n' :: withoutReturns cs
  | c :: cs => c :: withoutReturns cs
  | [] => []

/-- Is the character left out wherever text is laid out: the bell, the step back, the feeds of a page and the
return to the beginning of a line? -/
def isDropped (c : Char) : Bool :=
  c.toNat == 0x07 || c.toNat == 0x08 || (0x0B ≤ c.toNat && c.toNat ≤ 0x0D)

/-- The characters that are laid out. -/
def laidOut (cs : List Char) : List Char :=
  cs.filter fun c => !isDropped c

end DatasetForm.Text
