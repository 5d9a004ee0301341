import DatasetForm.Text.CaseTable

/-!
Lower case and caseless comparison for all of Unicode.

Lower case is taken character by character, except that a capital sigma at the end of a word becomes
the final sigma. Folding, the form in which texts are compared without regard to case, has no such
context: `fold` distributes over `++`.
-/

set_option autoImplicit false
set_option relaxedAutoImplicit false

namespace DatasetForm.Text

/-- The lower-case letter of an ASCII letter; other characters stay. -/
def lowerAscii (c : Char) : Char :=
  if 0x41 ≤ c.toNat && c.toNat ≤ 0x5A then Char.ofNat (c.toNat + 0x20) else c

/-- The upper-case letter of an ASCII letter; other characters stay. -/
def upperAscii (c : Char) : Char :=
  if 0x61 ≤ c.toNat && c.toNat ≤ 0x7A then Char.ofNat (c.toNat - 0x20) else c

/-- The lower-case form of one character by itself. Only the dotted capital I takes two characters. -/
def lowerChar (c : Char) : List Char :=
  if c.toNat < 0x80 then [lowerAscii c]
  else if c.toNat == 0x130 then ['i', Char.ofNat 0x307]
  else [Char.ofNat ((lowerRuns.findSome? (·.imageOf? c.toNat)).getD c.toNat)]

/-- Does a cased letter come first, characters aside that are skipped? -/
def meetsCased (cs : List Char) : Bool :=
  match cs.find? fun c => !covers caseIgnorableSpans c.toNat with
  | some c => covers casedSpans c.toNat
  | none => false

/-- Lower case of a text, given the characters before it, nearest first. -/
def lowerAfter : List Char → List Char → List Char
  | _, [] => []
  | before, c :: after =>
    (if c.toNat == 0x3A3 && meetsCased before && !meetsCased after then [Char.ofNat 0x3C2]
      else lowerChar c) ++ lowerAfter (c :: before) after

def lower (text : String) : String :=
  String.ofList (lowerAfter [] text.toList)

/-- The caseless form of one character. -/
def foldChar (c : Char) : List Char :=
  if c.toNat < 0x80 then [lowerAscii c]
  else match foldExpansions.lookup c.toNat with
    | some codes => codes.map Char.ofNat
    | none => match foldRuns.findSome? (·.imageOf? c.toNat) with
      | some code => [Char.ofNat code]
      | none => lowerChar c

/-- The form in which texts are compared without regard to case. -/
def fold (cs : List Char) : List Char :=
  cs.flatMap foldChar

end DatasetForm.Text
