import DatasetForm.Text.CanonicalTable
import DatasetForm.Text.CombiningClass
import DatasetForm.Text.CompatibilityTable

/-!
Unicode normal forms: decomposition into base characters and marks, the canonical order of marks, and
composition. `compose (reorder (cs.flatMap decomposeCompatibly))` is the form in which texts that look
alike are equal (`normalKC`).
-/

set_option autoImplicit false
set_option relaxedAutoImplicit false

namespace DatasetForm.Text

/-- The letters of the Hangul syllable with the given number. -/
def hangulLetters (index : Nat) : List Char :=
  [Char.ofNat (0x1100 + index / 588), Char.ofNat (0x1161 + index % 588 / 28)] ++
    (if index % 28 == 0 then [] else [Char.ofNat (0x11A7 + index % 28)])

/-- The canonical parts of a character, one step down; nothing when it has none. -/
def canonicalParts? (c : Char) : Option (List Char) :=
  let code := c.toNat
  if code < 0xC0 then none
  else if 0xAC00 ≤ code && code < 0xAC00 + 11172 then some (hangulLetters (code - 0xAC00))
  else (lookup? canonicalPages code).map (·.map Char.ofNat)

/-- The canonical or compatible parts of a character, one step down. -/
def compatibleParts? (c : Char) : Option (List Char) :=
  if c.toNat < 0xA0 then none
  else match lookup? compatibilityPages c.toNat with
    | some codes => some (codes.map Char.ofNat)
    | none => canonicalParts? c

/-- Take a character apart step by step, `depth` steps deep. -/
def expandWith (parts? : Char → Option (List Char)) : (depth : Nat) → Char → List Char
  | 0, c => [c]
  | depth + 1, c =>
    match parts? c with
    | none => [c]
    | some cs => cs.flatMap (expandWith parts? depth)

/-- The full canonical decomposition of a character; no character needs more than three steps. -/
def decompose (c : Char) : List Char :=
  expandWith canonicalParts? 3 c

/-- The full compatibility decomposition of a character; three steps are enough for each. -/
def decomposeCompatibly (c : Char) : List Char :=
  expandWith compatibleParts? 3 c

/-- Put a character before a text in canonical order: a mark moves behind those of lower class. -/
def insertMark (c : Char) : List Char → List Char
  | [] => [c]
  | d :: ds =>
    if combiningClass c ≤ combiningClass d || combiningClass d == 0 || combiningClass c == 0 then
      c :: d :: ds
    else d :: insertMark c ds

/-- Canonical order: marks on one base character stand by class, those of one class in the order in
which they came. -/
def reorder (cs : List Char) : List Char :=
  cs.foldr insertMark []

/-- The characters that two parts make, as `(first, second, composite)`. -/
def compositePairs : List (Char × Char × Char) :=
  canonicalPages.flatMap fun page => page.2.filterMap fun entry =>
    match entry.2 with
    | [first, second] =>
      if compositionExclusions.contains entry.1 then none
      else some (Char.ofNat first, Char.ofNat second, Char.ofNat entry.1)
    | _ => none

/-- The Hangul syllable of two parts: an initial and a vowel, or a syllable without final and one. -/
def hangulSyllable? (first second : Char) : Option Char :=
  let a := first.toNat
  let b := second.toNat
  if 0x1100 ≤ a && a < 0x1113 && 0x1161 ≤ b && b < 0x1176 then
    some (Char.ofNat (0xAC00 + ((a - 0x1100) * 21 + (b - 0x1161)) * 28))
  else if 0xAC00 ≤ a && a < 0xAC00 + 11172 && (a - 0xAC00) % 28 == 0 && 0x11A8 ≤ b && b < 0x11C3 then
    some (Char.ofNat (a + (b - 0x11A7)))
  else none

/-- The character that two characters make together. The second of a pair never stands before
U+0300. -/
def composite? (first second : Char) : Option Char :=
  if second.toNat < 0x300 then none
  else match hangulSyllable? first second with
    | some c => some c
    | none => (compositePairs.find? fun pair => pair.1 == first && pair.2.1 == second).map (·.2.2)

/-- Compose a text that begins with `base`, a character that starts a cluster, and the `marks` kept
after it so far, last first. A character joins the base unless one between them has class zero or at
least its own class. -/
def composeFrom (base : Char) : (marks : List Char) → List Char → List Char
  | marks, [] => base :: marks.reverse
  | marks, c :: cs =>
    let joined :=
      match marks with
      | [] => composite? base c
      | mark :: _ => if combiningClass mark < combiningClass c then composite? base c else none
    match joined with
    | some whole => composeFrom whole marks cs
    | none =>
      if combiningClass c == 0 then base :: (marks.reverse ++ composeFrom c [] cs)
      else composeFrom base (c :: marks) cs

/-- Compose a text in canonical order; marks before the first base character stay. -/
def compose : List Char → List Char
  | [] => []
  | c :: cs => if combiningClass c == 0 then composeFrom c [] cs else c :: compose cs

/-- The composed compatibility normal form. -/
def normalKC (cs : List Char) : List Char :=
  compose (reorder (cs.flatMap decomposeCompatibly))

end DatasetForm.Text
