/-!
Tables of code points are written as lists of numerals, one numeral for each entry, with six
hexadecimal digits for each number after the first. This module reads such numerals back and looks
code points up in spans, labelled spans and pages.
-/

set_option autoImplicit false
set_option relaxedAutoImplicit false

namespace DatasetForm.Text

/-- The digits of `n` to base 2^24 before `rest`, with at most `fuel` of them. -/
def unpackDigits : (fuel n : Nat) → (rest : List Nat) → List Nat
  | 0, _, rest => rest
  | fuel + 1, n, rest =>
    if n < 0x1000000 then n :: rest
    else unpackDigits fuel (n / 0x1000000) (n % 0x1000000 :: rest)

/-- The numbers packed in a numeral, most significant first; no entry of a table packs more than
twenty. -/
def unpack (n : Nat) : List Nat :=
  unpackDigits 20 n []

/-- A span of code points, both ends included. -/
structure Span where
  first : Nat
  last : Nat
  deriving DecidableEq, Repr

/-- Does the span hold the code point? -/
def Span.holds (span : Span) (code : Nat) : Bool :=
  span.first ≤ code && code ≤ span.last

/-- Read spans packed as first, last. -/
def spans (packed : List Nat) : List Span :=
  packed.filterMap fun n =>
    match unpack n with
    | [first, last] => some ⟨first, last⟩
    | _ => none

/-- Does one of the spans hold the code point? -/
def covers (table : List Span) (code : Nat) : Bool :=
  table.any (·.holds code)

/-- Read spans with a number each, packed as first, last, number. -/
def labelledSpans (packed : List Nat) : List (Span × Nat) :=
  packed.filterMap fun n =>
    match unpack n with
    | [first, last, label] => some (⟨first, last⟩, label)
    | _ => none

/-- The number of the first span that holds the code point. -/
def labelAt (table : List (Span × Nat)) (code : Nat) : Option Nat :=
  (table.find? (·.1.holds code)).map (·.2)

/-- Read entries packed as a code point and what stands for it. -/
def expansions (packed : List Nat) : List (Nat × List Nat) :=
  packed.filterMap fun n =>
    match unpack n with
    | code :: parts => some (code, parts)
    | [] => none

/-- The entries of 256 neighbouring code points, under the number of their page. -/
abbrev Page := Nat × List (Nat × List Nat)

/-- Read packed pages. -/
def pages (packed : List (Nat × List Nat)) : List Page :=
  packed.map fun page => (page.1, expansions page.2)

/-- What stands for a code point in a table of pages. -/
def lookup? (table : List Page) (code : Nat) : Option (List Nat) :=
  (table.lookup (code / 256)).bind (·.lookup code)

end DatasetForm.Text
