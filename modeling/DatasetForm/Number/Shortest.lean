import DatasetForm.Number.Decimal

/-!
The shortest decimal text of a binary number: the fewest significant digits that read back as the same
number, and of those the ones nearest to it.
-/

set_option autoImplicit false
set_option relaxedAutoImplicit false

namespace DatasetForm

/-- How decimal texts are laid out. -/
structure DecimalLayout where
  /-- Numbers whose leading digit stands for `10 ^ k` with `least ≤ k < bound` are written
  positionally. -/
  least : Int
  bound : Int
  /-- The least number of digits in an exponent. -/
  exponentWidth : Nat

/-- Numbers from 0.0001 up to below 10 ^ 16 are written positionally, and exponents have a sign and
at least two digits. -/
def DecimalLayout.standard : DecimalLayout :=
  ⟨-4, 16, 2⟩

namespace Binary64

/-- The decimal digits of a number, as characters. -/
def digitChars (n : Nat) : List Char :=
  Nat.toDigits 10 n

/-- The exponent of the leading decimal digit of `p / q`. -/
def leadingExponent (p q : Nat) : Int :=
  if q ≤ p then ((digitChars (p / q)).length : Int) - 1
  else -((digitChars ((q - 1) / p)).length : Int)

/-- Of the two neighbours of `p / q` on the grid of multiples of `10 ^ scale`, the nearer one that
reads back as `x`, of two equally near ones the even one. -/
def onGrid? (x : Binary64) (negative : Bool) (p q : Nat) (scale : Int) : Option Nat :=
  let num := p * tenTo (-scale).toNat
  let den := q * tenTo scale.toNat
  let low := num / den
  let readsBack (n : Nat) : Bool := (Decimal.mk negative n scale false).toBinary64 == x
  let twice := 2 * (num % den)
  let lowFirst := twice < den || (twice == den && low % 2 == 0)
  let (first, second) := if lowFirst then (low, low + 1) else (low + 1, low)
  if readsBack first then some first else if readsBack second then some second else none

/-- The first grid among those for `count`, `count + 1`, … digits that has a decimal reading back as
`x`: the decimal and its scale. -/
def shortestFrom (x : Binary64) (negative : Bool) (p q : Nat) (leading : Int) :
    (fuel count : Nat) → Nat × Int
  | 0, count => (p * tenTo (count - 1) / q, leading + 1 - count)
  | fuel + 1, count =>
    let scale := leading + 1 - count
    match onGrid? x negative p q scale with
    | some n => (n, scale)
    | none => shortestFrom x negative p q leading fuel (count + 1)

/-- A list of characters without its trailing zeros, one character at least. -/
def dropTrailingZeros (cs : List Char) : List Char :=
  match (cs.reverse.dropWhile (· == '0')).reverse with
  | [] => ['0']
  | ds => ds

/-- The shortest digits of a positive number and the exponent of the first of them. Seventeen digits
always suffice. -/
def shortestDigits (negative : Bool) (m : Nat) (e : Int) : List Char × Int :=
  let (p, q) := quotient m e
  let (n, scale) := shortestFrom (.finite negative m e) negative p q (leadingExponent p q) 17 1
  let ds := digitChars n
  (dropTrailingZeros ds, scale + ds.length - 1)

/-- Zeros before a text so that it has at least `width` characters. -/
def padZeros (width : Nat) (cs : List Char) : List Char :=
  List.replicate (width - cs.length) '0' ++ cs

/-- An exponent with its sign. -/
def exponentChars (layout : DecimalLayout) (exponent : Int) : List Char :=
  (if exponent < 0 then '-' else '+') ::
    padZeros layout.exponentWidth (digitChars exponent.natAbs)

/-- Lay out digits, the first of which stands for `10 ^ exponent`. -/
def layOut (layout : DecimalLayout) (digits : List Char) (exponent : Int) : List Char :=
  if layout.least ≤ exponent && exponent < layout.bound then
    if exponent < 0 then
      '0' :: '.' :: (List.replicate (-exponent - 1).toNat '0' ++ digits)
    else
      let before := exponent.toNat + 1
      let whole := digits.take before ++ List.replicate (before - digits.length) '0'
      match digits.drop before with
      | [] => whole ++ ['.', '0']
      | fraction => whole ++ '.' :: fraction
  else
    match digits with
    | [d] => d :: 'e' :: exponentChars layout exponent
    | d :: ds => d :: '.' :: ds ++ 'e' :: exponentChars layout exponent
    | [] => []

/-- The shortest text of a binary number that reads back as the number. -/
def text (x : Binary64) : String :=
  match x with
  | .nan => "nan"
  | .infinite negative => if negative then "-inf" else "inf"
  | .finite negative m e =>
    let sign := if negative then ['-'] else []
    if m == 0 then String.ofList (sign ++ ['0', '.', '0'])
    else
      let (digits, exponent) := shortestDigits negative m e
      String.ofList (sign ++ layOut .standard digits exponent)

end Binary64

end DatasetForm
