import DatasetForm.Number.Binary64

/-!
Decimal numbers as texts write them: an optional minus sign, digits without needless zeros, a fraction,
an exponent. `Decimal.take?` reads one from the front of a text, `Decimal.read?` a whole text.
-/

set_option autoImplicit false
set_option relaxedAutoImplicit false

namespace DatasetForm

/-- The decimal number plus or minus `digits * 10 ^ scale`; it is `whole` when it was written without
a fraction or exponent. -/
structure Decimal where
  negative : Bool
  digits : Nat
  scale : Int
  whole : Bool
  deriving DecidableEq, Repr

namespace Decimal

/-- The number of an ASCII digit. -/
def asciiDigit? (c : Char) : Option Nat :=
  if 0x30 ≤ c.toNat && c.toNat ≤ 0x39 then some (c.toNat - 0x30) else none

/-- Is the character an ASCII digit? -/
def isDigit (c : Char) : Bool :=
  (asciiDigit? c).isSome

/-- The number that ASCII digits write; other characters are skipped. -/
def value (cs : List Char) : Nat :=
  cs.foldl (fun n c => ((asciiDigit? c).map (10 * n + ·)).getD n) 0

/-- The sign of an exponent and what follows it. -/
def takeSign : List Char → Bool × List Char
  | '-' :: cs => (true, cs)
  | '+' :: cs => (false, cs)
  | cs => (false, cs)

/-- The digits of a fraction, or none when no digit follows the point, and what follows. -/
def takeFraction : List Char → List Char × List Char
  | '.' :: cs =>
    match cs.takeWhile isDigit with
    | [] => ([], '.' :: cs)
    | ds => (ds, cs.dropWhile isDigit)
  | cs => ([], cs)

/-- An exponent with at least one digit, and what follows. -/
def takeExponent : List Char → Option Int × List Char
  | c :: cs =>
    if c == 'e' || c == 'E' then
      let (negative, rest) := takeSign cs
      match rest.takeWhile isDigit with
      | [] => (none, c :: cs)
      | ds => (some (if negative then -(value ds : Int) else value ds), rest.dropWhile isDigit)
    else (none, c :: cs)
  | [] => (none, [])

/-- The digits before the point, a single zero or no leading zero, and what follows. -/
def takeWhole? : List Char → Option (List Char × List Char)
  | '0' :: cs => some (['0'], cs)
  | cs =>
    match cs.takeWhile isDigit with
    | [] => none
    | ds => some (ds, cs.dropWhile isDigit)

/-- Put a number together from its sign, the digits before and after the point, and its exponent. -/
def make (negative : Bool) (whole fraction : List Char) (exponent : Option Int) : Decimal :=
  { negative
    digits := value (whole ++ fraction)
    scale := exponent.getD 0 - fraction.length
    whole := fraction.isEmpty && exponent.isNone }

/-- Read the longest number at the front of a text. -/
def take? (cs : List Char) : Option (Decimal × List Char) :=
  let (negative, unsigned) := match cs with
    | '-' :: rest => (true, rest)
    | _ => (false, cs)
  (takeWhole? unsigned).map fun (whole, rest) =>
    let (fraction, rest) := takeFraction rest
    let (exponent, rest) := takeExponent rest
    (make negative whole fraction exponent, rest)

/-- Read a text that is a number and nothing else. -/
def read? (cs : List Char) : Option Decimal :=
  match take? cs with
  | some (d, []) => some d
  | _ => none

/-- The whole number written without fraction and exponent. -/
def toInt (d : Decimal) : Int :=
  if d.negative then -(d.digits : Int) else d.digits

/-- The binary number nearest to plus or minus `digits * 10 ^ scale`. Scales far outside the range of
binary numbers are settled without computing the power. -/
def toBinary64 (d : Decimal) : Binary64 :=
  let size : Int := (Nat.log2 d.digits : Int) + 1
  if d.digits == 0 then .zero d.negative
  else if d.scale > 400 then .infinite d.negative
  else if d.scale < -400 - size then .zero d.negative
  else .roundQuotient d.negative (d.digits * tenTo d.scale.toNat) (tenTo (-d.scale).toNat)

end Decimal

end DatasetForm
