import DatasetForm.Number.Power

/-!
Binary floating-point numbers of 64 bits, held exactly as a whole number times a power of two.

`roundQuotient` is the one place where rounding happens: it gives the number nearest to a quotient,
of two equally near ones that with the even significand. Products, conversions and decimal texts are
exact computations followed by it. Comparisons are exact and never round.
-/

set_option autoImplicit false
set_option relaxedAutoImplicit false

namespace DatasetForm

/-- A binary floating-point number: not a number, infinite, or plus or minus
`significand * 2 ^ exponent`. Numbers made here have `significand < 2 ^ 53` and
`-1074 ≤ exponent ≤ 971`, and the significand is at least `2 ^ 52` unless the exponent is least, so
equal numbers of one sign are equal terms. -/
inductive Binary64
  | nan
  | infinite (negative : Bool)
  | finite (negative : Bool) (significand : Nat) (exponent : Int)
  deriving DecidableEq, Repr

namespace Binary64

/-- Zero, with a sign. -/
def zero (negative : Bool) : Binary64 :=
  .finite negative 0 (-1074)

/-- `p / q` rounded to a whole number, a half to the even neighbour. -/
def roundHalfEven (p q : Nat) : Nat :=
  let whole := p / q
  let rest := 2 * (p % q)
  if rest < q || (rest == q && whole % 2 == 0) then whole else whole + 1

/-- `p / q` divided by `2 ^ exponent`, as numerator and denominator. -/
def scaled (p q : Nat) (exponent : Int) : Nat × Nat :=
  (p * twoTo (-exponent).toNat, q * twoTo exponent.toNat)

/-- The exponent at which the significand of `p / q` has 53 bits, or the least one. -/
def fittingExponent (p q : Nat) : Int :=
  let guess : Int := (Nat.log2 p : Int) - (Nat.log2 q : Int) - 52
  let (num, den) := scaled p q guess
  max (-1074) (if num < den * twoTo 52 then guess - 1 else guess)

/-- The number nearest to plus or minus `p / q`, for a positive `q`. -/
def roundQuotient (negative : Bool) (p q : Nat) : Binary64 :=
  if p == 0 then zero negative
  else
    let exponent := fittingExponent p q
    let (num, den) := scaled p q exponent
    let significand := roundHalfEven num den
    if significand == twoTo 53 then
      if exponent + 1 > 971 then .infinite negative else .finite negative (twoTo 52) (exponent + 1)
    else if exponent > 971 then .infinite negative
    else .finite negative significand exponent

/-- The number nearest to a whole number; nothing when that is past the largest number. -/
def ofInt? (n : Int) : Option Binary64 :=
  match roundQuotient (n < 0) n.natAbs 1 with
  | .infinite _ => none
  | x => some x

/-- The number nearest to `n / d`; nothing when that is past the largest number. -/
def ofRatio? (n : Int) (d : Nat) : Option Binary64 :=
  match roundQuotient (n < 0) n.natAbs d with
  | .infinite _ => none
  | x => some x

/-- The magnitude of a finite number as a quotient. -/
def quotient (significand : Nat) (exponent : Int) : Nat × Nat :=
  (significand * twoTo exponent.toNat, twoTo (-exponent).toNat)

/-- The number nearest to the product. -/
def mul : Binary64 → Binary64 → Binary64
  | .finite a m e, .finite b n f =>
    let (p, q) := quotient (m * n) (e + f)
    roundQuotient (a != b) p q
  | .infinite a, .finite b n _ => if n == 0 then .nan else .infinite (a != b)
  | .finite a m _, .infinite b => if m == 0 then .nan else .infinite (a != b)
  | .infinite a, .infinite b => .infinite (a != b)
  | _, _ => .nan

/-- The number nearest to the quotient by a positive whole number. -/
def divNat (x : Binary64) (d : Nat) : Binary64 :=
  match x with
  | .finite negative m e =>
    let (p, q) := quotient m e
    roundQuotient negative p (q * d)
  | x => x

/-- A quotient with its sign. -/
def signedQuotient (negative : Bool) (m : Nat) (e : Int) : Int × Nat :=
  let (p, q) := quotient m e
  (if negative then -(p : Int) else p, q)

/-- How two numbers compare; nothing when one is not a number. -/
def compare? : Binary64 → Binary64 → Option Ordering
  | .nan, _ => none
  | _, .nan => none
  | .infinite a, .infinite b => some (compare b a)
  | .infinite a, .finite .. => some (if a then .lt else .gt)
  | .finite .., .infinite b => some (if b then .gt else .lt)
  | .finite a m e, .finite b n f =>
    let (p, q) := signedQuotient a m e
    let (r, s) := signedQuotient b n f
    some (compare (p * s) (r * q))

/-- How a number compares with a whole number, exactly; nothing when it is not a number. -/
def compareInt? (x : Binary64) (n : Int) : Option Ordering :=
  match x with
  | .nan => none
  | .infinite negative => some (if negative then .lt else .gt)
  | .finite negative m e =>
    let (p, q) := signedQuotient negative m e
    some (compare p (n * q))

/-- The whole number that equals the number, if one does. -/
def toInt? : Binary64 → Option Int
  | .finite negative m e =>
    let (p, q) := quotient m e
    if p % q == 0 then some (if negative then -(p / q : Nat) else (p / q : Nat)) else none
  | _ => none

/-- A finite number rounded to a whole number, a half to the even neighbour. -/
def round? : Binary64 → Option Int
  | .finite negative m e =>
    let (p, q) := quotient m e
    let n := roundHalfEven p q
    some (if negative then -(n : Int) else n)
  | _ => none

/-- Is the number plus or minus zero? -/
def isZero : Binary64 → Bool
  | .finite _ m _ => m == 0
  | _ => false

end Binary64

end DatasetForm
