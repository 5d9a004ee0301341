/-!
Powers of the two bases in which numbers are written.
-/

set_option autoImplicit false
set_option relaxedAutoImplicit false

namespace DatasetForm

/-- Two to the power `n`. -/
def twoTo (n : Nat) : Nat :=
  Nat.pow 2 n

/-- Ten to the power `n`. -/
def tenTo (n : Nat) : Nat :=
  Nat.pow 10 n

end DatasetForm
