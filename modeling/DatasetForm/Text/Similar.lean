/-!
How alike two texts are: by the blocks that they share. The longest shared block is found first, then those
on its left and on its right, and so on.
-/

set_option autoImplicit false
set_option relaxedAutoImplicit false

namespace DatasetForm.Text

/-- A block that two texts share: where it begins in each of them, and its length. -/
structure SharedBlock where
  left : Nat := 0
  right : Nat := 0
  length : Nat := 0

/-- How many characters two texts have in common at their beginnings. -/
def commonStart : List Char → List Char → Nat
  | x :: xs, y :: ys => if x == y then commonStart xs ys + 1 else 0
  | _, _ => 0

/-- The longest block that two texts share, of several the first one. -/
def longestShared (xs ys : List Char) : SharedBlock :=
  let places := (List.range xs.length).flatMap fun i => (List.range ys.length).map fun j => (i, j)
  places.foldl
    (fun best (i, j) =>
      let length := commonStart (xs.drop i) (ys.drop j)
      if best.length < length then ⟨i, j, length⟩ else best)
    {}

/-- How many characters lie in shared blocks. Each step takes at least one character from both texts, so
that the length of one of them is fuel enough. -/
def sharedCount : (fuel : Nat) → List Char → List Char → Nat
  | 0, _, _ => 0
  | fuel + 1, xs, ys =>
    let block := longestShared xs ys
    if block.length == 0 then 0
    else
      sharedCount fuel (xs.take block.left) (ys.take block.right) + block.length +
        sharedCount fuel (xs.drop (block.left + block.length)) (ys.drop (block.right + block.length))

/-- How many characters a text shares with another one. -/
def shared (xs ys : List Char) : Nat :=
  sharedCount (xs.length + 1) xs ys

/-- Of two texts, which share more of their characters with a third, in `≤` order. -/
def sharesMore (word : List Char) (a b : String) : Bool :=
  let left := shared a.toList word * (b.toList.length + word.length)
  let right := shared b.toList word * (a.toList.length + word.length)
  left > right || (left == right && b ≤ a)

/-- Are at least three of five characters of both texts shared? -/
def isSimilar (word : List Char) (candidate : String) : Bool :=
  10 * shared candidate.toList word ≥ 3 * (candidate.toList.length + word.length)

/-- The candidates that are similar to a word, the most similar ones first, at most three. -/
def similarTo (word : String) (candidates : List String) : List String :=
  ((candidates.filter (isSimilar word.toList)).mergeSort (sharesMore word.toList)).take 3

end DatasetForm.Text
