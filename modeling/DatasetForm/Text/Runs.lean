/-!
Splitting a text at separators, and putting the parts together again.
-/

set_option autoImplicit false
set_option relaxedAutoImplicit false

namespace DatasetForm.Text

/-- Put a run before others unless it is empty. -/
def consRun (run : List Char) (others : List (List Char)) : List (List Char) :=
  if run.isEmpty then others else run :: others

/-- The characters before the first separator, and the runs after it. -/
def leadingRun (separates : Char → Bool) (cs : List Char) : List Char × List (List Char) :=
  cs.foldr
    (fun c read => if separates c then ([], consRun read.1 read.2) else (c :: read.1, read.2))
    ([], [])

/-- The longest runs of characters that do not separate, in order. -/
def runs (separates : Char → Bool) (cs : List Char) : List (List Char) :=
  consRun (leadingRun separates cs).1 (leadingRun separates cs).2

/-- Runs with one separator between neighbours. -/
def joinRuns (separator : Char) : List (List Char) → List Char
  | [] => []
  | [run] => run
  | run :: others => run ++ separator :: joinRuns separator others

/-- All parts between separators, empty ones too; there is always at least one. -/
def splitAt (separator : Char) : List Char → List (List Char)
  | [] => [[]]
  | c :: cs =>
    if c == separator then [] :: splitAt separator cs
    else match splitAt separator cs with
      | [] => [[c]]
      | part :: parts => (c :: part) :: parts

/-- What stands before the first separator, and what stands after it, if there is one. -/
def cutAt (separator : Char) : List Char → List Char × Option (List Char)
  | [] => ([], none)
  | c :: cs =>
    if c == separator then ([], some cs)
    else (c :: (cutAt separator cs).1, (cutAt separator cs).2)

/-- What follows the last separator, or everything when there is none. -/
def afterLast (separator : Char) (cs : List Char) : List Char :=
  (cs.reverse.takeWhile (· != separator)).reverse

/-- Is the character one of a to z and 0 to 9? -/
def isLowerAlnum (c : Char) : Bool :=
  (0x61 ≤ c.toNat && c.toNat ≤ 0x7A) || (0x30 ≤ c.toNat && c.toNat ≤ 0x39)

/-- Is the character one of A to Z? -/
def isCapital (c : Char) : Bool :=
  0x41 ≤ c.toNat && c.toNat ≤ 0x5A

/-- Is the character an ASCII letter or digit? -/
def isAlnum (c : Char) : Bool :=
  isLowerAlnum c || isCapital c

/-- Is the character an ASCII letter? -/
def isLetter (c : Char) : Bool :=
  (0x61 ≤ c.toNat && c.toNat ≤ 0x7A) || isCapital c

/-- Put a mark before each capital that follows one of a to z and 0 to 9. -/
def breakCamel (mark : Char) : List Char → List Char
  | c :: d :: cs =>
    if isLowerAlnum c && isCapital d then c :: mark :: breakCamel mark (d :: cs)
    else c :: breakCamel mark (d :: cs)
  | cs => cs

end DatasetForm.Text
