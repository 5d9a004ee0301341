import DatasetForm.Text.Blank
import DatasetForm.Text.CellWidth
import DatasetForm.Text.Plain

/-!
Laying text out in lines of a width: tabs are filled up with blanks, lines break between words, and a word
that is wider than a whole line is either folded or cut short with an ellipsis.
-/

set_option autoImplicit false
set_option relaxedAutoImplicit false

namespace DatasetForm.Text

/-- What becomes of a word that is wider than a line. -/
inductive WideWords
  | folded
  | cutShort
  deriving DecidableEq, Repr

def blanks (count : Nat) : List Char :=
  List.replicate count ' '

/-- The distance of the places at which tabs end. -/
def tabStep : Nat := 8

/-- The parts of a line before its tabs, and after the last one; each part is followed by blanks up to the
next place at which tabs end. -/
def fillTabs : (position : Nat) → (parts : List (List Char)) → List Char
  | _, [] => []
  | _, [part] => part
  | position, part :: parts =>
    let reached := position + columns (part ++ [' '])
    let missing := (tabStep - reached % tabStep) % tabStep
    part ++ ' ' :: blanks missing ++ fillTabs (reached + missing) parts

/-- A line with blanks for its tabs. -/
def expandTabs (line : List Char) : List Char :=
  fillTabs 0 (splitAt '\t' line)

/-- Put a character before some words. A blank before a word stands by itself; all else joins the first
word. -/
def consWord (c : Char) : List (List Char) → List (List Char)
  | [] => [[c]]
  | [] :: words => [c] :: words
  | (d :: word) :: words =>
    if isBlank c && !isBlank d then [c] :: (d :: word) :: words else (c :: d :: word) :: words

/-- The blanks at the beginning of a line, if there are any, and the words with the blanks after them. -/
def wordsWithBlanks (line : List Char) : List (List Char) :=
  line.foldr consWord []

/-- The words of a line, each with the blanks after it; the blanks at the beginning of a line belong to its
first word. -/
def lineWords (line : List Char) : List (List Char) :=
  match wordsWithBlanks line with
  | blank :: word :: words => if blank.all isBlank then (blank ++ word) :: words else blank :: word :: words
  | words => words

/-- The pieces of a word that is folded; `done` are the pieces before, last first, and `piece` are the glyphs
of the one that is filled, last first, with their width. -/
def foldGlyphs (width : Nat) (done : List (List Char)) (piece : List Glyph) (filled : Nat) :
    List Glyph → List (List Char)
  | [] => (textOfGlyphs piece :: done).reverse
  | glyph :: glyphs =>
    if filled + glyph.width > width then
      foldGlyphs width (textOfGlyphs piece :: done) [glyph] glyph.width glyphs
    else foldGlyphs width done (glyph :: piece) (filled + glyph.width) glyphs

/-- The pieces of a word, each of which fits in a line. -/
def foldWord (width : Nat) (word : List Char) : List (List Char) :=
  foldGlyphs width [] [] 0 (glyphs word)

/-- Lines that are being filled, the last one apart from those before, which stand last first. -/
structure Filling where
  done : List (List Char) := []
  line : List Char := []
  /-- How far the last line is filled. -/
  filled : Nat := 0

namespace Filling

/-- Go on in the same line. -/
def append (f : Filling) (text : List Char) : Filling :=
  { f with line := f.line ++ text, filled := f.filled + columns text }

/-- Begin a new line, unless nothing has been filled in at all. -/
def newLine (f : Filling) (text : List Char) : Filling :=
  if f.done.isEmpty && f.line.isEmpty then { f with line := text, filled := columns text }
  else { done := f.line :: f.done, line := text, filled := columns text }

/-- Fill a word in. -/
def addWord (wide : WideWords) (width : Nat) (f : Filling) (word : List Char) : Filling :=
  let size := columns (trimRight word)
  if f.filled + size ≤ width then f.append word
  else if size > width && wide == .folded then (foldWord width word).foldl newLine f
  else f.newLine word

def lines (f : Filling) : List (List Char) :=
  (f.line :: f.done).reverse

end Filling

/-- Break a line between its words. -/
def breakLine (wide : WideWords) (width : Nat) (line : List Char) : List (List Char) :=
  ((lineWords line).foldl (Filling.addWord wide width) {}).lines

/-- Leave out blanks at the end of a line that has more characters than it may have columns. -/
def dropExcessBlanks (width : Nat) (line : List Char) : List Char :=
  let trailing := line.length - (trimRight line).length
  line.take (line.length - min trailing (line.length - width))

/-- The glyphs that fit in a width; a blank stands for the part of a wide one that would fit. -/
def takeGlyphs : (width : Nat) → List Glyph → List Char
  | _, [] => []
  | 0, _ => []
  | width + 1, glyph :: glyphs =>
    if glyph.width ≤ width + 1 then
      glyph.drawn.reverse ++ takeGlyphs (width + 1 - glyph.width) glyphs
    else [' ']

/-- The beginning of a line, if it is too wide. -/
def cropped (wide : WideWords) (width : Nat) (line : List Char) : List Char :=
  if columns line ≤ width then line
  else match wide with
    | .folded => takeGlyphs width (glyphs line)
    | .cutShort => takeGlyphs (width - 1) (glyphs line) ++ ['…']

/-- The lines in which a text is laid out. -/
def wrapped (wide : WideWords) (width : Nat) (text : List Char) : List (List Char) :=
  (splitAt '\n' (laidOut text)).flatMap fun line =>
    (breakLine wide width (expandTabs line)).map fun line =>
      cropped wide width (dropExcessBlanks width line)

/-- A line filled up with blanks on its right. -/
def padded (width : Nat) (line : List Char) : List Char :=
  line ++ blanks (width - columns line)

/-- A line without blanks at its end in the middle of a width; an odd blank stands on its right. -/
def centered (width : Nat) (line : List Char) : List Char :=
  let line := trimRight line
  padded width (blanks ((width - columns line) / 2) ++ line)

end DatasetForm.Text
