import DatasetForm.Text.Wrap

/-!
Tables drawn with lines: a title above them, a heavy head, and the lines of each row. A table is as wide as its
cells ask for, but not wider than the page: the widest columns are narrowed until it fits.
-/

set_option autoImplicit false
set_option relaxedAutoImplicit false

namespace DatasetForm

/-- The columns of a page. -/
def pageWidth : Nat := 120

/-- Lines that are written at once. -/
def textOfLines (lines : List String) : String :=
  "\n".intercalate lines

/-- A text laid out on a page. -/
def pageText (text : String) : String :=
  textOfLines ((Text.wrapped .folded pageWidth text.toList).map String.ofList)

/-- A table. Each row has as many cells as there are heads. -/
structure Table where
  title : Option String := none
  heads : List String
  rows : List (List String)

namespace Table

/-- Does the character end a line when the width of a cell is measured? -/
def endsLine (c : Char) : Bool :=
  let n := c.toNat
  n == 0x0A || (0x1C ≤ n && n ≤ 0x1E) || n == 0x85 || n == 0x2028 || n == 0x2029

/-- The width that a cell asks for: that of its widest line, with a blank on both sides. -/
def cellWidth (text : String) : Nat :=
  ((Text.runs endsLine (Text.laidOut text.toList)).map Text.columns).foldl Nat.max 0 + 2

/-- The width that is left for the columns of a table on a page. -/
def widthLeft (t : Table) : Nat :=
  pageWidth - (t.heads.length + 1)

/-- The widths that columns ask for. -/
def askedWidths (t : Table) : List Nat :=
  (t.rows.foldl (fun widths row => List.zipWith Nat.max widths (row.map cellWidth))
    (t.heads.map cellWidth)).map (Nat.min · t.widthLeft)

/-- Numbers in all. -/
def total (numbers : List Nat) : Nat :=
  numbers.foldl (· + ·) 0

/-- A quotient rounded to the nearest whole number, and to an even one when two are near. -/
def roundedShare (n count : Nat) : Nat :=
  let rest := 2 * (n % count)
  if rest < count || (rest == count && n / count % 2 == 0) then n / count else n / count + 1

/-- Take an excess off the `count` columns of the greatest width, at most `most` of each. -/
def narrowWidest (widest most : Nat) : (excess count : Nat) → List Nat → List Nat
  | _, _, [] => []
  | excess, count, width :: widths =>
    if width == widest && count != 0 then
      let share := min most (roundedShare excess count)
      (width - share) :: narrowWidest widest most (excess - share) (count - 1) widths
    else width :: narrowWidest widest most excess count widths

/-- Narrow the widest columns to the next width, again and again, until the columns fit in a width. Each step
takes something off, so that the width in all is fuel enough. -/
def narrowed (most : Nat) : (fuel : Nat) → List Nat → List Nat
  | 0, widths => widths
  | fuel + 1, widths =>
    if total widths ≤ most then widths
    else
      let widest := widths.foldl Nat.max 0
      let next := (widths.filter (· != widest)).foldl Nat.max 0
      let excess := total widths - most
      narrowed most fuel
        (narrowWidest widest (min excess (widest - next)) excess (widths.count widest) widths)

/-- The widths of the columns, with a blank on both sides of each cell. -/
def widths (t : Table) : List Nat :=
  narrowed t.widthLeft (total t.askedWidths) t.askedWidths

/-- The width of a table with columns of some widths: a line stands before, between and after them. -/
def outerWidth (widths : List Nat) : Nat :=
  total widths + widths.length + 1

/-- Parts with something between them. -/
def between (separator : String) (parts : List String) : String :=
  separator.intercalate parts

/-- A line across the table. -/
def ruler (widths : List Nat) (left fill cross right : String) : String :=
  left ++ between cross (widths.map fun width => between "" (List.replicate width fill)) ++ right

/-- The lines of a cell in a column, filled up to its width. A joiner at the end of a line takes the first of
the blanks after it, which is made good for. -/
def cellLines (width : Nat) (text : String) : List (List Char) :=
  let inner := width - 2
  (Text.wrapped .cutShort inner text.toList).map fun line =>
    ' ' :: Text.padded inner (Text.padded inner line) ++ [' ']

/-- The lines of a row. Cells with fewer lines than others are filled up with empty ones. -/
def rowLines (widths : List Nat) (bar : String) (texts : List String) : List String :=
  let cells := List.zipWith (fun width text => (width, cellLines width text)) widths texts
  let height := (cells.map fun cell => cell.2.length).foldl Nat.max 1
  (List.range height).map fun i =>
    bar ++ between bar (cells.map fun (width, lines) =>
      String.ofList ((lines[i]?).getD (Text.blanks width))) ++ bar

/-- The lines of a title, each in the middle of a width. -/
def titleLines (width : Nat) (title : String) : List String :=
  (Text.wrapped .folded width title.toList).map fun line => String.ofList (Text.centered width line)

def lines (t : Table) : List String :=
  let widths := t.widths
  (t.title.map (titleLines (outerWidth widths))).getD [] ++
    [ruler widths "┏" "━" "┳" "┓"] ++ rowLines widths "┃" t.heads ++ [ruler widths "┡" "━" "╇" "┩"] ++
    t.rows.flatMap (rowLines widths "│") ++ [ruler widths "└" "─" "┴" "┘"]

/-- The table as it is written. -/
def text (t : Table) : String :=
  textOfLines t.lines

end Table

end DatasetForm
