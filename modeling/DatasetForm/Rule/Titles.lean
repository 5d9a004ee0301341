import DatasetForm.Rule.Field
import DatasetForm.Title.Siblings

/-!
The rules of title rows. Some look at the rows beside the one that is judged: they take them from the
context, so that they see the rows as they are now, or from the rows that were there when the rule was
made.
-/

set_option autoImplicit false
set_option relaxedAutoImplicit false

namespace DatasetForm

namespace Rule

/-- The rows with the title of the row at `index` replaced by the text of its current value. -/
def withCurrent (index : Int) (value : Value) (rows : List TitleRow) : List TitleRow :=
  if 0 ≤ index then
    rows.modify index.toNat fun row => { row with title := .text value.orEmpty.toText }
  else rows

/-- The rows as they are when the row at `index` is judged. -/
def currentRows (index : Int) (value context : Value) (made : List TitleRow) :
    Except Failure (List TitleRow) :=
  match context with
  | .null => .ok (withCurrent index value made)
  | context => (TitleRow.rowsOf context).map (withCurrent index value)

/-- An error if the position is among those blamed. -/
def blamed (index : Int) (complaint : Complaint) (positions : List Nat) : Option Outcome :=
  if positions.any fun position => (position : Int) == index then some (.error complaint) else none

/-- A main title must be filled in. -/
def mainRequired (isMain : Bool) : Rule :=
  plain "title_required" .null fun value =>
    if isMain && value.isBlank then some (.error .mainTitleBlank) else none

/-- A row may not repeat the title and type of an earlier one. -/
def uniqueTitle (index : Int) (made : List TitleRow) (debounce : Value) : Rule :=
  { name := .text "title_unique"
    debounce
    check := fun value context => do
      let rows ← currentRows index value context made
      let positions ← Title.repeats rows
      return blamed index .duplicateTitle positions }

/-- There may be one main title only. -/
def singleMain (index : Int) (made : List TitleRow) : Rule :=
  { name := .text "title_single_main"
    check := fun value context =>
      (currentRows index value context made).map fun rows =>
        blamed index .extraMainTitle (Title.extraMains rows) }

/-- The rules of the row at `index` beside the rows that are there now. -/
def titleRules (index : Int) (kind : Value) (rows : List TitleRow) (settings : Settings) : List Rule :=
  [mainRequired (Title.slugOf kind == TitleType.mainTitle.slug),
    maxLength "Title" settings.titleMaxLength,
    uniqueTitle index rows settings.debounceMs,
    singleMain index rows,
    nearLimit "Title" settings.titleMaxLength settings.lengthWarningRatio]

def contextOf (rows : List TitleRow) : Value :=
  .list (rows.map TitleRow.toValue)

/-- The outcome of each row beside all rows. -/
def revalidate (settings : Settings) (rows : List TitleRow) : List (Option Outcome) :=
  rows.zipIdx.map fun (row, index) =>
    evaluate (titleRules index row.kind rows settings) row.title (contextOf rows)

end Rule

end DatasetForm
