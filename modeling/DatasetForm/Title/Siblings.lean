import DatasetForm.Complaint
import DatasetForm.Title.Key
import DatasetForm.Title.Row

/-!
Checks of title rows against each other. The first of several equal rows is never blamed; each later one
is, at its own position.
-/

set_option autoImplicit false
set_option relaxedAutoImplicit false

namespace DatasetForm

namespace Title

/-- What rows are compared by: the key of the title and the type of the row. -/
abbrev Signature := String × Value

/-- Do two signatures agree? -/
def Signature.same (a b : Signature) : Bool :=
  a.1 == b.1 && a.2.same b.2

/-- The signature of a row; a blank title has none, so that it repeats nothing. -/
def signature? (row : TitleRow) : Except Failure (Option Signature) :=
  match keyOf row.title with
  | .error failure => .error failure
  | .ok key =>
    if key == "" then .ok none
    else row.kind.checkHashable.map fun _ => some (key, row.kind)

/-- The positions, from `index` on, of rows whose signature was seen before. -/
def repeatsAfter (seen : List Signature) (index : Nat) : List TitleRow → Except Failure (List Nat)
  | [] => .ok []
  | row :: rows =>
    match signature? row with
    | .error failure => .error failure
    | .ok none => repeatsAfter seen (index + 1) rows
    | .ok (some s) =>
      if seen.any s.same then (repeatsAfter seen (index + 1) rows).map (index :: ·)
      else repeatsAfter (seen ++ [s]) (index + 1) rows

/-- The positions of rows that repeat the title and type of an earlier one. -/
def repeats (rows : List TitleRow) : Except Failure (List Nat) :=
  repeatsAfter [] 0 rows

/-- What comparing rows finds: whether no row repeats another, and the complaint at each position that does. -/
structure Uniqueness where
  isValid : Bool
  complaints : List (Nat × Complaint)

/-- Look for rows that repeat an earlier one. -/
def uniqueness (rows : List TitleRow) : Except Failure Uniqueness :=
  (repeats rows).map fun positions =>
    { isValid := positions.isEmpty
      complaints := positions.map fun position => (position, .duplicateTitle) }

/-- The positions, from `index` on, of rows that are main titles while there already was one. -/
def extraMainsAfter (found : Bool) (index : Nat) : List TitleRow → List Nat
  | [] => []
  | row :: rows =>
    if !row.isMain then extraMainsAfter found (index + 1) rows
    else if found then index :: extraMainsAfter true (index + 1) rows
    else extraMainsAfter true (index + 1) rows

/-- The positions of all main titles after the first. -/
def extraMains (rows : List TitleRow) : List Nat :=
  extraMainsAfter false 0 rows

/-- The complaint at each main title after the first. -/
def mainComplaints (rows : List TitleRow) : List (Nat × Complaint) :=
  (extraMains rows).map fun position => (position, .extraMainTitle)

/-- May another row be added? There must be a row, fewer than the most there may be, and the last one must
be filled in. -/
def mayAdd (rows : List TitleRow) (most : Value) : Except Failure Bool :=
  match rows.getLast? with
  | none => .ok false
  | some row =>
    match (Value.int rows.length).compares .less most with
    | .error failure => .error failure
    | .ok false => .ok false
    | .ok true =>
      match row.title with
      | .text s => .ok (Text.strip s != "")
      | other => .error (.noOperation other.qualifiedKindName "strip")

end Title

end DatasetForm
