import DatasetForm.Text.Case
import DatasetForm.Text.Runs
import DatasetForm.Value.Text

/-!
Keys written as `titleType` or `TitleType` and keys written as `title_type` are the same keys. Readers of
mappings first rewrite all keys, at every depth, to the form with underscores.
-/

set_option autoImplicit false
set_option relaxedAutoImplicit false

namespace DatasetForm

namespace Value

/-- A key in lower case, with an underscore where a capital followed a small letter or digit. -/
def snakeCase (key : String) : String :=
  Text.lower (String.ofList (Text.breakCamel '_' key.toList))

mutual

/-- Rewrite the keys of all mappings in a value. Tuples become lists. Of entries whose keys become equal
the last value stays, in the place of the first. -/
def snakeKeys : Value → Value
  | .mapping entries => .mapping (Entries.ofList (snakeEntries entries))
  | .list items => .list (snakeItems items)
  | .tuple items => .list (snakeItems items)
  | v => v

/-- Rewrite the keys in each item. -/
def snakeItems : List Value → List Value
  | [] => []
  | v :: rest => snakeKeys v :: snakeItems rest

/-- Rewrite the keys of entries and the keys in their values. -/
def snakeEntries : List (Value × Value) → List (Value × Value)
  | [] => []
  | (k, v) :: rest => (.text (snakeCase k.toText), snakeKeys v) :: snakeEntries rest

end

mutual

/-- How deep lists, tuples and mappings are nested in a value. -/
def depth : Value → Nat
  | .mapping entries => depthUnder entries + 1
  | .list items => depthIn items + 1
  | .tuple items => depthIn items + 1
  | _ => 0

/-- How deep the items are nested. -/
def depthIn : List Value → Nat
  | [] => 0
  | v :: rest => Nat.max (depth v) (depthIn rest)

/-- How deep the values of entries are nested. -/
def depthUnder : List (Value × Value) → Nat
  | [] => 0
  | (_, v) :: rest => Nat.max (depth v) (depthUnder rest)

end

/-- The deepest nesting in which keys are rewritten. -/
def depthLimit : Nat := 490

/-- The entries of a value as a mapping with rewritten keys, if it is a mapping. -/
def snakeFields? : Value → Option Entries
  | .mapping entries => some (Entries.ofList (snakeEntries entries))
  | _ => none

end Value

end DatasetForm
