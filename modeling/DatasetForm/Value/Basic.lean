import DatasetForm.Calendar.DateTime
import DatasetForm.Number.Binary64

/-!
The values that a form or a decoded document hands in, before any of them is known to have the right
kind, and the questions every reader of them asks: their kind, whether they count as empty, whether
two are equal, and what a mapping holds under a key.
-/

set_option autoImplicit false
set_option relaxedAutoImplicit false

namespace DatasetForm

/-- A value as it was handed in. Mappings keep the order of their keys. A `titleRow` or `dateRow` is a
row made in code; its parts are whatever they were made with. -/
inductive Value
  | null
  | bool (b : Bool)
  | int (n : Int)
  | float (x : Binary64)
  | text (s : String)
  | list (items : List Value)
  | tuple (items : List Value)
  | mapping (entries : List (Value × Value))
  | date (d : Date)
  | dateTime (t : DateTime)
  | titleRow (title kind : Value)
  | dateRow (kind start stop : Value)
  deriving Repr, Inhabited

namespace Value

/-- The name of a value's kind, as messages about one value give it. -/
def kindName : Value → String
  | .null => "NoneType"
  | .bool _ => "bool"
  | .int _ => "int"
  | .float _ => "float"
  | .text _ => "str"
  | .list _ => "list"
  | .tuple _ => "tuple"
  | .mapping _ => "dict"
  | .date _ => "date"
  | .dateTime _ => "datetime"
  | .titleRow .. => "TitleEntry"
  | .dateRow .. => "DateRangeEntry"

/-- The name of a value's kind with the module it belongs to, as messages about operations give it. -/
def qualifiedKindName : Value → String
  | .date _ => "datetime.date"
  | .dateTime _ => "datetime.datetime"
  | v => v.kindName

/-- Does the value count as present? Null, false, zero and whatever is empty do not. -/
def isTruthy : Value → Bool
  | .null => false
  | .bool b => b
  | .int n => n != 0
  | .float x => !x.isZero
  | .text s => s != ""
  | .list items => !items.isEmpty
  | .tuple items => !items.isEmpty
  | .mapping entries => !entries.isEmpty
  | _ => true

/-- The value, or the empty text when it does not count as present. -/
def orEmpty (v : Value) : Value :=
  if v.isTruthy then v else .text ""

@[simp] theorem orEmpty_text (s : String) : (Value.text s).orEmpty = .text s := by
  by_cases empty : s = "" <;> simp [orEmpty, isTruthy, empty]

/-- The whole number that a number equals; truth values count as 0 and 1. -/
def wholeNumber? : Value → Option Int
  | .bool b => some (if b then 1 else 0)
  | .int n => some n
  | .float x => x.toInt?
  | _ => none

/-- How two numbers compare; nothing when one of them is no number, and no order when one is not a
number in the sense of `Binary64`. -/
def compareNumbers? : Value → Value → Option (Option Ordering)
  | .float x, .float y => some (x.compare? y)
  | .float x, v => (match v with
    | .int n => some (x.compareInt? n)
    | .bool b => some (x.compareInt? (if b then 1 else 0))
    | _ => none)
  | v, .float y => (match v with
    | .int n => some ((y.compareInt? n).map Ordering.swap)
    | .bool b => some ((y.compareInt? (if b then 1 else 0)).map Ordering.swap)
    | _ => none)
  | a, b => (match a.wholeNumber?, b.wholeNumber? with
    | some m, some n => some (some (compare m n))
    | _, _ => none)

mutual

/-- Are two values equal? Numbers are compared by value, mappings without regard to order. -/
def same : Value → Value → Bool
  | .null, .null => true
  | .text s, .text t => s == t
  | .list xs, .list ys => sameItems xs ys
  | .tuple xs, .tuple ys => sameItems xs ys
  | .mapping xs, .mapping ys => xs.length == ys.length && sameEntries xs ys
  | .date a, .date b => a == b
  | .dateTime a, .dateTime b => a.same b
  | .titleRow a b, .titleRow c d => same a c && same b d
  | .dateRow a b c, .dateRow d e f => same a d && same b e && same c f
  | a, b => compareNumbers? a b == some (some .eq)

/-- Are two lists equal item by item? -/
def sameItems : List Value → List Value → Bool
  | [], [] => true
  | x :: xs, y :: ys => same x y && sameItems xs ys
  | _, _ => false

/-- Does every entry of the first list have an equal one in the second? -/
def sameEntries : List (Value × Value) → List (Value × Value) → Bool
  | [], _ => true
  | (k, v) :: rest, ys => ys.any (fun y => same k y.1 && same v y.2) && sameEntries rest ys

end

mutual

/-- The kind of the first part that cannot be looked up in a table, if there is one: lists and mappings
can change, and so can whatever holds them. -/
def unhashable? : Value → Option String
  | .list _ => some "list"
  | .mapping _ => some "dict"
  | .tuple items => firstUnhashable? items
  | .titleRow title kind => (unhashable? title).or (unhashable? kind)
  | .dateRow kind start stop => (unhashable? kind).or ((unhashable? start).or (unhashable? stop))
  | _ => none

/-- The kind of the first part of the items that cannot be looked up. -/
def firstUnhashable? : List Value → Option String
  | [] => none
  | x :: xs => (unhashable? x).or (firstUnhashable? xs)

end

end Value

/-- The entries of a mapping, in order. -/
abbrev Entries := List (Value × Value)

namespace Entries

/-- What a mapping holds under a key. -/
def get? (entries : Entries) (key : Value) : Option Value :=
  (entries.find? fun entry => entry.1.same key).map (·.2)

/-- What a mapping holds under a text. -/
def field? (entries : Entries) (name : String) : Option Value :=
  entries.get? (.text name)

/-- Put a value under a key: in the place of the entry with an equal key, which keeps its key, or at the
end. -/
def insert (entries : Entries) (key value : Value) : Entries :=
  if entries.any (·.1.same key) then
    entries.map fun entry => if entry.1.same key then (entry.1, value) else entry
  else entries ++ [(key, value)]

/-- Take out the entries with a key. -/
def erase (entries : Entries) (key : Value) : Entries :=
  entries.filter fun entry => !entry.1.same key

/-- The mapping made by putting entries in one after the other. -/
def ofList (pairs : List (Value × Value)) : Entries :=
  pairs.foldl (fun entries pair => entries.insert pair.1 pair.2) []

end Entries

end DatasetForm
