import DatasetForm.Failure

/-!
Operations on values that not every kind has: comparing, counting, going through items, multiplying by
a number, and taking the blanks off a text.
-/

set_option autoImplicit false
set_option relaxedAutoImplicit false

namespace DatasetForm

namespace Value

/-- Compare two values: numbers with numbers, texts with texts. Nothing holds of what is not a number. -/
def compares (comparison : Comparison) (a b : Value) : Except Failure Bool :=
  match compareNumbers? a b with
  | some (some order) => .ok (comparison.holds order)
  | some none => .ok false
  | none =>
    match a, b with
    | .text s, .text t => .ok (comparison.holds (compare s t))
    | _, _ => .error (.notComparable comparison a.qualifiedKindName b.qualifiedKindName)

/-- The items of a value: those of a list or tuple, the keys of a mapping, the characters of a text. -/
def items : Value → Except Failure (List Value)
  | .list items => .ok items
  | .tuple items => .ok items
  | .mapping entries => .ok (entries.map (·.1))
  | .text s => .ok (s.toList.map fun c => .text (String.singleton c))
  | v => .error (.notIterable v.qualifiedKindName)

/-- The items of a value that may be missing. -/
def itemsOrNone (v : Value) : Except Failure (List Value) :=
  if v.isTruthy then v.items else .ok []

/-- The number of items. -/
def size (v : Value) : Except Failure Nat :=
  match v.items with
  | .ok items => .ok items.length
  | .error _ => .error (.noLength v.qualifiedKindName)

/-- The last item of a list, tuple or text; a mapping is asked for the key -1. -/
def last (v : Value) : Except Failure Value :=
  match v with
  | .mapping entries =>
    match Entries.get? entries (.int (-1)) with
    | some value => .ok value
    | none => .error (.missingKey (.int (-1)))
  | v =>
    match v.items with
    | .ok items => .ok (items.getLast?.getD .null)
    | .error _ => .error (.notIndexable v.qualifiedKindName)

/-- The text of a value that has to be a text, or the empty text when the value is missing. -/
def textOrEmpty (operation : String) (v : Value) : Except Failure String :=
  match v.orEmpty with
  | .text s => .ok s
  | other => .error (.noOperation other.qualifiedKindName operation)

/-- The text of a value that has to be a text, without blanks at its ends. -/
def stripped (v : Value) : Except Failure String :=
  (v.textOrEmpty "strip").map Text.strip

/-- Check that a value can be looked up in a table. -/
def checkHashable (v : Value) : Except Failure Unit :=
  match v.unhashable? with
  | none => .ok ()
  | some kind => .error (.unhashable kind)

/-- The binary number nearest to a whole number. -/
def toBinary (n : Int) : Except Failure Binary64 :=
  match Binary64.ofInt? n with
  | some x => .ok x
  | none => .error .tooLargeForBinary

/-- Items repeated a number of times, none for a negative number. -/
def repeated {α : Type} (items : List α) (n : Int) : List α :=
  (List.replicate n.toNat items).flatten

/-- A value other than a number times a number: texts, lists and tuples are repeated. -/
def repeatedBy (v factor : Value) : Except Failure Value :=
  match factor with
  | .float _ =>
    match v with
    | .text _ | .list _ | .tuple _ => .error (.notRepeated factor.kindName)
    | _ => .error (.notMultiplied v.qualifiedKindName factor.qualifiedKindName)
  | _ =>
    match factor.wholeNumber?, v with
    | some n, .text s => .ok (.text (String.ofList (repeated s.toList n)))
    | some n, .list items => .ok (.list (repeated items n))
    | some n, .tuple items => .ok (.tuple (repeated items n))
    | _, _ => .error (.notMultiplied v.qualifiedKindName factor.qualifiedKindName)

/-- The product of a value and a number. A whole number times a binary one is first made the nearest
binary number. -/
def times (v factor : Value) : Except Failure Value :=
  match v, factor with
  | .float x, .float y => .ok (.float (x.mul y))
  | .float x, other =>
    match other.wholeNumber? with
    | some n => (toBinary n).map fun y => .float (x.mul y)
    | none => .error (.notMultiplied v.qualifiedKindName other.qualifiedKindName)
  | other, .float y =>
    match other with
    | .int n => (toBinary n).map fun x => .float (x.mul y)
    | .bool b => (toBinary (if b then 1 else 0)).map fun x => .float (x.mul y)
    | _ => repeatedBy other (.float y)
  | a, b =>
    match a.wholeNumber?, b.wholeNumber? with
    | some m, some n => .ok (.int (m * n))
    | _, _ => repeatedBy a b

end Value

end DatasetForm
