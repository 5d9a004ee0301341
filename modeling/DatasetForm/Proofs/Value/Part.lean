import DatasetForm.Dates.Row
import DatasetForm.Proofs.Text.Trim
import DatasetForm.Record.Report
import Mathlib.Data.List.Forall2

/-!
Parts of rows and records: texts that may be missing, and what readers of values make of them.
-/

set_option autoImplicit false
set_option relaxedAutoImplicit false

namespace DatasetForm

/-- Reading all items gives what reading each of them gives. -/
theorem mapM_eq_ok_iff {α β : Type} {read : α → Except Failure β} {items : List α} {results : List β} :
    items.mapM read = .ok results ↔ List.Forall₂ (fun item result => read item = .ok result) items results := by
  induction items generalizing results with
  | nil =>
    rw [List.mapM_nil, List.forall₂_nil_left_iff]
    exact ⟨fun same => (Except.ok.inj same).symm, fun none => none ▸ rfl⟩
  | cons item items ih =>
    rw [List.mapM_cons, List.forall₂_cons_left_iff]
    simp only [← ih]
    cases first : read item with
    | error failure =>
      constructor
      · intro same
        cases same
      · rintro ⟨result, others, same, -⟩
        cases same
    | ok result =>
      cases rest : items.mapM read with
      | error failure =>
        constructor
        · intro same
          cases same
        · rintro ⟨_, _, _, same, -⟩
          cases same
      | ok others =>
        constructor
        · intro same
          exact ⟨result, others, rfl, rfl, (Except.ok.inj same).symm⟩
        · rintro ⟨_, _, first', rest', rfl⟩
          rw [← Except.ok.inj first', ← Except.ok.inj rest']
          rfl

theorem textOrEmpty_text (text operation : String) : (Value.text text).textOrEmpty operation = .ok text := by
  rw [Value.textOrEmpty, Value.orEmpty_text]

/-- The text of a part that may be missing, without blanks at its ends. -/
def trimmedPart (part : Option String) : String :=
  Text.strip (part.getD "")

@[simp] theorem Text.toList_strip (s : String) : (Text.strip s).toList = Text.trim s.toList :=
  String.toList_ofList

theorem toList_trimmedText (text : String) : (Value.text text).trimmedText.toList = Text.trim text.toList :=
  Text.toList_strip text

theorem isBlank_text_iff (text : String) : (Value.text text).isBlank = true ↔ Text.trim text.toList = [] := by
  rw [Value.isBlank, beq_iff_eq, ← String.toList_inj, toList_trimmedText]
  rfl

@[simp] theorem DateToken.parse_strip (token : String) :
    DateToken.parse (Text.strip token) = DateToken.parse token := by
  rw [DateToken.parse, Text.toList_strip, Text.trim_trim, DateToken.parse]

theorem Record.textValue_eq (part : Option String) : Record.textValue part = DateRow.partValue part := by
  cases part <;> rfl

namespace DateRow

@[simp] theorem trimmedText_partValue (part : Option String) :
    (partValue part).trimmedText = trimmedPart part := by
  cases part <;> rfl

@[simp] theorem isBlank_partValue (part : Option String) :
    (partValue part).isBlank = (trimmedPart part == "") := by
  rw [Value.isBlank, trimmedText_partValue]

@[simp] theorem textOrEmpty_partValue (part : Option String) (operation : String) :
    (partValue part).textOrEmpty operation = .ok (part.getD "") := by
  cases part with
  | none => rfl
  | some s => exact textOrEmpty_text s operation

@[simp] theorem stripped_partValue (part : Option String) :
    (partValue part).stripped = .ok (trimmedPart part) := by
  rw [Value.stripped, textOrEmpty_partValue]
  rfl

@[simp] theorem ofValue_toValue (row : DateRow) : ofValue row.toValue = .ok row := rfl

end DateRow

@[simp] theorem DateRange.start_row (range : DateRange) :
    range.row.start = DateRow.partValue range.start := rfl

@[simp] theorem DateRange.stop_row (range : DateRange) :
    range.row.stop = DateRow.partValue range.stop := rfl

end DatasetForm
