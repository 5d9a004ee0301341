import DatasetForm.Proofs.Text.Half
import DatasetForm.Proofs.Value.SnakeCase

/-!
Values without halves of surrogate pairs in their texts and keys. Rewriting keys keeps them so.
-/

set_option autoImplicit false
set_option relaxedAutoImplicit false

namespace DatasetForm

namespace Value

mutual

/-- No text or key in the value holds a half of a surrogate pair. -/
def IsWhole : Value → Prop
  | .text s => Text.IsWhole s
  | .list items => AreWhole items
  | .tuple items => AreWhole items
  | .mapping entries => HasWholeEntries entries
  | _ => True

def AreWhole : List Value → Prop
  | [] => True
  | v :: rest => IsWhole v ∧ AreWhole rest

def HasWholeEntries : List (Value × Value) → Prop
  | [] => True
  | (k, v) :: rest => Text.IsWhole k.toText ∧ IsWhole v ∧ HasWholeEntries rest

end

theorem areWhole_iff {items : List Value} : AreWhole items ↔ ∀ v ∈ items, v.IsWhole := by
  induction items with
  | nil => simp [AreWhole]
  | cons v items ih => rw [AreWhole, ih, List.forall_mem_cons]

theorem hasWholeEntries_iff {entries : List (Value × Value)} :
    HasWholeEntries entries ↔ ∀ entry ∈ entries, Text.IsWhole entry.1.toText ∧ entry.2.IsWhole := by
  induction entries with
  | nil => simp [HasWholeEntries]
  | cons entry entries ih => rw [HasWholeEntries, ih, List.forall_mem_cons, and_assoc]

theorem isWhole_snakeCase {key : String} (whole : Text.IsWhole key) : Text.IsWhole (snakeCase key) := by
  intro c member
  rcases Text.mem_or_lt_of_mem_lower member with broken | near
  · rw [String.toList_ofList] at broken
    rcases Text.mem_breakCamel broken with rfl | inKey
    · decide
    · exact whole c inKey
  · exact Text.isHalf_of_lt (Nat.lt_trans near (by decide))

theorem hasWholeEntries_ofList {pairs : List (Value × Value)} (whole : HasWholeEntries pairs) :
    HasWholeEntries (Entries.ofList pairs) := by
  rw [hasWholeEntries_iff] at whole ⊢
  intro entry member
  obtain ⟨⟨pair, found, key⟩, other, found', value⟩ := Entries.mem_ofList member
  rw [← key, ← value]
  exact ⟨(whole pair found).1, (whole other found').2⟩

mutual

theorem isWhole_snakeKeys : (v : Value) → v.IsWhole → v.snakeKeys.IsWhole
  | .mapping entries, whole => hasWholeEntries_ofList (hasWholeEntries_snakeEntries entries whole)
  | .list items, whole => areWhole_snakeItems items whole
  | .tuple items, whole => areWhole_snakeItems items whole
  | .text _, whole => whole
  | .null, _ | .bool _, _ | .int _, _ | .float _, _ | .date _, _ | .dateTime _, _ | .titleRow _ _, _
  | .dateRow _ _ _, _ => trivial

theorem areWhole_snakeItems : (items : List Value) → AreWhole items → AreWhole (snakeItems items)
  | [], _ => trivial
  | v :: rest, whole => ⟨isWhole_snakeKeys v whole.1, areWhole_snakeItems rest whole.2⟩

theorem hasWholeEntries_snakeEntries : (entries : List (Value × Value)) → HasWholeEntries entries →
    HasWholeEntries (snakeEntries entries)
  | [], _ => trivial
  | (_, v) :: rest, whole =>
    ⟨isWhole_snakeCase whole.1, isWhole_snakeKeys v whole.2.1, hasWholeEntries_snakeEntries rest whole.2.2⟩

end

end Value

end DatasetForm
