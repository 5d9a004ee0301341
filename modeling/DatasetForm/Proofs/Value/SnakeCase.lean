import DatasetForm.Proofs.Text.Case
import DatasetForm.Proofs.Text.Runs
import DatasetForm.Proofs.Value.Mapping
import DatasetForm.Value.SnakeCase

/-!
Rewriting the keys of a value twice is rewriting them once. It nests nothing deeper, and readers of the fields of a
mapping see the same fields whether its keys were rewritten before or not.
-/

set_option autoImplicit false
set_option relaxedAutoImplicit false

namespace DatasetForm

namespace Value

/-- A rewritten key is its own rewriting: no capital is left in it that would follow a small letter. -/
theorem snakeCase_snakeCase (key : String) : snakeCase (snakeCase key) = snakeCase key := by
  have unbroken : Text.breakCamel '_' (snakeCase key).toList = (snakeCase key).toList :=
    Text.breakCamel_eq_self '_' fun _ member => (Text.isLower_of_mem_lower member).isCapital
  rw [snakeCase, unbroken, String.ofList_toList]
  exact Text.lower_lower _

/-! ## All keys of a value -/

theorem snakeEntries_eq_map (entries : List (Value × Value)) :
    snakeEntries entries = entries.map fun entry => (.text (snakeCase entry.1.toText), snakeKeys entry.2) := by
  induction entries with
  | nil => rfl
  | cons entry entries ih => rw [snakeEntries, ih, List.map_cons]

/-- A key as the rewriting of keys leaves it. -/
def IsSnake (key : Value) : Prop :=
  ∃ s, key = .text s ∧ snakeCase s = s

theorem isObject_snakeEntries (entries : List (Value × Value)) :
    (Entries.ofList (snakeEntries entries)).IsObject := by
  apply Entries.isObject_ofList
  rw [snakeEntries_eq_map, List.forall_mem_map]
  exact fun entry _ => ⟨_, rfl⟩

/-- Entries with rewritten keys, whose values have rewritten keys, stay as they are. -/
theorem snakeEntries_eq_self {entries : List (Value × Value)} (keys : ∀ entry ∈ entries, IsSnake entry.1)
    (values : ∀ entry ∈ entries, snakeKeys entry.2 = entry.2) : snakeEntries entries = entries := by
  rw [snakeEntries_eq_map]
  conv_rhs => rw [← List.map_id entries]
  refine List.map_congr_left fun entry member => ?_
  obtain ⟨s, key, same⟩ := keys entry member
  rw [key, toText, same, values entry member, ← key]
  rfl

mutual

/-- Rewriting the keys of a value twice is rewriting them once. -/
theorem snakeKeys_snakeKeys : (v : Value) → v.snakeKeys.snakeKeys = v.snakeKeys
  | .mapping entries => by
    have rewritten (entry) (member : entry ∈ Entries.ofList (snakeEntries entries)) :
        IsSnake entry.1 ∧ snakeKeys entry.2 = entry.2 := by
      obtain ⟨⟨pair, found, key⟩, other, found', value⟩ := Entries.mem_ofList member
      exact ⟨key ▸ (snakeEntries_rewritten entries pair found).1,
        value ▸ (snakeEntries_rewritten entries other found').2⟩
    rw [snakeKeys, snakeKeys, snakeEntries_eq_self (fun entry member => (rewritten entry member).1)
      (fun entry member => (rewritten entry member).2), Entries.ofList_eq_self (isObject_snakeEntries entries)]
  | .list items => by rw [snakeKeys, snakeKeys, snakeItems_snakeItems items]
  | .tuple items => by rw [snakeKeys, snakeKeys, snakeItems_snakeItems items]
  | .null | .bool _ | .int _ | .float _ | .text _ | .date _ | .dateTime _ | .titleRow .. | .dateRow .. => by
    simp only [snakeKeys]

theorem snakeItems_snakeItems : (items : List Value) → snakeItems (snakeItems items) = snakeItems items
  | [] => rfl
  | v :: rest => by rw [snakeItems, snakeItems, snakeKeys_snakeKeys v, snakeItems_snakeItems rest]

theorem snakeEntries_rewritten : (entries : List (Value × Value)) →
    ∀ pair ∈ snakeEntries entries, IsSnake pair.1 ∧ snakeKeys pair.2 = pair.2
  | [] => nofun
  | (key, v) :: rest => by
    rw [snakeEntries, List.forall_mem_cons]
    exact ⟨⟨⟨_, rfl, snakeCase_snakeCase _⟩, snakeKeys_snakeKeys v⟩, snakeEntries_rewritten rest⟩

end

/-! ## How deep values are nested -/

theorem depthUnder_le_iff {entries : List (Value × Value)} {n : Nat} :
    depthUnder entries ≤ n ↔ ∀ entry ∈ entries, depth entry.2 ≤ n := by
  induction entries with
  | nil => simp [depthUnder]
  | cons entry entries ih => rw [depthUnder, Nat.max_le, ih, List.forall_mem_cons]

mutual

/-- Rewriting keys nests nothing deeper. -/
theorem depth_snakeKeys_le : (v : Value) → v.snakeKeys.depth ≤ v.depth
  | .mapping entries => by
    rw [snakeKeys, depth, depth, Nat.add_le_add_iff_right, depthUnder_le_iff]
    intro entry member
    obtain ⟨-, pair, found, value⟩ := Entries.mem_ofList member
    exact value ▸ depth_snakeEntries_le entries pair found
  | .list items => by
    rw [snakeKeys, depth, depth, Nat.add_le_add_iff_right]
    exact depthIn_snakeItems_le items
  | .tuple items => by
    rw [snakeKeys, depth, depth, Nat.add_le_add_iff_right]
    exact depthIn_snakeItems_le items
  | .null | .bool _ | .int _ | .float _ | .text _ | .date _ | .dateTime _ | .titleRow .. | .dateRow .. => by
    exact Nat.le_of_eq (by simp only [snakeKeys])

theorem depthIn_snakeItems_le : (items : List Value) → depthIn (snakeItems items) ≤ depthIn items
  | [] => Nat.le_refl _
  | v :: rest => by
    rw [snakeItems, depthIn, depthIn, Nat.max_le]
    exact ⟨Nat.le_trans (depth_snakeKeys_le v) (Nat.le_max_left _ _),
      Nat.le_trans (depthIn_snakeItems_le rest) (Nat.le_max_right _ _)⟩

theorem depth_snakeEntries_le : (entries : List (Value × Value)) →
    ∀ pair ∈ snakeEntries entries, depth pair.2 ≤ depthUnder entries
  | [] => nofun
  | (key, v) :: rest => by
    rw [snakeEntries, depthUnder, List.forall_mem_cons]
    exact ⟨Nat.le_trans (depth_snakeKeys_le v) (Nat.le_max_left _ _), fun pair member =>
      Nat.le_trans (depth_snakeEntries_le rest pair member) (Nat.le_max_right _ _)⟩

end

/-- The entries that a reader of a rewritten document sees are those that it sees of the document. -/
theorem snakeFields?_snakeKeys (v : Value) : v.snakeKeys.snakeFields? = v.snakeFields? := by
  cases v with
  | mapping entries =>
    have twice := snakeKeys_snakeKeys (.mapping entries)
    simp only [snakeKeys, mapping.injEq] at twice
    rw [snakeKeys, snakeFields?, snakeFields?, twice]
  | _ => simp only [snakeKeys, snakeFields?]

end Value

end DatasetForm
