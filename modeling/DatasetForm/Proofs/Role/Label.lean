import DatasetForm.Proofs.Value.Part
import DatasetForm.Role.Basic

/-!
Labels of roles. A role name has no label exactly when it is blank: the key of a blank name is empty, no
known role has the empty key, and no known role has the empty label. The label of a name has the key of the name.
-/

set_option autoImplicit false
set_option relaxedAutoImplicit false

namespace DatasetForm.Role

private theorem keyPart_ofNat : ∀ code ∈ Text.blankCodes, keyPart (Char.ofNat code) = [] := by
  decide +kernel

theorem keyPart_of_isBlank {c : Char} (blank : Text.isBlank c = true) : keyPart c = [] := by
  rw [← Char.ofNat_toNat c]
  exact keyPart_ofNat c.toNat (Text.mem_blankCodes blank)

theorem rawKey_of_blank {name : String} (blank : Text.strip name = "") : rawKey name = "" := by
  have trimmed : Text.trim name.toList = [] := by
    rw [← Text.toList_strip, blank]
    rfl
  have parts : name.toList.flatMap keyPart = [] := by
    rw [List.flatMap_eq_nil_iff]
    intro c member
    exact keyPart_of_isBlank (Text.trim_eq_nil_iff.mp trimmed c member)
  rw [rawKey, parts, String.ofList_nil]

private theorem ofKey?_empty : ofKey? "" = none := by
  decide

theorem label_ne_empty (role : Role) : role.label ≠ "" := by
  cases role <;> decide

theorem labelOf_eq_empty_iff (name : String) : labelOf name = "" ↔ Text.strip name = "" := by
  rw [labelOf]
  constructor
  · intro unlabelled
    split at unlabelled
    next role known => exact absurd unlabelled role.label_ne_empty
    next unknown => exact unlabelled
  · intro blank
    have unknown : ofKey? (keyOf name) = none := by
      rw [keyOf, rawKey_of_blank blank]
      exact ofKey?_empty
    rw [unknown]
    exact blank

private theorem mem_addLabel {label new : String} {labels : List String} :
    label ∈ addLabel labels new ↔ label ∈ labels ∨ label = new ∧ label ≠ "" := by
  rw [addLabel]
  split
  next left =>
    rw [or_iff_left_of_imp]
    rintro ⟨rfl, filled⟩
    simpa [filled] using left
  next kept =>
    have filled : new ≠ "" := by
      rintro rfl
      exact kept rfl
    rw [List.mem_append, List.mem_singleton]
    refine or_congr_right ⟨?_, And.left⟩
    rintro rfl
    exact ⟨rfl, filled⟩

private theorem mem_foldl_addLabel {label : String} {found labels : List String} :
    label ∈ labels.foldl addLabel found ↔ label ∈ found ∨ label ∈ labels ∧ label ≠ "" := by
  induction labels generalizing found with
  | nil => simp
  | cons first labels ih =>
    rw [List.foldl_cons, ih, mem_addLabel, List.mem_cons, or_assoc, ← or_and_right]

/-- The labels are those of the names that are not blank. -/
theorem mem_labelsOf {label : String} {names : List String} :
    label ∈ labelsOf names ↔ ∃ name ∈ names, Text.strip name ≠ "" ∧ labelOf name = label := by
  rw [labelsOf, mem_foldl_addLabel, List.mem_map]
  constructor
  · rintro (none | ⟨⟨name, member, rfl⟩, filled⟩)
    · cases none
    · exact ⟨name, member, mt (labelOf_eq_empty_iff name).mpr filled, rfl⟩
  · rintro ⟨name, member, filled, rfl⟩
    exact .inr ⟨⟨name, member, rfl⟩, mt (labelOf_eq_empty_iff name).mp filled⟩

/-- There is no label at all exactly when every name is blank. -/
theorem labelsOf_eq_nil_iff (names : List String) :
    labelsOf names = [] ↔ ∀ name ∈ names, Text.strip name = "" := by
  rw [List.eq_nil_iff_forall_not_mem]
  constructor
  · intro unlabelled name member
    by_contra filled
    exact unlabelled (labelOf name) (mem_labelsOf.mpr ⟨name, member, filled, rfl⟩)
  · intro blank label member
    obtain ⟨name, found, filled, -⟩ := mem_labelsOf.mp member
    exact filled (blank name found)

/-! ## Keys of labels -/

theorem rawKey_strip (name : String) : rawKey (Text.strip name) = rawKey name := by
  rw [rawKey, Text.toList_strip, Text.flatMap_trim fun _ => keyPart_of_isBlank, rawKey]

theorem keyOf_strip (name : String) : keyOf (Text.strip name) = keyOf name := by
  rw [keyOf, rawKey_strip, keyOf]

theorem keyOf_label (role : Role) : keyOf role.label = role.key := by
  cases role <;> decide

theorem ofKey?_key (role : Role) : ofKey? role.key = some role := by
  cases role <;> decide

theorem key_of_ofKey? {key : String} {role : Role} (known : ofKey? key = some role) : role.key = key := by
  simpa using List.find?_some known

/-- The label of a name has the key of the name. -/
theorem keyOf_labelOf (name : String) : keyOf (labelOf name) = keyOf name := by
  rw [labelOf]
  split
  next role known => rw [keyOf_label, key_of_ofKey? known]
  · exact keyOf_strip name

theorem strip_label (role : Role) : Text.strip role.label = role.label := by
  cases role <;> decide

theorem strip_labelOf (name : String) : Text.strip (labelOf name) = labelOf name := by
  rw [labelOf]
  split
  · exact strip_label _
  · rw [Text.strip, Text.toList_strip, Text.trim_trim, Text.strip]

/-- A label is the label of itself. -/
theorem labelOf_labelOf (name : String) : labelOf (labelOf name) = labelOf name := by
  cases known : ofKey? (keyOf name) with
  | some role =>
    have label : labelOf name = role.label := by rw [labelOf, known]
    rw [labelOf, keyOf_labelOf, known, label]
  | none =>
    rw [labelOf, keyOf_labelOf, known]
    exact strip_labelOf name

end DatasetForm.Role
