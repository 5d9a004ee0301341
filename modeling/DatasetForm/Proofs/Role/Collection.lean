import DatasetForm.Proofs.Distinct
import DatasetForm.Proofs.Role.Kind

/-!
The labels of a collection of roles. Every list, pair, mapping or single text gives the labels of its texts that are
not blank, each once, in the place where it first appears; a list of such labels gives them again.
-/

set_option autoImplicit false
set_option relaxedAutoImplicit false

namespace DatasetForm.Role

/-- The items among which a value offers roles: a mapping offers its values, a single text offers itself. -/
inductive Offers : Value → List Value → Prop
  | list (items : List Value) : Offers (.list items) items
  | tuple (items : List Value) : Offers (.tuple items) items
  | mapping (entries : Entries) : Offers (.mapping entries) (entries.map (·.2))
  | text (name : String) : Offers (.text name) [.text name]
  | null : Offers .null []

/-- The label of an item. Items that are no texts have none, and neither have blank ones. -/
def labelIn? : Value → Option String
  | .text name => if Text.strip name = "" then none else some (labelOf name)
  | _ => none

/-! ## Each label once -/

/-- Where everything stands once, a label is added like one that is written behind all before it. -/
private theorem addLabel_eraseDups (labels : List String) (new : String) :
    addLabel labels.eraseDups new = (labels ++ [new].filter (· ≠ "")).eraseDups := by
  by_cases empty : new = ""
  · simp [addLabel, empty]
  have kept : [new].filter (· ≠ "") = [new] := by simp [empty]
  rw [kept]
  by_cases known : new ∈ labels
  · rw [eraseDups_append_singleton_of_mem known, addLabel]
    simp [known]
  · rw [eraseDups_append_singleton_of_not_mem known, addLabel]
    simp [known, empty]

private theorem foldl_addLabel (labels news : List String) :
    news.foldl addLabel labels.eraseDups = (labels ++ news.filter (· ≠ "")).eraseDups := by
  induction news generalizing labels with
  | nil => rw [List.foldl_nil, List.filter_nil, List.append_nil]
  | cons new news ih =>
    have first : (new :: news).filter (· ≠ "") = [new].filter (· ≠ "") ++ news.filter (· ≠ "") := by
      rw [← List.filter_append, List.singleton_append]
    rw [List.foldl_cons, addLabel_eraseDups, ih, first, List.append_assoc]

/-- The labels of names are those of the names in turn, without the empty one and each once. -/
theorem labelsOf_eq_eraseDups (names : List String) :
    labelsOf names = ((names.map labelOf).filter (· ≠ "")).eraseDups :=
  foldl_addLabel [] (names.map labelOf)

theorem nodup_labelsOf (names : List String) : (labelsOf names).Nodup := by
  rw [labelsOf_eq_eraseDups]
  exact nodup_eraseDups _

/-- Labels are their own labels. -/
theorem labelsOf_labelsOf (names : List String) : labelsOf (labelsOf names) = labelsOf names := by
  have own : (labelsOf names).map labelOf = labelsOf names := by
    have each : ∀ label ∈ labelsOf names, labelOf label = id label := by
      intro label member
      obtain ⟨name, -, -, rfl⟩ := mem_labelsOf.mp member
      exact labelOf_labelOf name
    rw [List.map_congr_left each, List.map_id]
  have filled : (labelsOf names).filter (· ≠ "") = labelsOf names := by
    refine List.filter_eq_self.mpr fun label member => ?_
    obtain ⟨name, -, visible, rfl⟩ := mem_labelsOf.mp member
    exact decide_eq_true (mt (labelOf_eq_empty_iff name).mp visible)
  rw [labelsOf_eq_eraseDups, own, filled, eraseDups_of_nodup (nodup_labelsOf names)]

/-! ## Collections -/

private theorem filter_labels_textsAmong (items : List Value) :
    ((textsAmong items).map labelOf).filter (· ≠ "") = items.filterMap labelIn? := by
  rw [textsAmong, List.map_filterMap, List.filter_filterMap]
  refine List.filterMap_congr fun item _ => ?_
  cases item with
  | text name =>
    by_cases blank : Text.strip name = ""
    · have empty := (labelOf_eq_empty_iff name).mpr blank
      simp [labelIn?, blank, empty]
    · have filled := mt (labelOf_eq_empty_iff name).mp blank
      simp [labelIn?, blank, filled]
  | _ => rfl

/-- Only what is offered counts. That an empty text offers itself makes no difference, since it is blank. -/
private theorem Offers.labels {v : Value} {items : List Value} (offered : Offers v items) :
    (namesIn v).map labelsOf = .ok (labelsOf (textsAmong items)) := by
  cases offered with
  | list => cases items <;> rfl
  | tuple => cases items <;> rfl
  | mapping entries => cases entries <;> rfl
  | text name =>
    by_cases empty : name = ""
    · subst empty
      rfl
    · have present : (Value.text name).isTruthy = true := by simpa [Value.isTruthy] using empty
      rw [namesIn, present]
      rfl
  | null => rfl

/-- A collection of roles has a list of labels: those of its texts that are not blank, in the order in which they first
appear and each once. None of them is blank, and they are the labels of themselves. -/
theorem labels_of_collection {v : Value} {items : List Value} (offered : Offers v items) :
    ∃ labels, (namesIn v).map labelsOf = .ok labels ∧
      labels = (items.filterMap labelIn?).eraseDups ∧
      labels.Nodup ∧ (∀ label ∈ labels, Text.strip label ≠ "") ∧
      (namesIn (valueOf labels)).map labelsOf = .ok labels := by
  refine ⟨labelsOf (textsAmong items), offered.labels, ?_, nodup_labelsOf _, ?_, ?_⟩
  · rw [labelsOf_eq_eraseDups, filter_labels_textsAmong]
  · intro label member
    obtain ⟨name, -, filled, rfl⟩ := mem_labelsOf.mp member
    rw [strip_labelOf]
    exact mt (labelOf_eq_empty_iff name).mp filled
  · rw [namesIn_valueOf]
    exact congrArg Except.ok (labelsOf_labelsOf _)

/-- A mapping with two spellings of one role, a role of no known key, a blank name and a number. -/
theorem labels_of_collection_mixed :
    let entries : Entries := [(.text "a", .text " field Technician"), (.text "b", .text "point of contact"),
      (.text "c", .int 5), (.text "d", .text " "), (.text "e", .text "Contact-Person")]
    Offers (.mapping entries) (entries.map (·.2)) ∧
      (namesIn (.mapping entries)).map labelsOf = .ok ["field Technician", "Contact Person"] ∧
      (namesIn (valueOf ["field Technician", "Contact Person"])).map labelsOf =
        .ok ["field Technician", "Contact Person"] := by
  intro entries
  have offered : Offers (.mapping entries) (entries.map (·.2)) := .mapping entries
  obtain ⟨labels, found, listed, -, -, again⟩ := labels_of_collection offered
  have known : ((entries.map (·.2)).filterMap labelIn?).eraseDups = ["field Technician", "Contact Person"] := by
    decide +kernel
  rw [listed, known] at found again
  exact ⟨offered, found, again⟩

end DatasetForm.Role
