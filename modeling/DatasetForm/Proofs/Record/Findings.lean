import DatasetForm.Proofs.Rule.Evaluate
import DatasetForm.Record.Report
import Mathlib.Data.List.Nodup

/-!
The findings of a report: when none of them is an error, and which fields they are about. Each field of a
record has its own id, and the text of an id tells which one it is, so that no finding hides another.
-/

set_option autoImplicit false
set_option relaxedAutoImplicit false

namespace DatasetForm

namespace FieldId

private theorem index_injective {index other : Nat}
    (digits : Nat.toDigits 10 index = Nat.toDigits 10 other) : index = other := by
  rw [← Nat.ofDigitChars_ten_toDigits (n := index), digits, Nat.ofDigitChars_ten_toDigits]

/-- What is wrong with the roles of a contributor never stands where its identifier is spoken of. -/
private theorem roles_ne_orcid {digits others : List Char}
    (same : digits ++ ['.', 'r', 'o', 'l', 'e', 's'] = others ++ ['.', 'o', 'r', 'c', 'i', 'd']) :
    False := by
  have ends := (List.append_inj' same rfl).2
  cases ends

theorem text_injective : Function.Injective FieldId.text := by
  intro a b same
  have chars := congrArg String.toList same
  -- all pairs but these differ before the first position
  cases a <;> cases b <;> simp [text, toString] at chars ⊢
  case title.title => exact index_injective chars
  case date.date => exact index_injective chars
  case roles.roles => exact index_injective chars
  case roles.orcid => exact roles_ne_orcid chars
  case orcid.roles => exact roles_ne_orcid chars.symm
  case orcid.orcid => exact index_injective chars

end FieldId

/-- The ids of the fields of a record with so many titles, dates and contributors, in order. -/
def fieldIds (titles dates contributors : Nat) : List FieldId :=
  [.titles] ++ (List.range titles).flatMap (fun index => [.title index]) ++
    [.publicationYear, .version, .doi, .abstract, .url, .dates] ++
    (List.range dates).flatMap (fun index => [.date index]) ++
    (List.range contributors).flatMap fun index => [.roles index, .orcid index]

theorem nodup_fieldIds (titles dates contributors : Nat) : (fieldIds titles dates contributors).Nodup := by
  have ofTitles : ((List.range titles).flatMap fun index => [FieldId.title index]).Nodup := by
    rw [← List.map_eq_flatMap]
    exact List.nodup_range.map fun _ _ same => FieldId.title.inj same
  have ofDates : ((List.range dates).flatMap fun index => [FieldId.date index]).Nodup := by
    rw [← List.map_eq_flatMap]
    exact List.nodup_range.map fun _ _ same => FieldId.date.inj same
  have ofContributors :
      ((List.range contributors).flatMap fun index => [FieldId.roles index, .orcid index]).Nodup := by
    rw [List.nodup_flatMap]
    refine ⟨fun index _ => by simp, List.nodup_range.imp fun {index other} distinct => ?_⟩
    simp [List.disjoint_left, distinct]
  simp only [fieldIds, List.nodup_append, ofTitles, ofDates, ofContributors, List.forall_mem_append,
    List.forall_mem_flatMap]
  simp

/-- Findings on the fields of a record, in order, can be told apart by the texts of the ids. -/
theorem nodup_texts {findings : List Finding} {titles dates contributors : Nat}
    (within : (findings.map Prod.fst).Sublist (fieldIds titles dates contributors)) :
    (findings.map fun finding => finding.1.text).Nodup := by
  have distinct : ((findings.map Prod.fst).map FieldId.text).Nodup :=
    ((nodup_fieldIds titles dates contributors).sublist within).map FieldId.text_injective
  rwa [List.map_map] at distinct

/-- No finding is an error. -/
def Passes (findings : List Finding) : Prop :=
  ∀ finding ∈ findings, finding.2.blocks = false

theorem Report.hasErrors_eq_false_iff (report : Report) :
    report.hasErrors = false ↔ Passes report.findings := by
  simp [hasErrors, errors, ofSeverity, Passes, Outcome.blocks]

@[simp] theorem passes_append (findings others : List Finding) :
    Passes (findings ++ others) ↔ Passes findings ∧ Passes others :=
  List.forall_mem_append

namespace Record

@[simp] theorem passes_finding (field : FieldId) (outcome : Option Outcome) :
    Passes (finding field outcome) ↔ Outcome.isBlocking outcome = false := by
  cases outcome <;> simp [Passes, finding, Outcome.isBlocking]

theorem passes_indexed {α : Type} (find : α × Nat → List Finding) (items : List α) :
    Passes (items.zipIdx.map find).flatten ↔
      ∀ index item, items[index]? = some item → Passes (find (item, index)) := by
  simp only [Passes, List.mem_flatten, List.mem_map]
  constructor
  · intro pass index item found finding member
    exact pass finding ⟨_, ⟨(item, index), List.mem_zipIdx_iff_getElem?.mpr found, rfl⟩, member⟩
  · rintro pass finding ⟨_, ⟨⟨item, index⟩, found, rfl⟩, member⟩
    exact pass index item (List.mem_zipIdx_iff_getElem?.mp found) finding member

theorem fields_finding (field : FieldId) (outcome : Option Outcome) :
    ((finding field outcome).map Prod.fst).Sublist [field] := by
  cases outcome <;> simp [finding]

/-- What is found in each of several items is about the fields of its own. -/
theorem fields_indexed {α : Type} {find : α × Nat → List Finding} {fields : Nat → List FieldId}
    (within : ∀ item index, ((find (item, index)).map Prod.fst).Sublist (fields index)) (items : List α)
    (start : Nat) :
    (((items.zipIdx start).map find).flatten.map Prod.fst).Sublist
      ((List.range' start items.length).flatMap fields) := by
  induction items generalizing start with
  | nil => simp
  | cons item items ih =>
    rw [List.zipIdx_cons, List.map_cons, List.flatten_cons, List.map_append, List.length_cons,
      List.range'_succ, List.flatMap_cons]
    exact (within item start).append (ih (start + 1))

end Record

end DatasetForm
