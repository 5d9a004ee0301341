import DatasetForm.Proofs.Json.Written
import DatasetForm.Proofs.Record.Wording
import DatasetForm.Proofs.Table
import DatasetForm.Record.Display

/-!
What is shown of a report: the value that its JSON is read back as, and that all of it can be written.
-/

set_option autoImplicit false
set_option relaxedAutoImplicit false

namespace DatasetForm

open Text (IsWhole Consists)

namespace Report

/-- The fields that a report lists with their severities, in order. -/
def listing (r : Report) : List (String × String) :=
  r.findings.map fun (field, outcome) => (field.text, outcome.severity.word)

/-- What the JSON of a report stands for. -/
def value (r : Report) (path : String) (valid : Bool) : Value :=
  .mapping [(.text "record", .text path), (.text "valid", .bool valid),
    (.text "outcomes", .mapping (r.findings.map fun (field, outcome) =>
      (.text field.text, .mapping [(.text "severity", .text outcome.severity.word),
        (.text "message", .text outcome.message)])))]

variable {r : Report} {path : String}

private theorem toEntries_findings (findings : List Finding) :
    JsonTree.toEntries (findings.map fun (field, outcome) => (field.text, outcome.json)) =
      findings.map fun (field, outcome) => (.text field.text, outcome.json.toValue) := by
  induction findings with
  | nil => rfl
  | cons found findings ih => rw [List.map_cons, JsonTree.toEntries, ih, List.map_cons]

private theorem toValue_outcome (outcome : Outcome) :
    outcome.json.toValue = .mapping [(.text "severity", .text outcome.severity.word),
      (.text "message", .text outcome.message)] := by
  rw [Outcome.json]
  rfl

/-- No two findings are about the same field, so that reading the JSON loses none of them. -/
theorem toValue_json (distinct : (r.findings.map fun found => found.1.text).Nodup) :
    (r.json path).toValue = r.value path (!r.hasErrors) := by
  have object : Entries.IsObject (r.findings.map fun (field, outcome) => (.text field.text, outcome.json.toValue)) := by
    constructor
    · rw [List.forall_mem_map]
      exact fun found _ => ⟨_, rfl⟩
    · have keys := distinct.map (f := Value.text) fun _ _ => Value.text.inj
      rwa [List.map_map] at keys ⊢
  have outcomes : (JsonTree.object (r.findings.map fun (field, outcome) => (field.text, outcome.json))).toValue =
      .mapping (r.findings.map fun (field, outcome) => (.text field.text, outcome.json.toValue)) := by
    rw [JsonTree.toValue, toEntries_findings, Entries.ofList_eq_self object]
  simp only [toValue_outcome] at outcomes
  rw [json, JsonTree.toValue, value]
  simp only [JsonTree.toEntries, outcomes]
  rfl

private theorem nesting_json (r : Report) (path : String) : (r.json path).nesting ≤ 3 := by
  have outcomes : JsonTree.nestingOf (r.findings.map fun (field, outcome) => (field.text, outcome.json)) ≤ 1 := by
    induction r.findings with
    | nil => exact Nat.zero_le 1
    | cons found findings ih =>
      rw [List.map_cons, JsonTree.nestingOf]
      exact Nat.max_le.mpr ⟨Nat.le_refl 1, ih⟩
  have nothing (n : Nat) : 0 ≤ n := Nat.zero_le n
  exact Nat.succ_le_succ (Nat.max_le.mpr ⟨nothing 2, Nat.max_le.mpr ⟨nothing 2, Nat.max_le.mpr
    ⟨Nat.succ_le_succ outcomes, nothing 2⟩⟩⟩)

/-! ## What can be written -/

private theorem isWhole_text (field : FieldId) : IsWhole field.text := by
  cases field with
  | title index => exact .append (by decide) (Text.isWhole_repr index)
  | date index => exact .append (by decide) (Text.isWhole_repr index)
  | roles index => exact .append (.append (by decide) (Text.isWhole_repr index)) (by decide)
  | orcid index => exact .append (.append (by decide) (Text.isWhole_repr index)) (by decide)
  | _ => decide

private theorem isWhole_word (severity : Severity) : IsWhole severity.word := by
  cases severity <;> decide

private theorem drawing_whole : ∀ c ∈ drawingChars, Text.isHalf c = false := by
  decide

/-- Nothing that a report is shown as keeps it from being written. -/
theorem isWhole_texts {name : String} (named : IsWhole name)
    (messages : ∀ found ∈ r.findings, IsWhole found.2.message) : ∀ text ∈ r.texts name, IsWhole text := by
  rw [texts]
  split
  · rw [List.forall_mem_singleton]
    have line : IsWhole s!"✓ {name}: no issues found" := .append (.append (by decide) named) (by decide)
    exact consists_pageText drawing_whole line
  · have title : IsWhole s!"Validation results for {name}" := .append (by decide) named
    have heads : ∀ head ∈ ["Field", "Severity", "Message"], IsWhole head := by decide
    have table : IsWhole (r.table s!"Validation results for {name}").text := by
      refine Table.consists_text drawing_whole _ ?_ heads ?_
      · intro text same
        rw [← Option.mem_some.mp same]
        exact title
      · intro row member
        obtain ⟨⟨field, outcome⟩, found, rfl⟩ := List.mem_map.mp member
        simp only [List.forall_mem_cons]
        exact ⟨isWhole_text field, isWhole_word outcome.severity, messages _ found, List.forall_mem_nil _⟩
    have counts : IsWhole r.counts :=
      .append (.append (.append (by decide) (Text.isWhole_repr _)) (by decide)) (Text.isWhole_repr _)
    exact List.forall_mem_cons.mpr ⟨table, List.forall_mem_singleton.mpr counts⟩

/-- The JSON of a report holds no halves of surrogate pairs, and no returns. -/
theorem consists_json (named : IsWhole path) (messages : ∀ found ∈ r.findings, IsWhole found.2.message) :
    Consists (fun c => Text.isHalf c = false ∧ c ≠ '\r') ((r.json path).indented 0).toList := by
  have outcomes : JsonTree.AllTextsIn IsWhole (r.findings.map fun (field, outcome) => (field.text, outcome.json)) := by
    generalize r.findings = findings at messages
    induction findings with
    | nil => trivial
    | cons found findings ih =>
      obtain ⟨first, rest⟩ := List.forall_mem_cons.mp messages
      have severity : IsWhole "severity" := by decide
      have message : IsWhole "message" := by decide
      exact ⟨isWhole_text found.1, ⟨severity, isWhole_word _, message, first, trivial⟩, ih rest⟩
  have record : IsWhole "record" := by decide
  have valid : IsWhole "valid" := by decide
  have listed : IsWhole "outcomes" := by decide
  have all : (r.json path).AllTexts IsWhole :=
    ⟨record, named, valid, trivial, listed, outcomes, trivial⟩
  refine JsonTree.consists_indented ?_ (by decide) ?_ (r.json path) 0 all
  · intro c low high
    refine ⟨Text.isHalf_of_lt (Nat.lt_trans high (by decide)), ?_⟩
    rintro rfl
    exact absurd low (by decide)
  · intro s whole c member low
    refine ⟨whole c member, ?_⟩
    rintro rfl
    exact absurd low (by decide)

theorem isWhole_json_iff (messages : ∀ found ∈ r.findings, IsWhole found.2.message) :
    IsWhole ((r.json path).indented 0) ↔ IsWhole path := by
  constructor
  · intro whole
    obtain ⟨-, named, -⟩ := JsonTree.allTexts_of_isWhole (r.json path) 0 whole
    exact named
  · intro named c member
    exact (consists_json named messages c member).1

/-- The JSON of a report, with the feed that ends it, is read back. -/
theorem read_json (distinct : (r.findings.map fun found => found.1.text).Nodup) :
    Json.read (((r.json path).indented 0).toList ++ ['\n']) = .ok (r.value path (!r.hasErrors)) := by
  have shallow : (r.json path).nesting ≤ Dialect.json.depth := Nat.le_trans (nesting_json r path) (by decide)
  rw [JsonTree.read_indented _ _ shallow (by decide), toValue_json distinct]

end Report

end DatasetForm
