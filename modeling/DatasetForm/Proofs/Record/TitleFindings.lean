import DatasetForm.Proofs.Record.Check

/-!
What a report says of the title rows of a record: under the id of each row it holds the outcome of the row
beside all rows, and nothing else (`Record.check_gives_title`).
-/

set_option autoImplicit false
set_option relaxedAutoImplicit false

namespace DatasetForm

/-- The report has this outcome under the id of a field, if it has one there. -/
def Report.Gives (report : Report) (field : String) (outcome : Option Outcome) : Prop :=
  ∀ o, (∃ id, id.text = field ∧ (id, o) ∈ report.findings) ↔ outcome = some o

namespace Record

variable {settings : Settings} {today : Date} {record : Record} {report : Report}

/-- Settings of known kinds never keep a record from being checked. -/
theorem exists_check (limits : Limits) (today : Date) (record : Record) :
    ∃ report, check limits.settings today record = .ok report := by
  obtain ⟨titleSet, ofTitles, -⟩ := titleSetOutcome_int record.titles limits.maxTitles
  obtain ⟨dateSet, ofDates, -⟩ := dateSetOutcome_int record.dates limits.maxDates
  obtain ⟨dates, checked, -⟩ := checkDates_ok today 0 record.dates
  have titles : titleSetOutcome record.titles limits.settings.maxTitles = .ok titleSet := ofTitles
  have count : dateSetOutcome record.dates limits.settings.maxDates = .ok dateSet := ofDates
  rw [check, titles, count, checked]
  exact ⟨_, rfl⟩

theorem findings_of_check (checked : check settings today record = .ok report) :
    ∃ titleSet dateSet dates, titleSetOutcome record.titles settings.maxTitles = .ok titleSet ∧
      dateSetOutcome record.dates settings.maxDates = .ok dateSet ∧ checkDates today 0 record.dates = .ok dates ∧
      report.findings = finding .titles titleSet ++ checkTitles settings record.titles ++
        checkFields settings today record ++ finding .dates dateSet ++ dates ++
        checkContributors record.contributors := by
  rw [check] at checked
  cases titles : titleSetOutcome record.titles settings.maxTitles with
  | error failure =>
    rw [titles] at checked
    cases checked
  | ok titleSet =>
    cases count : dateSetOutcome record.dates settings.maxDates with
    | error failure =>
      rw [titles, count] at checked
      cases checked
    | ok dateSet =>
      cases ranges : checkDates today 0 record.dates with
      | error failure =>
        rw [titles, count, ranges] at checked
        cases checked
      | ok dates =>
        rw [titles, count, ranges] at checked
        cases checked
        exact ⟨titleSet, dateSet, dates, rfl, rfl, rfl, rfl⟩

/-- A report says one thing of a field at most. -/
theorem nodup_of_check (checked : check settings today record = .ok report) :
    (report.findings.map fun finding => finding.1.text).Nodup := by
  obtain ⟨titleSet, dateSet, dates, -, -, ranges, parts⟩ := findings_of_check checked
  obtain ⟨dates', ranges', ofDates, -⟩ := checkDates_ok today 0 record.dates
  obtain rfl : dates = dates' := Except.ok.inj (ranges.symm.trans ranges')
  have fields := (((((fields_finding .titles titleSet).append (fields_checkTitles settings record.titles)).append
    (fields_checkFields settings today record)).append (fields_finding .dates dateSet)).append ofDates).append
    (fields_checkContributors record.contributors)
  rw [parts]
  refine nodup_texts (?_ : List.Sublist _
    (fieldIds record.titles.length record.dates.length record.contributors.length))
  simpa [fieldIds, List.range_eq_range'] using fields

private theorem mem_checkTitles (titles : List Title) (index : Nat) (outcome : Outcome) :
    (FieldId.title index, outcome) ∈ checkTitles settings titles ↔
      (Rule.revalidate settings (titles.map Title.row))[index]? = some (some outcome) := by
  simp only [checkTitles, List.mem_flatten, List.mem_map]
  constructor
  · rintro ⟨findings, ⟨⟨found, position⟩, member, rfl⟩, there⟩
    have place := List.mem_zipIdx_iff_getElem?.mp member
    cases found with
    | none => cases there
    | some other =>
      rw [finding, Option.map_some, Option.toList_some, List.mem_singleton] at there
      cases there
      exact place
  · intro found
    refine ⟨_, ⟨(some outcome, index), List.mem_zipIdx_iff_getElem?.mpr found, rfl⟩, ?_⟩
    exact List.mem_singleton_self _

/-- What is said of other fields is not said of a title row. -/
private theorem not_mem_of_fields {findings : List Finding} {fields : List FieldId}
    (within : (findings.map Prod.fst).Sublist fields) (index : Nat) (outcome : Outcome)
    (absent : FieldId.title index ∉ fields) : (FieldId.title index, outcome) ∉ findings :=
  fun member => absent (within.subset (List.mem_map_of_mem member))

/-- Under the id of each title row, a report has the outcome of the row beside all rows. -/
theorem check_gives_title (checked : check settings today record = .ok report) (index : Nat)
    {outcome : Option Outcome}
    (judged : (Rule.revalidate settings (record.titles.map Title.row))[index]? = some outcome) :
    report.Gives (FieldId.title index).text outcome := by
  obtain ⟨titleSet, dateSet, dates, -, -, ranges, parts⟩ := findings_of_check checked
  obtain ⟨dates', ranges', ofDates, -⟩ := checkDates_ok today 0 record.dates
  have same : dates = dates' := Except.ok.inj (ranges.symm.trans ranges')
  subst same
  intro o
  have set := not_mem_of_fields (fields_finding .titles titleSet) index o (by simp)
  have fields := not_mem_of_fields (fields_checkFields settings today record) index o (by simp)
  have count := not_mem_of_fields (fields_finding .dates dateSet) index o (by simp)
  have ofRanges := not_mem_of_fields ofDates index o (by simp)
  have people := not_mem_of_fields (fields_checkContributors record.contributors) index o (by simp)
  have member : (FieldId.title index, o) ∈ report.findings ↔ outcome = some o := by
    rw [parts]
    simp only [List.mem_append, set, fields, count, ofRanges, people, mem_checkTitles, judged, false_or,
      or_false, Option.some.injEq]
  rw [← member]
  constructor
  · rintro ⟨id, text, there⟩
    rwa [← FieldId.text_injective text]
  · intro there
    exact ⟨_, rfl, there⟩

end Record

end DatasetForm
