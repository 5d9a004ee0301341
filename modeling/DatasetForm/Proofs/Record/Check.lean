import DatasetForm.Proofs.Record.Findings
import DatasetForm.Proofs.Role.Label
import DatasetForm.Proofs.Rule.Dates
import DatasetForm.Proofs.Rule.Titles

/-!
When a record has no errors: `Acceptable` says of each of its fields what it has to be like, without speaking
of rules, and the check of a record finds an error exactly when the record is not acceptable.
-/

set_option autoImplicit false
set_option relaxedAutoImplicit false

namespace DatasetForm.Record

/-- There are titles, though not too many; one is the main title, and no other repeats one before it. -/
structure HasTitles (limits : Limits) (titles : List Title) : Prop where
  some : 1 ≤ titles.length
  few : titles.length ≤ limits.maxTitles
  main : ∃ main, titles.filter (fun title => title.kind == TitleType.mainTitle.slug) = [main] ∧
    Text.strip main.text ≠ ""
  short : ∀ title ∈ titles, (Text.strip title.text).length ≤ limits.titleMaxLength
  distinct : titles.Pairwise fun earlier title => ¬Title.Repeats earlier title

/-- The contributor has a role, and if it is a person its ORCID identifier is one. -/
structure IsCredited (c : Contributor) : Prop where
  role : ∃ role ∈ c.roles, Text.strip role ≠ ""
  orcid : ContributorKind.infer (c.kind.getD "") (Role.labelsOf c.roles) = .person →
    IsOptional Format.checkOrcid c.orcid

/-- Every field of the record is as it has to be. -/
structure Acceptable (limits : Limits) (today : Date) (record : Record) : Prop where
  titles : HasTitles limits record.titles
  publicationYear : HasYear limits today record.publicationYear
  version : IsOptional Format.checkVersion record.version
  doi : IsOptional Format.checkDoi record.doi
  abstract : HasLength limits.abstractMaxLength record.abstract
  url : IsOptional Format.checkUrl record.url
  fewDates : record.dates.length ≤ limits.maxDates
  dates : ∀ range ∈ record.dates, range.IsSound range.kind today
  contributors : ∀ c ∈ record.contributors, IsCredited c

theorem titleSetOutcome_int (titles : List Title) (most : Int) :
    ∃ outcome, titleSetOutcome titles (.int most) = .ok outcome ∧
      (Outcome.isBlocking outcome = false ↔
        1 ≤ titles.length ∧ titles.length ≤ most ∧ ∃ title ∈ titles, title.IsMain) := by
  rw [titleSetOutcome, Value.compares_greater_int]
  by_cases empty : titles = []
  · exact ⟨_, if_pos (List.isEmpty_iff.mpr empty), by simp [empty]⟩
  have filled : 1 ≤ titles.length := List.length_pos_iff.mpr empty
  rw [if_neg (mt List.isEmpty_iff.mp empty)]
  by_cases many : most < titles.length
  · rw [decide_eq_true many]
    exact ⟨_, rfl, by simp [many]⟩
  · rw [decide_eq_false many]
    have main : (titles.any fun title => title.kind == TitleType.mainTitle.slug) = true ↔
        ∃ title ∈ titles, title.IsMain := by
      simp [Title.IsMain]
    refine ⟨_, rfl, ?_⟩
    rw [← main, and_iff_right filled, and_iff_right (Int.not_lt.mp many)]
    cases titles.any fun title => title.kind == TitleType.mainTitle.slug <;> simp

private theorem passes_checkTitles (limits : Limits) (titles : List Title)
    (binary : (Binary64.ofInt? limits.titleMaxLength).isSome)
    (slugs : ∀ title ∈ titles, Title.slug title.kind = title.kind) :
    Passes (checkTitles limits.settings titles) ↔
      ∀ index title, titles[index]? = some title → Title.IsSound limits titles index title := by
  have judged (index : Nat) : (Rule.revalidate limits.settings (titles.map Title.row))[index]? =
      titles[index]?.map fun title => Rule.evaluate
        (Rule.titleRules index (.text title.kind) (titles.map Title.row) limits.settings)
        (.text title.text) (Rule.contextOf (titles.map Title.row)) := by
    simp [Rule.revalidate, List.getElem?_zipIdx, Function.comp_def, Title.row]
  rw [checkTitles, passes_indexed]
  refine forall_congr' fun index => ?_
  simp only [judged, Option.map_eq_some_iff, passes_finding, forall_exists_index, and_imp,
    forall_apply_eq_imp_iff₂]
  refine forall_congr' fun title => ?_
  refine imp_congr_right fun found => ?_
  exact Rule.evaluate_titleRules found limits binary (slugs title (List.mem_of_getElem? found))

private theorem hasTitles_iff (limits : Limits) (titles : List Title) :
    HasTitles limits titles ↔
      (1 ≤ titles.length ∧ titles.length ≤ limits.maxTitles ∧ ∃ title ∈ titles, title.IsMain) ∧
        ∀ index title, titles[index]? = some title → Title.IsSound limits titles index title := by
  have oneMain := Title.exists_mains_eq_singleton_iff titles fun title => Text.strip title.text ≠ ""
  rw [Title.forall_isSound_iff]
  constructor
  · rintro ⟨some, few, main, short, distinct⟩
    obtain ⟨exists_main, single, filled⟩ := oneMain.mpr main
    exact ⟨⟨some, few, exists_main⟩, filled, short, distinct, single⟩
  · rintro ⟨⟨some, few, exists_main⟩, filled, short, distinct, single⟩
    exact ⟨some, few, oneMain.mp ⟨exists_main, single, filled⟩, short, distinct⟩

private theorem passes_checkFields (limits : Limits) (today : Date) (record : Record)
    (binary : (Binary64.ofInt? limits.abstractMaxLength).isSome) :
    Passes (checkFields limits.settings today record) ↔
      HasYear limits today record.publicationYear ∧ IsOptional Format.checkVersion record.version ∧
        IsOptional Format.checkDoi record.doi ∧ HasLength limits.abstractMaxLength record.abstract ∧
        IsOptional Format.checkUrl record.url := by
  have url : Rule.urlRules "URL" false =
      [Rule.optional (Rule.fieldRuleName "URL" "format") .null Format.checkUrl] := rfl
  simp only [checkFields, passes_append, passes_finding, Rule.evaluate_yearRules, Rule.versionRules,
    Rule.doiRules, url, Rule.evaluate_optional, Rule.evaluate_abstractRules limits _ binary, and_assoc]

theorem dateSetOutcome_int (dates : List DateRange) (most : Int) :
    ∃ outcome, dateSetOutcome dates (.int most) = .ok outcome ∧
      (Outcome.isBlocking outcome = false ↔ dates.length ≤ most) := by
  rw [dateSetOutcome, Value.compares_greater_int]
  refine ⟨_, rfl, ?_⟩
  by_cases many : most < dates.length <;> simp [many]
  omega

theorem checkDates_ok (today : Date) (start : Nat) (ranges : List DateRange) :
    ∃ findings, checkDates today start ranges = .ok findings ∧
      (findings.map Prod.fst).Sublist
        ((List.range' start ranges.length).flatMap fun index => [.date index]) ∧
      (Passes findings ↔ ∀ range ∈ ranges, range.IsSound range.kind today) := by
  induction ranges generalizing start with
  | nil => exact ⟨[], rfl, by simp, by simp [Passes]⟩
  | cons range ranges ih =>
    obtain ⟨outcome, judged, sound, blocks⟩ := Rule.evaluate_dateRules range.kind today range .null
    obtain ⟨findings, others, within, pass⟩ := ih (start + 1)
    have blocking : Outcome.isBlocking outcome = false ↔ outcome = none := by
      cases outcome with
      | none => simp
      | some o => simp [Outcome.isBlocking, blocks o rfl]
    refine ⟨finding (.date start) outcome ++ findings, ?_, ?_, ?_⟩
    · simp only [checkDates, dateOutcome, judged, others, bind, Except.bind, pure, Except.pure]
    · rw [List.map_append, List.length_cons, List.range'_succ, List.flatMap_cons]
      exact (fields_finding _ _).append within
    · rw [passes_append, passes_finding, pass, blocking, sound, List.forall_mem_cons]

private theorem passes_checkContributor (index : Nat) (c : Contributor) :
    Passes (checkContributor index c) ↔ IsCredited c := by
  have role : Outcome.isBlocking
      (if (Role.labelsOf c.roles).isEmpty then some (.error .noRole) else none) = false ↔
        ∃ role ∈ c.roles, Text.strip role ≠ "" := by
    have named : Role.labelsOf c.roles ≠ [] ↔ ∃ role ∈ c.roles, Text.strip role ≠ "" := by
      rw [Ne, Role.labelsOf_eq_nil_iff]
      simp
    rw [← named]
    cases Role.labelsOf c.roles <;> simp
  have orcid : Passes (if ContributorKind.infer (c.kind.getD "") (Role.labelsOf c.roles) = .person then
      finding (.orcid index) (Rule.evaluate Rule.orcidRules (textValue c.orcid) .null) else []) ↔
        (ContributorKind.infer (c.kind.getD "") (Role.labelsOf c.roles) = .person →
          IsOptional Format.checkOrcid c.orcid) := by
    by_cases person : ContributorKind.infer (c.kind.getD "") (Role.labelsOf c.roles) = .person
    · simp [person, Rule.orcidRules, Rule.evaluate_optional]
    · simp [person, Passes]
  rw [checkContributor, passes_append, passes_finding, role, orcid]
  constructor
  · rintro ⟨role, orcid⟩
    exact ⟨role, orcid⟩
  · rintro ⟨role, orcid⟩
    exact ⟨role, orcid⟩

private theorem passes_checkContributors (contributors : List Contributor) :
    Passes (checkContributors contributors) ↔ ∀ c ∈ contributors, IsCredited c := by
  rw [checkContributors, passes_indexed]
  simp only [passes_checkContributor]
  constructor
  · intro credited c member
    obtain ⟨index, found⟩ := List.getElem?_of_mem member
    exact credited index c found
  · intro credited index c found
    exact credited c (List.mem_of_getElem? found)

private theorem fields_checkContributor (index : Nat) (c : Contributor) :
    ((checkContributor index c).map Prod.fst).Sublist [.roles index, .orcid index] := by
  rw [checkContributor, List.map_append]
  change List.Sublist _ ([FieldId.roles index] ++ [FieldId.orcid index])
  refine (fields_finding _ _).append ?_
  split
  · exact fields_finding _ _
  · exact List.nil_sublist _

theorem fields_checkTitles (settings : Settings) (titles : List Title) :
    ((checkTitles settings titles).map Prod.fst).Sublist
      ((List.range titles.length).flatMap fun index => [.title index]) := by
  have count : (Rule.revalidate settings (titles.map Title.row)).length = titles.length := by
    simp [Rule.revalidate]
  rw [checkTitles, List.range_eq_range', ← count]
  refine fields_indexed ?_ _ 0
  intro outcome index
  exact fields_finding _ outcome

theorem fields_checkFields (settings : Settings) (today : Date) (record : Record) :
    ((checkFields settings today record).map Prod.fst).Sublist
      [.publicationYear, .version, .doi, .abstract, .url] := by
  simp only [checkFields, List.map_append]
  change List.Sublist _
    ([FieldId.publicationYear] ++ [FieldId.version] ++ [FieldId.doi] ++ [FieldId.abstract] ++ [FieldId.url])
  exact ((((fields_finding _ _).append (fields_finding _ _)).append (fields_finding _ _)).append
    (fields_finding _ _)).append (fields_finding _ _)

theorem fields_checkContributors (contributors : List Contributor) :
    ((checkContributors contributors).map Prod.fst).Sublist
      ((List.range contributors.length).flatMap fun index => [.roles index, .orcid index]) := by
  rw [checkContributors, List.range_eq_range']
  refine fields_indexed ?_ contributors 0
  intro c index
  exact fields_checkContributor index c

/-- Soundness and completeness of the check: it gives a report, on each field at most once, that is free of
errors exactly when the record is acceptable. -/
theorem check_hasErrors_iff (limits : Limits) (today : Date) (record : Record)
    (slugs : ∀ title ∈ record.titles, Title.slug title.kind = title.kind)
    (titleLimit : (Binary64.ofInt? limits.titleMaxLength).isSome)
    (abstractLimit : (Binary64.ofInt? limits.abstractMaxLength).isSome) :
    ∃ report, check limits.settings today record = .ok report ∧
      (report.findings.map fun finding => finding.1.text).Nodup ∧
      (report.hasErrors = false ↔ record.Acceptable limits today) := by
  obtain ⟨titleSet, checkedTitleSet, titleSet_iff⟩ := titleSetOutcome_int record.titles limits.maxTitles
  obtain ⟨dateSet, checkedDateSet, dateSet_iff⟩ := dateSetOutcome_int record.dates limits.maxDates
  obtain ⟨dates, checkedDates, fields_dates, dates_iff⟩ := checkDates_ok today 0 record.dates
  have checked : check limits.settings today record = .ok ⟨finding .titles titleSet ++
      checkTitles limits.settings record.titles ++ checkFields limits.settings today record ++
      finding .dates dateSet ++ dates ++ checkContributors record.contributors⟩ := by
    have titles : titleSetOutcome record.titles limits.settings.maxTitles = .ok titleSet := checkedTitleSet
    have count : dateSetOutcome record.dates limits.settings.maxDates = .ok dateSet := checkedDateSet
    rw [check, titles, count, checkedDates]
    rfl
  refine ⟨_, checked, ?_, ?_⟩
  · have fields := (((((fields_finding .titles titleSet).append
      (fields_checkTitles limits.settings record.titles)).append
      (fields_checkFields limits.settings today record)).append (fields_finding .dates dateSet)).append
      fields_dates).append (fields_checkContributors record.contributors)
    refine nodup_texts (?_ : List.Sublist _
      (fieldIds record.titles.length record.dates.length record.contributors.length))
    simpa [fieldIds, List.range_eq_range'] using fields
  · rw [Report.hasErrors_eq_false_iff]
    simp only [passes_append, passes_finding, titleSet_iff,
      passes_checkTitles limits record.titles titleLimit slugs,
      passes_checkFields limits today record abstractLimit, dateSet_iff, dates_iff,
      passes_checkContributors, ← hasTitles_iff]
    constructor
    · rintro ⟨⟨⟨⟨titles, year, version, doi, abstract, url⟩, fewDates⟩, dates⟩, contributors⟩
      exact ⟨titles, year, version, doi, abstract, url, fewDates, dates, contributors⟩
    · rintro ⟨titles, year, version, doi, abstract, url, fewDates, dates, contributors⟩
      exact ⟨⟨⟨⟨titles, year, version, doi, abstract, url⟩, fewDates⟩, dates⟩, contributors⟩

/-- A record of ice cores that were drilled the year before. -/
private def iceCores : Record :=
  { titles := [⟨"Ice cores", "main-title"⟩, ⟨"ice cores", "other"⟩]
    publicationYear := some " 2023 "
    abstract := some "Cores from the plateau."
    dates := [⟨"collected", some "2023-05-01T10:00", none⟩]
    contributors := [{ roles := ["data_collector"] }] }

theorem check_iceCores :
    (∀ title ∈ iceCores.titles, Title.slug title.kind = title.kind) ∧
      (Binary64.ofInt? ({} : Limits).titleMaxLength).isSome ∧
      (Binary64.ofInt? ({} : Limits).abstractMaxLength).isSome ∧
      ∃ report, check ({} : Limits).settings ⟨2024, 3, 1, by decide⟩ iceCores = .ok report ∧
        report.hasErrors = false := by
  have slugs : ∀ title ∈ iceCores.titles, Title.slug title.kind = title.kind := by decide +kernel
  have titleLimit : (Binary64.ofInt? ({} : Limits).titleMaxLength).isSome := by decide +kernel
  have abstractLimit : (Binary64.ofInt? ({} : Limits).abstractMaxLength).isSome := by decide +kernel
  obtain ⟨report, checked, -, free⟩ :=
    check_hasErrors_iff {} ⟨2024, 3, 1, by decide⟩ iceCores slugs titleLimit abstractLimit
  have unfilled : trimmedPart none = "" := rfl
  have main : iceCores.titles.filter (fun title => title.kind == TitleType.mainTitle.slug) =
      [⟨"Ice cores", "main-title"⟩] := rfl
  have kinds : "main-title" ≠ "other" := by decide
  have year : Text.Writes (trimmedPart iceCores.publicationYear).toList 2023 :=
    (Text.readDigits?_eq_some_iff _ _).mp (by decide +kernel)
  have day : DateToken.day? "2023-05-01T10:00" = some ⟨2023, 5, 1, by decide⟩ := by decide +kernel
  refine ⟨slugs, titleLimit, abstractLimit, report, checked, free.mpr ?_⟩
  exact {
    titles := {
      some := by decide
      few := by decide
      main := ⟨_, main, by decide +kernel⟩
      short := by decide +kernel
      distinct := List.pairwise_pair.mpr fun repeated => kinds repeated.2.2 }
    publicationYear := ⟨2023, by decide +kernel, year, by decide, by decide⟩
    version := .inl unfilled
    doi := .inl unfilled
    abstract := ⟨by decide +kernel, by decide +kernel⟩
    url := .inl unfilled
    fewDates := by decide
    dates := List.forall_mem_singleton.mpr {
      start := .inr ⟨_, day, by decide, by decide⟩
      stop := .inl unfilled
      order := fun _ filled => absurd unfilled filled }
    contributors := List.forall_mem_singleton.mpr {
      role := ⟨"data_collector", by decide, by decide +kernel⟩
      orcid := fun _ => .inl unfilled } }

end DatasetForm.Record
