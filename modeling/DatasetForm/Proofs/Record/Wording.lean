import DatasetForm.Proofs.Address.Parts
import DatasetForm.Proofs.Record.TitleFindings
import DatasetForm.Proofs.Rule.TitleOutcome
import DatasetForm.Proofs.Text.Half

/-!
What a report says can be written: the texts of its complaints hold no halves of surrogate pairs, unless the web
address of the record does, of which a complaint may repeat a part.
-/

set_option autoImplicit false
set_option relaxedAutoImplicit false

namespace DatasetForm

open Text (IsWhole)

/-- The texts that a complaint does not bring along by itself. -/
def Complaint.texts : Complaint → List String
  | .required field => [field]
  | .tooShort field least _ => [field, least.toText]
  | .tooLong field most _ => [field, most.toText]
  | .nearLimit field _ most => [field, most.toText]
  | .yearRange least most => [least.toText, most.toText]
  | .address fault => fault.texts
  | .startDate complaint => complaint.texts
  | .endDate complaint => complaint.texts
  | .tooManyTitles most => [most.toText]
  | .tooManyDates most => [most.toText]
  | .failed failure => [failure.message]
  | .other text => [text]
  | _ => []

theorem Date.isWhole_text (day : Date) : IsWhole day.text := by
  have digits (width n : Nat) : ∀ c ∈ Date.padded width n, Text.isHalf c = false := by
    intro c member
    rcases List.mem_append.mp member with zero | digit
    · rw [List.eq_of_mem_replicate zero]
      decide
    · exact Text.isHalf_of_mem_toDigits digit
  have dash : Text.isHalf '-' = false := by decide
  rw [IsWhole, Date.text, String.toList_ofList, Date.chars]
  simp only [List.forall_mem_append, List.forall_mem_cons]
  exact ⟨⟨digits 4 day.year, dash, digits 2 day.month⟩, dash, digits 2 day.day⟩

theorem AddressFault.isWhole_message {fault : AddressFault} (whole : ∀ text ∈ fault.texts, IsWhole text) :
    IsWhole fault.message := by
  cases fault with
  | host text =>
    have written := (whole text (List.mem_singleton_self _)).quoted
    exact written.append (by decide)
  | disguised authority =>
    have opening : IsWhole "netloc '" := by decide
    have written := whole authority (List.mem_singleton_self _)
    exact (opening.append written).append (by decide)
  | _ => decide

/-- A complaint can be written when the texts that it repeats can. -/
theorem Complaint.isWhole_message {complaint : Complaint} (whole : ∀ text ∈ complaint.texts, IsWhole text) :
    IsWhole complaint.message := by
  induction complaint with
  | startDate complaint ih => exact .append (by decide) (ih whole)
  | endDate complaint ih => exact .append (by decide) (ih whole)
  | address fault => exact .append (by decide) (AddressFault.isWhole_message whole)
  | dateBefore day => exact .append (by decide) day.isWhole_text
  | dateAfter day => exact .append (by decide) day.isWhole_text
  | required field =>
    have ofField := whole field (List.mem_singleton_self _)
    exact ofField.append (by decide)
  | tooShort field least length =>
    have ofField := whole field List.mem_cons_self
    have ofLeast := whole least.toText (List.mem_cons_of_mem _ (List.mem_singleton_self _))
    exact ((((ofField.append (by decide)).append ofLeast).append (by decide)).append (Text.isWhole_repr _)).append
      (by decide)
  | tooLong field most length =>
    have ofField := whole field List.mem_cons_self
    have ofMost := whole most.toText (List.mem_cons_of_mem _ (List.mem_singleton_self _))
    exact ((((ofField.append (by decide)).append ofMost).append (by decide)).append (Text.isWhole_repr _)).append
      (by decide)
  | nearLimit field length most =>
    have ofField := whole field List.mem_cons_self
    have ofMost := whole most.toText (List.mem_cons_of_mem _ (List.mem_singleton_self _))
    exact ((((ofField.append (by decide)).append (Text.isWhole_repr _)).append (by decide)).append ofMost).append
      (by decide)
  | yearRange least most =>
    have ofLeast := whole least.toText List.mem_cons_self
    have ofMost := whole most.toText (List.mem_cons_of_mem _ (List.mem_singleton_self _))
    exact (IsWhole.append (IsWhole.append (by decide) ofLeast) (by decide)).append ofMost
  | tooManyTitles most =>
    exact (IsWhole.append (by decide) (whole most.toText (List.mem_singleton_self _))).append (by decide)
  | tooManyDates most =>
    exact (IsWhole.append (by decide) (whole most.toText (List.mem_singleton_self _))).append (by decide)
  | failed failure => exact .append (by decide) (whole failure.message (List.mem_singleton_self _))
  | other text => exact whole text (List.mem_singleton_self _)
  -- All others have one message each.
  | _ => decide +kernel

/-! ## Outcomes -/

/-- Whatever texts an outcome repeats, they can be written. -/
def Outcome.Writable (outcome : Option Outcome) : Prop :=
  ∀ o ∈ outcome, ∀ text ∈ o.complaint.texts, IsWhole text

open Outcome (Writable)

namespace Outcome

theorem writable_none : Writable none :=
  nofun

theorem writable_some {o : Outcome} (whole : ∀ text ∈ o.complaint.texts, IsWhole text) : Writable (some o) := by
  intro other same
  rwa [← Option.some.inj same]

theorem writable_error {complaint : Complaint} (bare : complaint.texts = []) : Writable (some (.error complaint)) := by
  refine writable_some ?_
  rw [error, bare]
  exact List.forall_mem_nil _

theorem writable_errorIf (condition : Prop) [Decidable condition] {complaint : Complaint}
    (bare : complaint.texts = []) : Writable (errorIf condition complaint) := by
  rw [errorIf]
  split
  · exact writable_error bare
  · exact writable_none

theorem Writable.or {first second : Option Outcome} (left : Writable first) (right : Writable second) :
    Writable (first.or second) := by
  cases first with
  | none => exact right
  | some o => exact left

end Outcome

namespace Rule

variable {value context : Value} {limits : Limits} {today : Date}

theorem writable_evaluate {rules : List Rule} (each : ∀ rule ∈ rules, Writable (rule.judge value context)) :
    Writable (evaluate rules value context) := by
  induction rules with
  | nil => exact Outcome.writable_none
  | cons rule rules ih =>
    rw [List.forall_mem_cons] at each
    rw [evaluate_cons]
    exact each.1.or (ih each.2)

private theorem writable_required {field : String} (whole : IsWhole field) :
    Writable ((required field).judge value context) := by
  rw [required, judge_plain, Format.checkRequired]
  split
  · exact Outcome.writable_some (List.forall_mem_singleton.mpr whole)
  · exact Outcome.writable_none

private theorem writable_optional {name : String} {debounce : Value} {check : Value → Verdict}
    (refuses : Writable (check value).outcome?) : Writable ((optional name debounce check).judge value context) := by
  rw [optional, judge_plain]
  split
  · exact Outcome.writable_none
  · exact refuses

private theorem writable_maxLength {field : String} (whole : IsWhole field) (most : Int) :
    Writable ((maxLength field (.int most)).judge value context) := by
  rw [judge_maxLength]
  split
  · refine Outcome.writable_some (List.forall_mem_cons.mpr ⟨whole, List.forall_mem_singleton.mpr ?_⟩)
    exact Text.isWhole_toString_int most
  · exact Outcome.writable_none

private theorem isNearLimit_error {most : Int} {ratio : Binary64} {length : Nat} {failure : Failure}
    (failed : isNearLimit (.int most) (.float ratio) length = .error failure) : failure = .tooLargeForBinary := by
  cases limit : Value.toBinary most with
  | error reason =>
    have product : (Value.int most).times (.float ratio) = .error reason := by
      rw [Value.times, limit]
      rfl
    rw [isNearLimit, product] at failed
    cases failed
    rw [Value.toBinary] at limit
    split at limit <;> cases limit
    rfl
  | ok limit_ =>
    have product : (Value.int most).times (.float ratio) = .ok (.float (limit_.mul ratio)) := by
      rw [Value.times, limit]
      rfl
    obtain ⟨above, compared⟩ := Value.compares_float_int .less (limit_.mul ratio) length
    rw [isNearLimit, product] at failed
    simp only [bind, Except.bind, compared, Value.compares_lessOrEqual_int] at failed
    split at failed <;> cases failed

private theorem writable_nearLimit {field : String} (whole : IsWhole field) (most : Int) (ratio : Binary64) :
    Writable ((nearLimit field (.int most) (.float ratio)).judge value context) := by
  have limit : IsWhole (Value.int most).toText := Text.isWhole_toString_int most
  simp only [judge, nearLimit]
  cases near : isNearLimit (.int most) (.float ratio) (Format.textLength value.orEmpty) with
  | error failure =>
    rw [isNearLimit_error near]
    exact Outcome.writable_some (List.forall_mem_singleton.mpr (by decide))
  | ok above =>
    cases above with
    | false => exact Outcome.writable_none
    | true =>
      exact Outcome.writable_some (List.forall_mem_cons.mpr ⟨whole, List.forall_mem_singleton.mpr limit⟩)

private theorem writable_checkYearRange (least most year : Int) :
    ∃ verdict, Format.checkYearRange (.int least) (.int most) year = .ok verdict ∧ Writable verdict.outcome? := by
  have bounds : Writable (Verdict.refused (.yearRange (.int least) (.int most))).outcome? :=
    Outcome.writable_some (List.forall_mem_cons.mpr
      ⟨Text.isWhole_toString_int least, List.forall_mem_singleton.mpr (Text.isWhole_toString_int most)⟩)
  simp only [Format.checkYearRange, Value.compares_less_int, Value.compares_greater_int]
  cases decide (year < least) with
  | true => exact ⟨_, rfl, bounds⟩
  | false =>
    cases decide (most < year) with
    | true => exact ⟨_, rfl, bounds⟩
    | false => exact ⟨_, rfl, Outcome.writable_none⟩

private theorem writable_checkYear (limits : Limits) (today : Date) (v : Value) :
    ∃ verdict, Format.checkYear limits.settings.minYear limits.settings.maxYear today v = .ok verdict ∧
      Writable verdict.outcome? := by
  have last : Format.lastYear limits.settings.maxYear today = .int (limits.maxYear.getD (today.year + 1)) := by
    rw [Limits.settings]
    cases limits.maxYear <;> rfl
  have first : limits.settings.minYear = .int limits.minYear := rfl
  rw [Format.checkYear.eq_def, last, first]
  split
  · exact ⟨_, rfl, Outcome.writable_error rfl⟩
  · exact writable_checkYearRange _ _ _
  · split
    · exact ⟨_, rfl, Outcome.writable_error rfl⟩
    · exact writable_checkYearRange _ _ _

/-! ### Verdicts -/

private theorem writable_checkDoi (v : Value) : Writable (Format.checkDoi v).outcome? := by
  rw [Format.checkDoi]
  split
  · exact Outcome.writable_some (List.forall_mem_singleton.mpr (by decide))
  split
  · exact Outcome.writable_none
  · exact Outcome.writable_error rfl

private theorem writable_checkVersion (v : Value) : Writable (Format.checkVersion v).outcome? := by
  rw [Format.checkVersion]
  split
  · exact Outcome.writable_none
  · exact Outcome.writable_error rfl

private theorem writable_checkOrcid (v : Value) : Writable (Format.checkOrcid v).outcome? := by
  rw [Format.checkOrcid]
  split
  · exact Outcome.writable_none
  split
  · exact Outcome.writable_error rfl
  split
  · exact Outcome.writable_none
  · exact Outcome.writable_error rfl

private theorem writable_checkUrl {v : Value} (whole : IsWhole v.trimmedText) :
    Writable (Format.checkUrl v).outcome? := by
  rw [Format.checkUrl]
  split
  · exact Outcome.writable_some (List.forall_mem_singleton.mpr (by decide))
  split
  next fault failed =>
    refine Outcome.writable_some fun text member => ?_
    exact whole.subset (WebAddress.texts_subset failed text member)
  split
  · exact Outcome.writable_error rfl
  split
  · exact Outcome.writable_error rfl
  · exact Outcome.writable_none

private theorem writable_checkDay (bounds : Format.DayBounds) (today : Date) (v : Value) :
    Writable (Format.checkDay bounds today v).outcome? := by
  rw [Format.checkDay]
  split
  · exact Outcome.writable_some (List.forall_mem_singleton.mpr (by decide))
  split
  · exact Outcome.writable_error rfl
  split
  next complaint found =>
    rw [Format.DayBounds.complaint?] at found
    have bare : complaint.texts = [] := by
      split at found
      · cases found
        rfl
      split at found
      · split at found <;> cases found
        rfl
      · split at found <;> cases found
        rfl
    exact Outcome.writable_error bare
  · exact Outcome.writable_none

/-! ### Lists of rules -/

theorem writable_yearRules (limits : Limits) (today : Date) :
    Writable (evaluate (yearRules limits.settings today) value context) := by
  refine writable_evaluate (List.forall_mem_cons.mpr ⟨writable_required (by decide), List.forall_mem_singleton.mpr ?_⟩)
  obtain ⟨verdict, checked, writable⟩ := writable_checkYear limits today value
  simp only [judge, checked, Except.map]
  exact writable

theorem writable_abstractRules (limits : Limits) :
    Writable (evaluate (abstractRules limits.settings) value context) := by
  have abstract : IsWhole "Abstract" := by decide
  refine writable_evaluate (List.forall_mem_cons.mpr ⟨writable_required abstract, List.forall_mem_cons.mpr
    ⟨writable_maxLength abstract _, List.forall_mem_singleton.mpr (writable_nearLimit abstract _ _)⟩⟩)

theorem writable_doiRules (settings : Settings) : Writable (evaluate (doiRules settings) value context) :=
  writable_evaluate (List.forall_mem_singleton.mpr (writable_optional (writable_checkDoi value)))

theorem writable_versionRules : Writable (evaluate versionRules value context) :=
  writable_evaluate (List.forall_mem_singleton.mpr (writable_optional (writable_checkVersion value)))

theorem writable_orcidRules : Writable (evaluate orcidRules value context) :=
  writable_evaluate (List.forall_mem_singleton.mpr (writable_optional (writable_checkOrcid value)))

theorem writable_urlRules (field : String) (whole : IsWhole value.trimmedText) :
    Writable (evaluate (urlRules field false) value context) :=
  writable_evaluate (List.forall_mem_singleton.mpr (writable_optional (writable_checkUrl whole)))

private theorem writable_partOutcome (wrap : Complaint → Complaint)
    (wraps : ∀ complaint, (wrap complaint).texts = complaint.texts) (bounds : Format.DayBounds) (part : Value) :
    Writable (partOutcome wrap bounds today part) := by
  have checked := writable_checkDay bounds today part
  rw [partOutcome]
  split
  · exact Outcome.writable_none
  split
  · exact Outcome.writable_none
  next complaint refused =>
    rw [refused] at checked
    refine Outcome.writable_some ?_
    rw [Outcome.error, wraps]
    exact checked _ rfl

private theorem writable_dateOrder {v : Value} {outcome : Option Outcome} (judged : dateOrder v = .ok outcome) :
    Writable outcome := by
  rcases dateOrder_cases judged with rfl | rfl
  · exact Outcome.writable_none
  · exact Outcome.writable_error rfl

theorem writable_dateRules {kind : Value} {rules : List Rule} (found : dateRules kind today = .ok rules)
    (range : DateRange) : Writable (evaluate rules range.row.toValue context) := by
  rw [dateRules] at found
  cases hashable : kind.checkHashable with
  | error failure =>
    rw [hashable] at found
    cases found
  | ok _ =>
    rw [hashable] at found
    cases found
    refine writable_evaluate (List.forall_mem_cons.mpr ⟨?_, List.forall_mem_singleton.mpr ?_⟩)
    · simp only [judge, dateParts_row]
      exact (writable_partOutcome .startDate (fun _ => rfl) _ _).or (writable_partOutcome .endDate (fun _ => rfl) _ _)
    · simp only [judge, dateOrder_row]
      exact writable_dateOrder (dateOrder_row range)

theorem writable_titleRules {titles : List Title} {index : Nat} {title : Title} (found : titles[index]? = some title)
    (limits : Limits) :
    Writable (evaluate (titleRules index (.text title.kind) (titles.map Title.row) limits.settings)
      (.text title.text) (contextOf (titles.map Title.row))) := by
  have name : IsWhole "Title" := by decide
  refine writable_evaluate ?_
  simp only [titleRules, List.forall_mem_cons]
  refine ⟨?_, writable_maxLength name _, ?_, ?_, writable_nearLimit name _ _, List.forall_mem_nil _⟩
  · rw [mainRequired, judge_plain]
    exact Outcome.writable_errorIf _ rfl
  · rw [judge_uniqueTitle found]
    exact Outcome.writable_errorIf _ rfl
  · rw [judge_singleMain found]
    exact Outcome.writable_errorIf _ rfl

end Rule

/-! ## Reports -/

namespace Record

/-- Whatever texts findings repeat, they can be written. -/
private def AreWritable (findings : List Finding) : Prop :=
  ∀ found ∈ findings, ∀ text ∈ found.2.complaint.texts, IsWhole text

private theorem areWritable_finding {outcome : Option Outcome} (writable : Writable outcome) (field : FieldId) :
    AreWritable (finding field outcome) := by
  cases outcome with
  | none => exact List.forall_mem_nil _
  | some o => exact List.forall_mem_singleton.mpr (writable o rfl)

private theorem areWritable_append {findings others : List Finding} (first : AreWritable findings)
    (second : AreWritable others) : AreWritable (findings ++ others) :=
  List.forall_mem_append.mpr ⟨first, second⟩

private theorem writable_titleSetOutcome {titles : List Title} {most : Int} {outcome : Option Outcome}
    (judged : titleSetOutcome titles (.int most) = .ok outcome) : Writable outcome := by
  rw [titleSetOutcome, Value.compares_greater_int] at judged
  split at judged
  · cases judged
    exact Outcome.writable_error rfl
  split at judged
  · cases judged
  · cases judged
    exact Outcome.writable_some (List.forall_mem_singleton.mpr (Text.isWhole_toString_int most))
  · cases judged
    split
    · exact Outcome.writable_none
    · exact Outcome.writable_error rfl

private theorem writable_dateSetOutcome {dates : List DateRange} {most : Int} {outcome : Option Outcome}
    (judged : dateSetOutcome dates (.int most) = .ok outcome) : Writable outcome := by
  rw [dateSetOutcome, Value.compares_greater_int] at judged
  cases judged
  split
  · exact Outcome.writable_some (List.forall_mem_singleton.mpr (Text.isWhole_toString_int most))
  · exact Outcome.writable_none

private theorem areWritable_checkTitles (limits : Limits) (titles : List Title) :
    AreWritable (checkTitles limits.settings titles) := by
  intro found member
  obtain ⟨_, inner, there⟩ := List.mem_flatten.mp member
  obtain ⟨⟨outcome, index⟩, place, rfl⟩ := List.mem_map.mp inner
  have judged := List.mem_zipIdx_iff_getElem?.mp place
  rw [Rule.revalidate_rows, List.getElem?_mapIdx, Option.map_eq_some_iff] at judged
  obtain ⟨title, here, outcome_eq⟩ := judged
  have writable := Rule.writable_titleRules here limits
  rw [outcome_eq] at writable
  exact areWritable_finding writable _ found there

private theorem areWritable_checkFields (limits : Limits) (today : Date) {record : Record}
    (url : ∀ url ∈ record.url, IsWhole url) : AreWritable (checkFields limits.settings today record) := by
  have address : IsWhole (textValue record.url).trimmedText := by
    rw [textValue_eq, DateRow.trimmedText_partValue, trimmedPart, IsWhole, Text.toList_strip]
    cases named : record.url with
    | none => exact List.forall_mem_nil _
    | some text => exact fun c member => url text named c (Text.trim_subset _ member)
  rw [checkFields]
  exact areWritable_append (areWritable_append (areWritable_append (areWritable_append
    (areWritable_finding (Rule.writable_yearRules limits today) _)
    (areWritable_finding Rule.writable_versionRules _))
    (areWritable_finding (Rule.writable_doiRules _) _))
    (areWritable_finding (Rule.writable_abstractRules limits) _))
    (areWritable_finding (Rule.writable_urlRules "URL" address) _)

private theorem areWritable_checkDates {today : Date} {ranges : List DateRange} {index : Nat}
    {findings : List Finding} (checked : checkDates today index ranges = .ok findings) : AreWritable findings := by
  induction ranges generalizing index findings with
  | nil =>
    cases checked
    exact List.forall_mem_nil _
  | cons range ranges ih =>
    simp only [checkDates, bind, Except.bind] at checked
    split at checked
    · cases checked
    next outcome judged =>
      split at checked
      · cases checked
      next others rest =>
        cases checked
        refine areWritable_append (areWritable_finding ?_ _) (ih rest)
        rw [dateOutcome] at judged
        cases found : Rule.dateRules (.text range.kind) today with
        | error failure =>
          rw [found] at judged
          cases judged
        | ok rules =>
          rw [found] at judged
          cases judged
          exact Rule.writable_dateRules found range

private theorem areWritable_checkContributors (contributors : List Contributor) :
    AreWritable (checkContributors contributors) := by
  intro found member
  obtain ⟨_, inner, there⟩ := List.mem_flatten.mp member
  obtain ⟨⟨c, index⟩, -, rfl⟩ := List.mem_map.mp inner
  rcases List.mem_append.mp there with role | orcid
  · exact areWritable_finding (Outcome.writable_errorIf _ rfl) _ found role
  · split at orcid
    · exact areWritable_finding Rule.writable_orcidRules _ found orcid
    · cases orcid

/-- Every message of a report can be written when the web address of the record can. -/
theorem isWhole_messages {limits : Limits} {today : Date} {record : Record} {report : Report}
    (checked : check limits.settings today record = .ok report) (url : ∀ url ∈ record.url, IsWhole url) :
    ∀ found ∈ report.findings, IsWhole found.2.message := by
  obtain ⟨titleSet, dateSet, dates, ofTitles, ofDates, ranges, parts⟩ := findings_of_check checked
  have writable : AreWritable report.findings := by
    rw [parts]
    exact areWritable_append (areWritable_append (areWritable_append (areWritable_append (areWritable_append
      (areWritable_finding (writable_titleSetOutcome ofTitles) _)
      (areWritable_checkTitles limits record.titles))
      (areWritable_checkFields limits today url))
      (areWritable_finding (writable_dateSetOutcome ofDates) _))
      (areWritable_checkDates ranges))
      (areWritable_checkContributors record.contributors)
  intro found member
  exact Complaint.isWhole_message (writable found member)

end Record

end DatasetForm
