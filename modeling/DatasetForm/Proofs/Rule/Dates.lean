import DatasetForm.Proofs.Rule.Evaluate
import DatasetForm.Proofs.Value.Part
import DatasetForm.Rule.Dates

/-!
When the rules of a date row find nothing: each part that is there names a day within the bounds, and the
start does not come after the end.
-/

set_option autoImplicit false
set_option relaxedAutoImplicit false

namespace DatasetForm

/-- The day that the date part of a token names. -/
def DateToken.day? (token : String) : Option Date :=
  DateToken.dayOf? (DateToken.parse token).date

namespace DateRange

private theorem isCalendarDay_firstDay : isCalendarDay 1900 1 1 = true := by
  decide

/-- The first day that a range may name. -/
def firstDay : Date :=
  ⟨1900, 1, 1, isCalendarDay_firstDay⟩

/-- A part is blank, or it names a day from 1900 on that does not lie after `latest`. -/
def PartNamesDay (latest : Option Date) (part : Option String) : Prop :=
  trimmedPart part = "" ∨ ∃ day, DateToken.day? (part.getD "") = some day ∧
    day.before firstDay = false ∧ ∀ last ∈ latest, last.before day = false

/-- If both parts are there, the day of the first does not come after the day of the last. -/
def InOrder (range : DateRange) : Prop :=
  trimmedPart range.start ≠ "" → trimmedPart range.stop ≠ "" →
    ∀ first ∈ DateToken.day? (range.start.getD ""), ∀ last ∈ DateToken.day? (range.stop.getD ""),
      last.before first = false

/-- The last day that a range of the type may name: today when its dates tell of something that has
happened, otherwise there is none. -/
def latestDay (kind : String) (today : Date) : Option Date :=
  if DateType.all.any fun type => type.isPastOnly && type.word == kind then some today else none

/-- Both parts name allowed days, in order. -/
structure IsSound (kind : String) (today : Date) (range : DateRange) : Prop where
  start : PartNamesDay (latestDay kind today) range.start
  stop : PartNamesDay (latestDay kind today) range.stop
  order : range.InOrder

end DateRange

namespace Rule

open DateRange (PartNamesDay InOrder firstDay latestDay)

private theorem isPastOnlyName_text (kind : String) :
    DateType.isPastOnlyName (.text kind) =
      DateType.all.any fun type => type.isPastOnly && type.word == kind := by
  simp only [DateType.isPastOnlyName, Value.same, Bool.beq_comm, Bool.beq_eq_decide_eq]

private theorem complaint?_eq_none_iff (allowsFuture : Bool) (today day : Date) :
    ({ allowsFuture } : Format.DayBounds).complaint? today day = none ↔
      day.before firstDay = false ∧
        ∀ last ∈ (if allowsFuture then none else some today), last.before day = false := by
  have least : ({ allowsFuture } : Format.DayBounds).least = firstDay := rfl
  rw [Format.DayBounds.complaint?, least]
  cases allowsFuture <;> cases day.before firstDay <;> simp

theorem partOutcome_eq_none_iff (wrap : Complaint → Complaint) (allowsFuture : Bool) (today : Date)
    (part : Option String) :
    partOutcome wrap { allowsFuture } today (DateRow.partValue part) = none ↔
      PartNamesDay (if allowsFuture then none else some today) part := by
  rw [partOutcome, Format.checkDay, DateRow.isBlank_partValue, DateRow.trimmedText_partValue,
    PartNamesDay]
  by_cases blank : trimmedPart part = ""
  · simp [blank]
  · have parsed : DateToken.dayOf? (DateToken.parse (trimmedPart part)).date =
        DateToken.day? (part.getD "") := by
      rw [trimmedPart, DateToken.parse_strip, DateToken.day?]
    simp only [beq_iff_eq, blank, ↓reduceIte, parsed, false_or]
    cases found : DateToken.day? (part.getD "") with
    | none => simp
    | some day =>
      simp only [Option.some.injEq, exists_eq_left', ← complaint?_eq_none_iff]
      cases ({ allowsFuture } : Format.DayBounds).complaint? today day <;> simp

/-- The same for the days that a type allows. -/
theorem partOutcome_ofKind_eq_none_iff (wrap : Complaint → Complaint) (kind : String) (today : Date)
    (part : Option String) :
    partOutcome wrap { allowsFuture := !DateType.isPastOnlyName (.text kind) } today (DateRow.partValue part) =
      none ↔ PartNamesDay (latestDay kind today) part := by
  have latest : (if (!DateType.isPastOnlyName (.text kind)) = true then none else some today) =
      latestDay kind today := by
    rw [isPastOnlyName_text, latestDay]
    cases DateType.all.any fun type => type.isPastOnly && type.word == kind <;> rfl
  rw [partOutcome_eq_none_iff, latest]

/-- What is wrong with a part is an error that says which part it is. -/
theorem exists_of_mem_partOutcome {wrap : Complaint → Complaint} {bounds : Format.DayBounds} {today : Date}
    {part : Value} {o : Outcome} (found : o ∈ partOutcome wrap bounds today part) :
    ∃ complaint, o = .error (wrap complaint) := by
  unfold partOutcome at found
  split at found
  · cases found
  · split at found
    · cases found
    next complaint _ => exact ⟨complaint, (Option.some.inj found).symm⟩

private theorem blocks_of_mem_partOutcome {wrap : Complaint → Complaint} {bounds : Format.DayBounds}
    {today : Date} {part : Value} {o : Outcome} (h : o ∈ partOutcome wrap bounds today part) :
    o.blocks = true := by
  obtain ⟨complaint, rfl⟩ := exists_of_mem_partOutcome h
  rfl

/-- What is found in the parts of a value is an error. -/
theorem blocks_of_dateParts {allowsFuture : Bool} {today : Date} {value : Value} {o : Outcome}
    (found : dateParts allowsFuture today value = .ok (some o)) : o.blocks = true := by
  simp only [dateParts, bind, Except.bind, pure, Except.pure] at found
  split at found
  · cases found
  split at found
  · cases found
  split at found
  · cases found
  · rcases Option.or_eq_some_iff.mp (Except.ok.inj found) with start | ⟨-, stop⟩
    · exact blocks_of_mem_partOutcome start
    · exact blocks_of_mem_partOutcome stop

/-- All that can be wrong with the order of the parts of a value. -/
theorem dateOrder_cases {value : Value} {outcome : Option Outcome} (found : dateOrder value = .ok outcome) :
    outcome = none ∨ outcome = some (.error .dateOrder) := by
  simp only [dateOrder, bind, Except.bind, pure, Except.pure] at found
  repeat' split at found
  all_goals cases found
  all_goals simp

/-- A row with nothing in it needs no case of its own: neither part is looked at. -/
theorem dateParts_row (allowsFuture : Bool) (today : Date) (range : DateRange) :
    dateParts allowsFuture today range.row.toValue =
      .ok ((partOutcome .startDate { allowsFuture } today (DateRow.partValue range.start)).or
        (partOutcome .endDate { allowsFuture } today (DateRow.partValue range.stop))) := by
  by_cases start : trimmedPart range.start = "" <;> by_cases stop : trimmedPart range.stop = "" <;>
    simp [dateParts, DateRow.isFilled, partOutcome, start, stop, bind, Except.bind, pure, Except.pure,
      Except.map]

/-- What is wrong with the order of two days, if both are there. -/
def orderOutcome : Option Date → Option Date → Option Outcome
  | some first, some last => if last.before first then some (.error .dateOrder) else none
  | _, _ => none

theorem dateOrder_row (range : DateRange) :
    dateOrder range.row.toValue =
      .ok (if trimmedPart range.start = "" ∨ trimmedPart range.stop = "" then none
        else orderOutcome (DateToken.day? (range.start.getD "")) (DateToken.day? (range.stop.getD ""))) := by
  by_cases blank : trimmedPart range.start = "" ∨ trimmedPart range.stop = ""
  · simp [dateOrder, blank, bind, Except.bind, pure, Except.pure]
  · simp only [not_or] at blank
    simp only [dateOrder, DateRow.ofValue_toValue, bind, Except.bind, DateRange.start_row,
      DateRow.isBlank_partValue, DateRange.stop_row, Bool.or_eq_true, beq_iff_eq, blank, or_self,
      ↓reduceIte, DateToken.parseValue, DateRow.textOrEmpty_partValue, Except.map, DateToken.day?]
    cases DateToken.dayOf? (DateToken.parse (range.start.getD "")).date <;>
      cases DateToken.dayOf? (DateToken.parse (range.stop.getD "")).date <;> rfl

private theorem orderOutcome_eq_none_iff (first? last? : Option Date) :
    orderOutcome first? last? = none ↔
      ∀ first ∈ first?, ∀ last ∈ last?, last.before first = false := by
  cases first? <;> cases last? <;> simp [orderOutcome]

/-- The order is judged as stated. -/
private theorem order_eq_none_iff (range : DateRange) :
    (if trimmedPart range.start = "" ∨ trimmedPart range.stop = "" then none
      else orderOutcome (DateToken.day? (range.start.getD "")) (DateToken.day? (range.stop.getD ""))) = none ↔
        range.InOrder := by
  by_cases start : trimmedPart range.start = "" <;> by_cases stop : trimmedPart range.stop = "" <;>
    simp [start, stop, InOrder, orderOutcome_eq_none_iff]

/-- What the rules of a type find is what is wrong with the parts, or else with their order. -/
theorem evaluate_dateRules_of_ok {kind : String} {today : Date} {value : Value} {parts order : Option Outcome}
    (found : dateParts (!DateType.isPastOnlyName (.text kind)) today value = .ok parts)
    (found' : dateOrder value = .ok order) (context : Value) :
    (dateRules (.text kind) today).map (evaluate · value context) = .ok (parts.or order) := by
  have made : dateRules (.text kind) today = .ok
      [{ name := .text "date_format",
         check := fun value _ => dateParts (!DateType.isPastOnlyName (.text kind)) today value },
        { name := .text "date_order", check := fun value _ => dateOrder value }] := rfl
  rw [made, Except.map, evaluate_cons, evaluate_cons, evaluate_nil, Option.or_none]
  simp only [judge, found, found']

/-- The rules of the type of a row find nothing exactly when the row is sound, and what they find is an
error. -/
theorem evaluate_dateRules (kind : String) (today : Date) (range : DateRange) (context : Value) :
    ∃ outcome, (dateRules (.text kind) today).map (evaluate · range.row.toValue context) = .ok outcome ∧
      (outcome = none ↔ range.IsSound kind today) ∧ ∀ o ∈ outcome, o.blocks = true := by
  refine ⟨_, evaluate_dateRules_of_ok (dateParts_row ..) (dateOrder_row range) context, ?_, ?_⟩
  · simp only [Option.or_eq_none_iff, partOutcome_ofKind_eq_none_iff, order_eq_none_iff]
    constructor
    · rintro ⟨⟨start, stop⟩, order⟩
      exact ⟨start, stop, order⟩
    · rintro ⟨start, stop, order⟩
      exact ⟨⟨start, stop⟩, order⟩
  · intro o found
    rcases Option.or_eq_some_iff.mp found with parts | ⟨-, order⟩
    · exact blocks_of_dateParts ((dateParts_row ..).trans (congrArg _ parts))
    · rcases dateOrder_cases ((dateOrder_row range).trans (congrArg _ order)) with nothing | disorder
      · cases nothing
      · rw [Option.some.inj disorder]
        rfl

end Rule

end DatasetForm
