import DatasetForm.Proofs.Form.Apart
import DatasetForm.Proofs.Form.OnlyRows
import DatasetForm.Proofs.Record.TitleFindings

/-!
Checks of title rows agree, however they are made. Once the quiet period of the last check of all rows has passed,
the outcome of each row is the one it has beside all rows, whatever was checked before, at once or later; a
report on a record with these titles says the same (`validateTitles_settles`).
-/

set_option autoImplicit false
set_option relaxedAutoImplicit false

namespace DatasetForm

/-- The rows are checked at once, or the time that passes is at least their quiet period. -/
def Settings.SettlesWithin (settings : Settings) (isImmediate : Bool) (durations : List Int) : Prop :=
  isImmediate = true ∨ ∃ interval, Rule.titleInterval settings = .ok interval ∧
    (interval.compares .lessOrEqual (.int 0) = .ok true ∨
      ∃ delay, interval.compares .lessOrEqual (.int 0) = .ok false ∧ Timer.delayOf interval = .ok delay ∧
        durations ≠ [] ∧ delay ≤ durations.sum)

theorem Settings.SettlesWithin.accepts {settings : Settings} {isImmediate : Bool} {durations : List Int}
    (settles : settings.SettlesWithin isImmediate durations) : settings.AcceptsTitles isImmediate := by
  rcases settles with immediate | ⟨interval, read, due | ⟨delay, later, delays, -⟩⟩
  · exact .inl immediate
  · exact .inr ⟨interval, read, .inl due⟩
  · exact .inr ⟨interval, read, .inr ⟨later, delay, delays⟩⟩

/-- Quiet periods of whole milliseconds, up to three decades, pass as they are named. -/
theorem Settings.settlesWithin_int {settings : Settings} {n : Nat} (small : n ≤ 10 ^ 12)
    (whole : settings.debounceMs = .int n) {durations : List Int} (enough : (1000 * n : Nat) ≤ durations.sum)
    (isImmediate : Bool) : settings.SettlesWithin isImmediate durations := by
  refine .inr ⟨.int n, Form.titleInterval_int whole, ?_⟩
  rcases Nat.eq_zero_or_pos n with rfl | positive
  · exact .inl rfl
  · have later : (Value.int n).compares .lessOrEqual (.int 0) = .ok false := by
      rw [Value.compares_lessOrEqual_int]
      exact congrArg _ (decide_eq_false (by omega))
    have filled : durations ≠ [] := by
      rintro rfl
      rw [List.sum_nil] at enough
      omega
    exact .inr ⟨_, later, Timer.delayOf_int small, filled, enough⟩

namespace LoneField

/-- Let time pass, several times in a row. -/
def wait (lone : LoneField) : List Int → LoneField
  | [] => lone
  | duration :: durations => (lone.arrive (lone.now + duration)).wait durations

theorem wait_of_idle {lone : LoneField} (idle : lone.waiting = none) (durations : List Int) :
    (lone.wait durations).entry = lone.entry ∧ (lone.wait durations).waiting = none := by
  induction durations generalizing lone with
  | nil => exact ⟨rfl, idle⟩
  | cons duration durations ih =>
    have arrives : lone.arrive (lone.now + duration) = { lone with now := lone.now + duration } := by
      rw [arrive, idle]
    have idle' : ({ lone with now := lone.now + duration } : LoneField).waiting = none := idle
    rw [wait, arrives]
    exact ih idle'

/-- A check that waits is made once enough time has passed. -/
theorem wait_of_due {lone : LoneField} (records : Form.Records lone.listeners) {due : Int} {pass : Pass}
    (waits : lone.waiting = some (due, pass)) {durations : List Int} (filled : durations ≠ [])
    (enough : due ≤ lone.now + durations.sum) :
    (lone.wait durations).entry = some (checked pass lone.entry) ∧
      (lone.wait durations).waiting = none := by
  induction durations generalizing lone with
  | nil => exact absurd rfl filled
  | cons duration durations ih =>
    rw [List.sum_cons] at enough
    rw [wait]
    by_cases soon : due ≤ lone.now + duration
    · have quiet : Form.Records lone.quiet.listeners := records
      have completes := Form.complete_of_records quiet pass
      have arrives : lone.arrive (lone.now + duration) =
          { lone with
            now := lone.now + duration
            entry := some (checked pass lone.entry)
            waiting := none } := by
        simp only [arrive, waits, if_pos soon, completes]
        rfl
      rw [arrives]
      exact wait_of_idle rfl durations
    · -- the check is due later than all that has passed, so some of the time is still to come
      have arrives : lone.arrive (lone.now + duration) = { lone with now := lone.now + duration } := by
        simp only [arrive, waits, if_neg soon]
      have more : durations ≠ [] := by
        rintro rfl
        rw [List.sum_nil] at enough
        omega
      rw [arrives]
      refine ih records waits more ?_
      change due ≤ lone.now + duration + durations.sum
      omega

end LoneField

namespace Form

private theorem InStep.alone_advances {form : Form} (inStep : form.InStep) (steady : Steady form.listeners)
    (durations : List Int) (field : String) :
    (form.run (durations.map .advance)).alone field = (form.alone field).wait durations := by
  induction durations generalizing form with
  | nil => rfl
  | cons duration durations ih =>
    have plain : (FormStep.advance duration).IsPlain := trivial
    have first := inStep.alone_perform steady plain field
    have next := ih (inStep.perform (.advance duration)) (inStep.steady_perform steady plain)
    rw [first] at next
    exact next

theorem InStep.unused_advance {form : Form} (inStep : form.InStep) (known : form.Known)
    (steady : Steady form.listeners) (duration : Int) {field : String}
    (unused : form.fields.lookup field = none) :
    (form.perform (.advance duration)).1.fields.lookup field = none := by
  have plain : (FormStep.advance duration).IsPlain := trivial
  have alone := inStep.alone_perform steady plain field
  rw [inStep.alone_unused known unused] at alone
  exact congrArg LoneField.entry alone

/-- Of the fields whose names begin like those of rows, the rows alone are in use; none of them waits, and each
has the outcome that it has beside all rows. -/
structure Settled (stem : String) (settings : Settings) (rows : List TitleRow) (form : Form) : Prop where
  used : ∀ field, BeginsWith stem field →
    (form.fields.lookup field ≠ none ↔ ∃ index < rows.length, field = rowField stem index)
  idle : ∀ field, BeginsWith stem field → form.isPending field = false
  outcomes : ∀ index < rows.length,
    (Rule.revalidate settings rows)[index]? = some (form.state (rowField stem index)).outcome

section Settled

variable {stem : String} {settings : Settings} {rows : List TitleRow} {isImmediate : Bool}
  {durations : List Int}

/-- A row that was checked alone has its outcome once its quiet period has passed. -/
private theorem row_settles {lone : LoneField} (records : Records lone.listeners)
    (clock : lone.hasClock = true) (settles : settings.SettlesWithin isImmediate durations) (index : Nat)
    (row : TitleRow) :
    let pass := rowPass stem settings rows index row
    ((lone.validate pass isImmediate).wait durations).entry = some (LoneField.checked pass lone.entry) ∧
      ((lone.validate pass isImmediate).wait durations).waiting = none := by
  intro pass
  have accepted : pass.IsAccepted isImmediate := (rowPass_isAccepted_iff ..).mpr settles.accepts
  rcases validate_of_records records clock accepted with
    made | ⟨interval, delay, read, delays, later, waits⟩
  · rw [made]
    exact LoneField.wait_of_idle rfl durations
  · have debounced : isImmediate = false := by
      cases isImmediate with
      | false => rfl
      | true =>
        cases read
        cases later
    subst debounced
    obtain ⟨filled, enough⟩ : durations ≠ [] ∧ delay ≤ durations.sum := by
      rcases settles with immediate | ⟨interval', read', due | ⟨delay', -, delays', filled, enough⟩⟩
      · cases immediate
      · have same : interval = interval' := Except.ok.inj (read.symm.trans read')
        rw [same, due] at later
        cases later
      · have same : interval = interval' := Except.ok.inj (read.symm.trans read')
        rw [same, delays'] at delays
        cases delays
        exact ⟨filled, enough⟩
    have records' : Records (lone.quiet.putOff delay pass).listeners := records
    have waiting : (lone.quiet.putOff delay pass).waiting = some (lone.now + delay, pass) := rfl
    obtain ⟨made, idle⟩ := LoneField.wait_of_due records' waiting filled (Int.add_le_add_left enough lone.now)
    rw [waits]
    refine ⟨made.trans ?_, idle⟩
    -- while it waits the field shows its value, which the check overwrites
    rfl

private theorem revalidate_getElem? (stem : String) {index : Nat} {row : TitleRow}
    (found : rows[index]? = some row) (entry : Option FieldState) :
    (Rule.revalidate settings rows)[index]? =
      some (LoneField.checked (rowPass stem settings rows index row) entry).outcome := by
  rw [Rule.revalidate, List.getElem?_map, List.getElem?_zipIdx, found, Option.map_some, Option.map_some,
    Nat.zero_add]
  rfl

variable {form : Form} (inStep : form.InStep) (known : form.Known) (only : form.OnlyRows stem)

include inStep known only in
/-- Of the fields that look like rows, those that are none are forgotten. -/
private theorem InStep.alone_absent {next : Form}
    (rechecked : Rechecked stem settings rows isImmediate form next) {field : String}
    (begins : BeginsWith stem field) (apart : ∀ index < rows.length, field ≠ rowField stem index) :
    next.alone field = (form.alone field).forget := by
  by_cases stale : ∃ number, rows.length ≤ number ∧ NamesRow stem field number
  · obtain ⟨number, late, names⟩ := stale
    exact rechecked.gone field number names late
  · have early : ∀ number, NamesRow stem field number → number < rows.length := by
      intro number names
      by_contra late
      exact stale ⟨number, Nat.not_lt.mp late, names⟩
    have unused : form.fields.lookup field = none := by
      by_contra used
      obtain ⟨index, -, rfl⟩ := only field used begins
      exact apart index (early index (namesRow_rowField stem index)) rfl
    exact (rechecked.others field early apart).trans (inStep.alone_unused known unused)

variable (records : Records form.listeners) (clock : form.hasClock = true)
include records clock

private theorem alone_row {next : Form} (rechecked : Rechecked stem settings rows isImmediate form next)
    (settles : rows = [] ∨ settings.SettlesWithin isImmediate durations) {index : Nat}
    (bound : index < rows.length) :
    ((next.alone (rowField stem index)).wait durations).entry =
        some (LoneField.checked (rowPass stem settings rows index rows[index])
          (form.alone (rowField stem index)).entry) ∧
      ((next.alone (rowField stem index)).wait durations).waiting = none := by
  have filled : rows ≠ [] := List.ne_nil_of_length_pos (Nat.zero_lt_of_lt bound)
  have records' : Records (form.alone (rowField stem index)).listeners := records
  rw [rechecked.own index _ (List.getElem?_eq_getElem bound)]
  exact row_settles records' clock (settles.resolve_left filled) index rows[index]

include inStep known only

private theorem InStep.settled (settles : rows = [] ∨ settings.SettlesWithin isImmediate durations)
    {outcomes : List (Option Outcome)}
    (ok : (form.validateTitles stem settings rows isImmediate).2.2 = .ok outcomes) :
    Settled stem settings rows
      ((form.validateTitles stem settings rows isImmediate).1.run (durations.map .advance)) := by
  have rechecked := inStep.rechecked records.steady known ok
  have inStep' : (form.validateTitles stem settings rows isImmediate).1.InStep :=
    inStep.perform (.titles stem settings rows isImmediate)
  generalize (form.validateTitles stem settings rows isImmediate).1 = next at rechecked inStep'
  have steady' : Steady next.listeners := rechecked.listeners ▸ records.steady
  have rests := inStep'.alone_advances steady' durations
  have absent : ∀ field, BeginsWith stem field → (∀ index < rows.length, field ≠ rowField stem index) →
      ((next.alone field).wait durations).entry = none ∧
        ((next.alone field).wait durations).waiting = none := by
    intro field begins apart
    rw [inStep.alone_absent known only rechecked begins apart]
    exact LoneField.wait_of_idle rfl durations
  constructor
  · intro field begins
    have entry := congrArg LoneField.entry (rests field)
    change (next.run (durations.map .advance)).fields.lookup field = _ at entry
    rw [entry]
    constructor
    · intro used
      by_contra none
      apply used
      refine (absent field begins ?_).1
      intro index bound same
      exact none ⟨index, bound, same⟩
    · rintro ⟨index, bound, rfl⟩ unused
      have used := (alone_row records clock rechecked settles bound).1
      exact Option.some_ne_none _ (used.symm.trans unused)
  · intro field begins
    have waiting : ((next.alone field).wait durations).waiting = none := by
      by_cases own : ∃ index < rows.length, field = rowField stem index
      · obtain ⟨index, bound, rfl⟩ := own
        exact (alone_row records clock rechecked settles bound).2
      · refine (absent field begins ?_).2
        intro index bound same
        exact own ⟨index, bound, same⟩
    rw [(inStep'.run _).isPending_alone, rests, waiting]
    rfl
  · intro index bound
    rw [state_alone, rests, (alone_row records clock rechecked settles bound).1]
    exact revalidate_getElem? stem (List.getElem?_eq_getElem bound) _

end Settled

/-- However title rows were checked before, once the quiet period of the last check has passed, all of them have
the outcome that they have when they are checked at once, and that a report on a record has for them. -/
theorem validateTitles_settles (now : Int) (before : List FormStep) (stem : String) (settings : Settings)
    (rows : List TitleRow) (isImmediate : Bool) (durations : List Int)
    (created : OnlyTitlesCreate stem (opened true now) before)
    (readable : ∀ step ∈ before, step.HasReadableRows) (few : rows.length ≤ 10 ^ Failure.digitLimit)
    (records : Records ((opened true now).run before).listeners) :
    let last := FormStep.titles stem settings rows isImmediate
    let settled := (opened true now).run (before ++ last :: durations.map .advance)
    ((∃ outcomes, (((opened true now).run before).perform last).2.2 = .ok (.outcomes outcomes)) ↔
        rows = [] ∨ settings.AcceptsTitles isImmediate) ∧
      (rows = [] ∨ settings.SettlesWithin isImmediate durations →
        Settled stem settings rows settled ∧
          ∀ record today report, record.titles.map Title.row = rows →
            Record.check settings today record = .ok report →
            ∀ index < rows.length,
              report.Gives (FieldId.title index).text (settled.state (rowField stem index)).outcome) ∧
      (∀ n : Nat, n ≤ 10 ^ 12 → settings.debounceMs = .int n → (1000 * n : Nat) ≤ durations.sum →
        settings.SettlesWithin isImmediate durations) ∧
      ∀ limits : Limits, settings = limits.settings →
        ∀ today record, ∃ report, Record.check settings today record = .ok report := by
  intro last settled
  have inStep : ((opened true now).run before).InStep := (opened_inStep true now).run before
  have known := run_known true now before
  have clock := run_hasClock true now before
  have only := (opened_onlyRows stem true now).run (opened_inStep true now) created readable
  have ends : (∃ outcomes,
      (((opened true now).run before).validateTitles stem settings rows isImmediate).2.2 = .ok outcomes) ↔
        rows = [] ∨ settings.AcceptsTitles isImmediate := by
    rw [inStep.validateTitles_ok_iff records clock]
    constructor
    · rintro ⟨accepts, -, -⟩
      exact accepts
    · intro accepts
      exact ⟨accepts, few, fun field used => only.isReadable used⟩
  refine ⟨?_, ?_, ?_, ?_⟩
  · have answer : (((opened true now).run before).perform last).2.2 =
        (((opened true now).run before).validateTitles stem settings rows isImmediate).2.2.map .outcomes := rfl
    rw [← ends, answer]
    cases (((opened true now).run before).validateTitles stem settings rows isImmediate).2.2 <;>
      simp [Except.map]
  · intro settles
    obtain ⟨outcomes, ok⟩ := ends.mpr (settles.imp id Settings.SettlesWithin.accepts)
    have rowsSettle := inStep.settled known only records clock settles ok
    have runs : settled = (((opened true now).run before).validateTitles stem settings rows isImmediate).1.run
        (durations.map .advance) := run_append _ before _
    rw [← runs] at rowsSettle
    refine ⟨rowsSettle, ?_⟩
    rintro record today report rfl checked index bound
    exact Record.check_gives_title checked index (rowsSettle.outcomes index bound)
  · intro n small whole enough
    exact Settings.settlesWithin_int small whole enough isImmediate
  · rintro limits rfl today record
    exact Record.exists_check limits today record

/-- Titles that are typed while the rows are added and taken out again: the last row repeats the second. -/
private def snowTitles : List Title :=
  [⟨"Snow", "main-title"⟩, ⟨"Firn", "subtitle"⟩, ⟨"firn", "subtitle"⟩]

private def addingRows : List FormStep :=
  [.subscribe ⟨"log", .record⟩,
    .titles "titles" .default ((snowTitles ++ snowTitles).map Title.row) false,
    .advance 100000,
    .titles "titles" .default ((snowTitles.take 1).map Title.row) true,
    .touch "doi"]

private theorem records_log {form : Form} (only : form.listeners = [⟨"log", .record⟩]) :
    Records form.listeners := by
  intro listener member
  rw [only, List.mem_singleton] at member
  rw [member]

private theorem onlyTitlesCreate_addingRows : OnlyTitlesCreate "titles" (opened true 0) addingRows := by
  refine ⟨.inr fun _ _ unused => unused, .inl rfl, .inr ?_, .inl rfl, .inr ?_, trivial⟩
  · intro field _ unused
    have records : Records ((opened true 0).run (addingRows.take 2)).listeners :=
      records_log (by decide +kernel)
    exact ((opened_inStep true 0).run (addingRows.take 2)).unused_advance
      (run_known true 0 (addingRows.take 2)) records.steady 100000 unused
  · rintro field ⟨rest, name⟩ unused
    have other : field ≠ "doi" := by
      rintro rfl
      simp at name
    change (touch _ "doi").fields.lookup field = none
    rw [touch, update, lookup_assign, if_neg other]
    exact unused

theorem validateTitles_settles_adding :
    let last := FormStep.titles "titles" .default (snowTitles.map Title.row) false
    let settled := (opened true 0).run (addingRows ++ last :: [200000, 100000].map .advance)
    OnlyTitlesCreate "titles" (opened true 0) addingRows ∧
      (∀ step ∈ addingRows, step.HasReadableRows) ∧
      Records ((opened true 0).run addingRows).listeners ∧
      Settings.SettlesWithin .default false [200000, 100000] ∧
      Settled "titles" .default (snowTitles.map Title.row) settled ∧
      settled.fields.map (fun entry => (entry.1, entry.2.outcome.map Outcome.message)) =
        [("titles.0", none), ("doi", none), ("titles.1", none),
          ("titles.2", some "This title already exists")] := by
  intro last settled
  have records : Records ((opened true 0).run addingRows).listeners := records_log (by decide +kernel)
  have few : 10 ≤ 10 ^ Failure.digitLimit := Nat.le_self_pow (by decide) 10
  have readable : ∀ step ∈ addingRows, step.HasReadableRows := by
    have six : 6 ≤ 10 ^ Failure.digitLimit := Nat.le_trans (by decide) few
    have one : 1 ≤ 10 ^ Failure.digitLimit := Nat.le_trans (by decide) few
    simp [addingRows, FormStep.HasReadableRows, snowTitles, six, one]
  have settles : Settings.SettlesWithin .default false [200000, 100000] :=
    Settings.settlesWithin_int (by decide : 300 ≤ 10 ^ 12) rfl (by decide) false
  have all := validateTitles_settles 0 addingRows "titles" .default (snowTitles.map Title.row) false
    [200000, 100000] onlyTitlesCreate_addingRows readable (Nat.le_trans (by decide) few) records
  exact ⟨onlyTitlesCreate_addingRows, readable, records, settles, (all.2.1 (.inr settles)).1, by decide +kernel⟩

end Form

end DatasetForm
