import DatasetForm.Proofs.Form.Supersede
import DatasetForm.Proofs.Form.Together
import DatasetForm.Proofs.Title.RowName

/-!
What a check of all title rows leaves of each field. The rows are checked like any other field, the fields of
rows that are gone are forgotten, and the other fields stay as they are (`Rechecked`). The check ends normally
when a clock accepts the quiet period of the settings, and the names of the fields in use can be read
(`InStep.validateTitles_ok_iff`).
-/

set_option autoImplicit false
set_option relaxedAutoImplicit false

namespace DatasetForm

namespace Form

section Known

/-- A field for which a check waits is in use. -/
def Known (form : Form) : Prop :=
  ∀ field, form.fields.lookup field = none → form.waiting? field = none

private theorem known_complete {form : Form} {pass : Pass} (idle : form.waiting? pass.field = none)
    (live : form.Undisposed) (known : form.Known) : (form.complete pass).1.Known := by
  intro field unused
  rw [(complete_completed idle live).waits]
  rw [complete_lookup] at unused
  by_cases own : pass.field = field
  · rwa [← own]
  · rw [if_neg own] at unused
    exact known field unused

private theorem Struck.known {form struck : Form} {field : String} (strikes : Struck field form struck)
    (known : form.Known) : struck.Known := by
  intro other unused
  rw [strikes.waits]
  rw [strikes.fields] at unused
  split
  · rfl
  · exact known other unused

private theorem known_parts : KeepsParts Known where
  struck strikes known := strikes.known known
  complete idle live known := known_complete idle live known
  putOff := by
    intro form pass delay known field unused
    rw [putOff_waiting?]
    rw [putOff, update, lookup_assign] at unused
    by_cases own : field = pass.field
    · rw [if_pos own] at unused
      cases unused
    · rw [if_neg own] at unused ⊢
      exact known field unused
  rest _ known := known
  touch := by
    intro form field known other unused
    rw [touch, update, lookup_assign] at unused
    split at unused
    · cases unused
    · exact known other unused
  reset := by
    intro form field _ known other unused
    rw [reset_waiting?]
    split
    · rfl
    next apart =>
      rw [reset, lookup_erase, if_neg apart] at unused
      exact known other unused
  resetAll _ _ _ _ := rfl
  listen _ known := known

theorem keeps_known : Keeps (fun _ _ => True) fun form => form.InStep ∧ form.Known :=
  known_parts.keeps

private theorem opened_known (hasClock : Bool) (now : Int) : (opened hasClock now).Known := fun _ _ => rfl

theorem run_known (hasClock : Bool) (now : Int) (steps : List FormStep) :
    ((opened hasClock now).run steps).Known :=
  (keeps_known.run steps ⟨opened_inStep hasClock now, opened_known hasClock now⟩ fun _ _ _ _ => trivial).2

end Known

section Sweep

private theorem InStep.alone_sweep {form : Form} (inStep : form.InStep) (stem : String) (count : Nat)
    (fields : List String) (field : String) :
    (sweep stem count form fields).1.alone field =
      if field ∈ staleFields stem count fields then (form.alone field).forget else form.alone field := by
  induction fields generalizing form with
  | nil => rfl
  | cons name fields ih =>
    rw [sweep, staleFields]
    cases isStaleRow stem count name with
    | error failure => rfl
    | ok stale =>
      cases stale with
      | false => exact ih inStep
      | true =>
        have next := ih (inStep.reset name)
        rw [inStep.alone_reset] at next
        refine next.trans ?_
        by_cases own : name = field
        · subst own
          rw [if_pos rfl, if_pos (List.mem_cons_self ..)]
          exact ite_self _
        · simp only [if_neg own, List.mem_cons, Ne.symm own, false_or]

private theorem mem_staleFields {stem : String} (count : Nat) {fields : List String}
    (readable : ∀ field ∈ fields, IsReadable stem field) (field : String) :
    field ∈ staleFields stem count fields ↔
      field ∈ fields ∧ ∃ number, count ≤ number ∧ NamesRow stem field number := by
  induction fields with
  | nil => simp [staleFields]
  | cons name fields ih =>
    obtain ⟨first, rest⟩ := List.forall_mem_cons.mp readable
    obtain ⟨stale, read, meaning⟩ := isStaleRow_ok first count
    rw [staleFields, read]
    cases stale with
    | true =>
      have names := meaning.mp rfl
      simp only [List.mem_cons, ih rest]
      constructor
      · rintro (rfl | ⟨member, stale⟩)
        · exact ⟨.inl rfl, names⟩
        · exact ⟨.inr member, stale⟩
      · rintro ⟨rfl | member, stale⟩
        · exact .inl rfl
        · exact .inr ⟨member, stale⟩
    | false =>
      have keeps : ¬ ∃ number, count ≤ number ∧ NamesRow stem name number := fun names =>
        Bool.false_ne_true (meaning.mpr names)
      simp only [List.mem_cons, ih rest]
      constructor
      · rintro ⟨member, stale⟩
        exact ⟨.inr member, stale⟩
      · rintro ⟨rfl | member, stale⟩
        · exact absurd stale keeps
        · exact ⟨member, stale⟩

private theorem sweep_ok_iff (stem : String) (count : Nat) (form : Form) (fields : List String) :
    (sweep stem count form fields).2 = .ok () ↔ ∀ field ∈ fields, IsReadable stem field := by
  induction fields generalizing form with
  | nil => simp [sweep]
  | cons name fields ih =>
    rw [sweep, List.forall_mem_cons]
    cases read : isStaleRow stem count name with
    | error failure =>
      have unreadable : ¬ IsReadable stem name := by
        intro readable
        obtain ⟨stale, found, -⟩ := isStaleRow_ok readable count
        rw [read] at found
        cases found
      simp [unreadable]
    | ok stale =>
      have readable := isReadable_of_ok read
      simpa [readable] using ih _

end Sweep

section Titles

variable {stem : String} {settings : Settings} {rows : List TitleRow}

theorem mem_titlePasses {pass : Pass} :
    pass ∈ titlePasses stem settings rows ↔
      ∃ index row, rows[index]? = some row ∧ pass = rowPass stem settings rows index row := by
  rw [titlePasses, List.mem_map]
  constructor
  · rintro ⟨⟨row, index⟩, member, rfl⟩
    exact ⟨index, row, List.mem_zipIdx_iff_getElem?.mp member, rfl⟩
  · rintro ⟨index, row, found, rfl⟩
    exact ⟨(row, index), List.mem_zipIdx_iff_getElem?.mpr found, rfl⟩

private theorem nodup_titlePasses : ((titlePasses stem settings rows).map (·.field)).Nodup := by
  have fields : (titlePasses stem settings rows).map (·.field) =
      (List.range rows.length).map (rowField stem) := by
    rw [titlePasses, List.map_map, List.range_eq_range', ← List.zipIdx_map_snd 0 rows, List.map_map]
    rfl
  rw [fields]
  exact List.nodup_range.map (rowField_injective stem)

/-- What a check of all title rows leaves of each field. -/
structure Rechecked (stem : String) (settings : Settings) (rows : List TitleRow) (isImmediate : Bool)
    (form next : Form) : Prop where
  own : ∀ index row, rows[index]? = some row →
    next.alone (rowField stem index) =
      (form.alone (rowField stem index)).validate (rowPass stem settings rows index row) isImmediate
  gone : ∀ field number, NamesRow stem field number → rows.length ≤ number →
    next.alone field = (form.alone field).forget
  others : ∀ field, (∀ number, NamesRow stem field number → number < rows.length) →
    (∀ index < rows.length, field ≠ rowField stem index) → next.alone field = form.alone field

private theorem field_titlePasses {pass : Pass} (member : pass ∈ titlePasses stem settings rows) :
    ∃ index < rows.length, pass.field = rowField stem index := by
  obtain ⟨index, row, found, rfl⟩ := mem_titlePasses.mp member
  obtain ⟨bound, -⟩ := List.getElem?_eq_some_iff.mp found
  exact ⟨index, bound, rfl⟩

variable {form : Form} (inStep : form.InStep) {isImmediate : Bool}
include inStep

/-- A field that is not in use is already forgotten. -/
theorem InStep.alone_unused (known : form.Known) {field : String}
    (unused : form.fields.lookup field = none) : form.alone field = (form.alone field).forget := by
  have idle : form.isPending field = false := by rw [isPending_eq, known field unused, Option.isSome_none]
  rw [inStep.isPending_alone, Option.isSome_eq_false_iff, Option.isNone_iff_eq_none] at idle
  have waiting : form.nextCheck? field = none := idle
  rw [alone, unused, waiting]
  rfl

variable (steady : Steady form.listeners)
include steady

omit steady in
/-- Once the checks were made, the fields of rows that are gone are forgotten, and no others. -/
private theorem InStep.alone_validateTitles {outcomes : List (Option Outcome)}
    (ok : (form.validateTitles stem settings rows isImmediate).2.2 = .ok outcomes) :
    ∃ next events checked,
      form.validateAll isImmediate (titlePasses stem settings rows) = (next, events, .ok checked) ∧
      ∀ field,
        ((next.fields.lookup field ≠ none ∧ ∃ number, rows.length ≤ number ∧ NamesRow stem field number) →
          (form.validateTitles stem settings rows isImmediate).1.alone field = (next.alone field).forget) ∧
        (¬ (next.fields.lookup field ≠ none ∧ ∃ number, rows.length ≤ number ∧ NamesRow stem field number) →
          (form.validateTitles stem settings rows isImmediate).1.alone field = next.alone field) := by
  have inStep' := inStep.validateAll isImmediate (titlePasses stem settings rows)
  obtain ⟨next, events, failure, result, titles⟩ | ⟨next, events, checked, result, titles⟩ :=
    form.validateTitles_cases stem settings rows isImmediate
  · rw [titles] at ok
    cases ok
  · rw [titles] at ok ⊢
    rw [result] at inStep'
    have ended : (sweep stem rows.length next (next.fields.map (·.1))).2 = .ok () := by
      cases swept : (sweep stem rows.length next (next.fields.map (·.1))).2 with
      | error failure =>
        rw [swept] at ok
        cases ok
      | ok => rfl
    refine ⟨next, events, checked, result, fun field => ?_⟩
    have stale := mem_staleFields rows.length ((sweep_ok_iff _ _ _ _).mp ended) field
    rw [mem_names_iff] at stale
    have swept := inStep'.alone_sweep stem rows.length (next.fields.map (·.1)) field
    constructor
    · intro gone
      exact swept.trans (if_pos (stale.mpr gone))
    · intro stays
      exact swept.trans (if_neg fun member => stays (stale.mp member))

theorem InStep.rechecked (known : form.Known) {outcomes : List (Option Outcome)}
    (ok : (form.validateTitles stem settings rows isImmediate).2.2 = .ok outcomes) :
    Rechecked stem settings rows isImmediate form
      (form.validateTitles stem settings rows isImmediate).1 := by
  have own := @InStep.alone_validateAll_own form inStep isImmediate steady
    (titlePasses stem settings rows) nodup_titlePasses
  have other := @InStep.alone_validateAll_other form inStep isImmediate steady
    (titlePasses stem settings rows)
  obtain ⟨next, events, checked, result, swept⟩ := inStep.alone_validateTitles ok
  rw [result] at own other
  have beside : ∀ field, (∀ index < rows.length, field ≠ rowField stem index) →
      next.alone field = form.alone field := by
    intro field apart
    refine other fun pass member same => ?_
    obtain ⟨index, bound, name⟩ := field_titlePasses member
    exact apart index bound (same.symm.trans name)
  constructor
  · intro index row found
    obtain ⟨bound, -⟩ := List.getElem?_eq_some_iff.mp found
    refine ((swept _).2 ?_).trans (own rfl (mem_titlePasses.mpr ⟨index, row, found, rfl⟩))
    rintro ⟨-, number, late, names⟩
    have same := names.unique (namesRow_rowField stem index)
    omega
  · intro field number names late
    have same : next.alone field = form.alone field := by
      apply beside
      rintro index bound rfl
      have same := names.unique (namesRow_rowField stem index)
      omega
    by_cases used : next.fields.lookup field = none
    · have unused : form.fields.lookup field = none := (congrArg LoneField.entry same).symm.trans used
      rw [(swept field).2 fun stale => stale.1 used, same]
      exact inStep.alone_unused known unused
    · rw [(swept field).1 ⟨used, number, late, names⟩, same]
  · intro field early apart
    refine ((swept field).2 ?_).trans (beside field apart)
    rintro ⟨-, number, late, names⟩
    have := early number names
    omega

end Titles

theorem Rechecked.listeners {stem : String} {settings : Settings} {rows : List TitleRow} {isImmediate : Bool}
    {form next : Form} (rechecked : Rechecked stem settings rows isImmediate form next) :
    next.listeners = form.listeners := by
  have beside : next.alone stem = form.alone stem := by
    apply rechecked.others
    · intro number names
      exact absurd names.beginsWith (not_beginsWith_self stem)
    · intro index _ same
      have begins := beginsWith_rowField stem index
      rw [← same] at begins
      exact not_beginsWith_self stem begins
  exact congrArg LoneField.listeners beside

section Ending

variable {form : Form} (inStep : form.InStep) (records : Records form.listeners)
  (clock : form.hasClock = true) {stem : String} {settings : Settings} {rows : List TitleRow}
  {isImmediate : Bool}

private theorem titlePasses_accepted_iff :
    (∀ pass ∈ titlePasses stem settings rows, pass.IsAccepted isImmediate) ↔
      rows = [] ∨ settings.AcceptsTitles isImmediate := by
  constructor
  · intro accepted
    cases rows with
    | nil => exact .inl rfl
    | cons row rows =>
      have first := accepted _ (mem_titlePasses.mpr ⟨0, row, rfl, rfl⟩)
      exact .inr ((rowPass_isAccepted_iff ..).mp first)
  · rintro (rfl | accepts) pass member
    · cases member
    · obtain ⟨index, row, -, rfl⟩ := mem_titlePasses.mp member
      exact (rowPass_isAccepted_iff ..).mpr accepts

include records clock

/-- A check that is accepted leaves its field in use, with its value. -/
theorem used_of_accepted {pass : Pass} (accepted : pass.IsAccepted isImmediate) :
    ∃ state, ((form.alone pass.field).validate pass isImmediate).entry = some state ∧
      state.value = pass.value := by
  have records' : Records (form.alone pass.field).listeners := records
  rcases validate_of_records records' clock accepted with made | ⟨interval, delay, -, -, -, waits⟩
  · rw [made]
    exact ⟨_, rfl, rfl⟩
  · rw [waits]
    exact ⟨_, rfl, rfl⟩

include inStep

/-- Once all rows were checked, the fields in use are those of before and those of the rows. -/
private theorem InStep.used_validateAll {outcomes : List (Option Outcome)}
    (ok : (form.validateAll isImmediate (titlePasses stem settings rows)).2.2 = .ok outcomes)
    (field : String) :
    (form.validateAll isImmediate (titlePasses stem settings rows)).1.fields.lookup field ≠ none ↔
      form.fields.lookup field ≠ none ∨ ∃ index < rows.length, field = rowField stem index := by
  have accepted := (inStep.validateAll_ok_iff isImmediate clock _).mp ⟨outcomes, ok⟩
  by_cases row : ∃ index < rows.length, field = rowField stem index
  · obtain ⟨index, bound, rfl⟩ := row
    have member : rowPass stem settings rows index rows[index] ∈ titlePasses stem settings rows :=
      mem_titlePasses.mpr ⟨index, rows[index], List.getElem?_eq_getElem bound, rfl⟩
    obtain ⟨state, used, -⟩ := used_of_accepted records clock (accepted _ member)
    have own := inStep.alone_validateAll_own isImmediate records.steady _ nodup_titlePasses ok member
    have entry := (congrArg LoneField.entry own).trans used
    constructor
    · intro _
      exact .inr ⟨index, bound, rfl⟩
    · intro _ unused
      exact Option.some_ne_none state (entry.symm.trans unused)
  · have others : ∀ pass ∈ titlePasses stem settings rows, pass.field ≠ field := by
      intro pass member own
      obtain ⟨index, bound, name⟩ := field_titlePasses member
      exact row ⟨index, bound, own.symm.trans name⟩
    have same := inStep.alone_validateAll_other isImmediate records.steady _ others
    have entry := congrArg LoneField.entry same
    change _ = form.fields.lookup field at entry
    rw [or_iff_left row, ← entry]
    rfl

/-- When a check of all title rows ends normally. -/
theorem InStep.validateTitles_ok_iff :
    (∃ outcomes, (form.validateTitles stem settings rows isImmediate).2.2 = .ok outcomes) ↔
      (rows = [] ∨ settings.AcceptsTitles isImmediate) ∧ rows.length ≤ 10 ^ Failure.digitLimit ∧
        ∀ field, form.fields.lookup field ≠ none → IsReadable stem field := by
  have accepted := inStep.validateAll_ok_iff isImmediate clock (titlePasses stem settings rows)
  rw [titlePasses_accepted_iff] at accepted
  have used := @InStep.used_validateAll form inStep records clock stem settings rows isImmediate
  have numbered : (∀ index < rows.length, IsReadable stem (rowField stem index)) ↔
      rows.length ≤ 10 ^ Failure.digitLimit := by
    simp only [isReadable_rowField]
    constructor
    · intro small
      by_contra many
      exact Nat.lt_irrefl _ (small _ (Nat.not_le.mp many))
    · intro few index bound
      exact Nat.lt_of_lt_of_le bound few
  obtain ⟨next, events, failure, result, titles⟩ | ⟨next, events, checked, result, titles⟩ :=
    form.validateTitles_cases stem settings rows isImmediate
  · rw [← accepted, result, titles]
    simp
  · rw [result] at used
    have ended : (∃ outcomes, (form.validateTitles stem settings rows isImmediate).2.2 = .ok outcomes) ↔
        (sweep stem rows.length next (next.fields.map (·.1))).2 = .ok () := by
      rw [titles]
      cases (sweep stem rows.length next (next.fields.map (·.1))).2 <;> simp [Except.map]
    have all : ∃ outcomes, (form.validateAll isImmediate (titlePasses stem settings rows)).2.2 = .ok outcomes :=
      ⟨checked, by rw [result]⟩
    rw [ended, sweep_ok_iff, and_iff_right (accepted.mp all), ← numbered]
    simp only [mem_names_iff, used rfl]
    constructor
    · intro readable
      exact ⟨fun index bound => readable _ (.inr ⟨index, bound, rfl⟩), fun field used =>
        readable field (.inl used)⟩
    · rintro ⟨ofRows, others⟩ field (used | ⟨index, bound, rfl⟩)
      · exact others field used
      · exact ofRows index bound

end Ending

end Form

end DatasetForm
