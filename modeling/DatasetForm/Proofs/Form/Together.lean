import DatasetForm.Proofs.Form.Alone

/-!
Checks that are made or put off one after the other. They come to their end exactly when a clock accepts the
interval of each of them (`InStep.validateAll_ok_iff`), and each does to its field what it does alone. The rows
of titles share one interval, that of their settings.
-/

set_option autoImplicit false
set_option relaxedAutoImplicit false

namespace DatasetForm

/-- The quiet period of the checks of title rows: it is the same for all rows. -/
def Rule.titleInterval (settings : Settings) : Except Failure Value :=
  Rule.longestQuietPeriod (Rule.titleRules 0 .null [] settings)

/-- The interval of the check can be read, and a clock accepts it. -/
def Pass.IsAccepted (pass : Pass) (isImmediate : Bool) : Prop :=
  ∃ interval, Form.delayFor pass.rules isImmediate = .ok interval ∧ Timer.Accepts interval

/-- Title rows are checked at once, or a clock accepts their quiet period. -/
def Settings.AcceptsTitles (settings : Settings) (isImmediate : Bool) : Prop :=
  isImmediate = true ∨ ∃ interval, Rule.titleInterval settings = .ok interval ∧ Timer.Accepts interval

/-- All listeners do nothing but listen. -/
def Form.Records (listeners : List Listener) : Prop :=
  ∀ listener ∈ listeners, listener.reaction = .record

namespace Form

theorem Records.steady {listeners : List Listener} (records : Records listeners) : Steady listeners := by
  intro listener member
  rw [records listener member]
  decide

section Interval

variable {settings : Settings}

theorem rowPass_isAccepted_iff (stem : String) (rows : List TitleRow) (index : Nat) (row : TitleRow)
    (isImmediate : Bool) :
    (rowPass stem settings rows index row).IsAccepted isImmediate ↔ settings.AcceptsTitles isImmediate := by
  cases isImmediate with
  | true =>
    have now : Timer.Accepts (.int 0) := .inl rfl
    exact ⟨fun _ => .inl rfl, fun _ => ⟨.int 0, rfl, now⟩⟩
  | false =>
    constructor
    · rintro ⟨interval, read, accepts⟩
      exact .inr ⟨interval, read, accepts⟩
    · rintro (immediate | ⟨interval, read, accepts⟩)
      · cases immediate
      · exact ⟨interval, read, accepts⟩

theorem titleInterval_int {n : Nat} (whole : settings.debounceMs = .int n) :
    Rule.titleInterval settings = .ok (.int n) := by
  have period : (Rule.uniqueTitle 0 [] settings.debounceMs).quietPeriod = .int n := by
    rw [whole]
    unfold Rule.quietPeriod Rule.uniqueTitle
    cases n with
    | zero => rfl
    | succ n => rfl
  have zero (rule : Rule) (none : rule.debounce = .null) : rule.quietPeriod = .int 0 := by
    rw [Rule.quietPeriod, none]
    rfl
  have last : ¬ (n : Int) < 0 := by omega
  simp only [Rule.titleInterval, Rule.titleRules, Rule.longestQuietPeriod, Rule.longestAfter, period,
    zero (Rule.mainRequired _) rfl, zero (Rule.maxLength _ _) rfl, zero (Rule.singleMain _ _) rfl,
    zero (Rule.nearLimit _ _ _) rfl, Value.compares_greater_int]
  rcases Nat.eq_zero_or_pos n with rfl | positive
  · rfl
  · simp [positive, last]

/-- Up to three decades, a clock accepts quiet periods of whole milliseconds. -/
theorem acceptsTitles_int {n : Nat} (small : n ≤ 10 ^ 12) (whole : settings.debounceMs = .int n)
    (isImmediate : Bool) : settings.AcceptsTitles isImmediate :=
  .inr ⟨.int n, titleInterval_int whole, Timer.accepts_int small⟩

end Interval

section Passes

variable {form : Form} (inStep : form.InStep) (isImmediate : Bool)
include inStep

private theorem InStep.validate_ok_iff (clock : form.hasClock = true) (pass : Pass) :
    (∃ outcome, (form.validate pass isImmediate).2.2 = .ok outcome) ↔ pass.IsAccepted isImmediate := by
  have outcome := inStep.validate_cases pass isImmediate
  generalize form.validate pass isImmediate = answer at outcome ⊢
  unfold Pass.IsAccepted
  cases outcome with
  | unread unread => simp [unread]
  | refused read refusal =>
    have refused := refusal clock
    simp [read, refused]
  | atOnce read due =>
    have accepts : Timer.Accepts _ := .inl due
    simp [read, accepts]
  | putOff read later delays =>
    have accepts : Timer.Accepts _ := .inr ⟨later, _, delays⟩
    simp [read, accepts]

/-- All checks are made or put off exactly when each of them can be. -/
theorem InStep.validateAll_ok_iff (clock : form.hasClock = true) (passes : List Pass) :
    (∃ outcomes, (form.validateAll isImmediate passes).2.2 = .ok outcomes) ↔
      ∀ pass ∈ passes, pass.IsAccepted isImmediate := by
  induction passes generalizing form with
  | nil => simp [Form.validateAll]
  | cons pass passes ih =>
    have first := inStep.validate_ok_iff isImmediate clock pass
    have clock' : (form.validate pass isImmediate).1.hasClock = true :=
      ((keeps_hasClock true).validate ⟨inStep, clock⟩ trivial).2
    have next := ih (inStep.validate pass isImmediate) clock'
    rw [List.forall_mem_cons, ← first]
    obtain ⟨after, events, failure, result, all⟩ | ⟨after, events, outcome, result, all⟩ :=
      form.validateAll_cons_cases isImmediate pass passes
    · simp [all, result]
    · rw [result] at next
      rw [all, result, ← next]
      cases (after.validateAll isImmediate passes).2.2 <;> simp [Except.map]

/-- What each of the checks keeps, all of them keep. -/
theorem InStep.validateAll_preserves {P : Form → Prop} {passes : List Pass}
    (keeps : ∀ pass ∈ passes, ∀ next : Form, next.InStep → P next → P (next.validate pass isImmediate).1)
    (holds : P form) : P (form.validateAll isImmediate passes).1 := by
  induction passes generalizing form with
  | nil => exact holds
  | cons pass passes ih =>
    obtain ⟨own, others⟩ := List.forall_mem_cons.mp keeps
    have first := own form inStep holds
    have next := ih (inStep.validate pass isImmediate) others first
    obtain ⟨after, events, failure, result, all⟩ | ⟨after, events, outcome, result, all⟩ :=
      form.validateAll_cons_cases isImmediate pass passes
    · rw [result] at first
      rw [all]
      exact first
    · rw [result] at next
      rw [all]
      exact next

variable (steady : Steady form.listeners)
include steady

/-- Checks of other fields leave a field as it is. -/
theorem InStep.alone_validateAll_other (passes : List Pass) {field : String}
    (others : ∀ pass ∈ passes, pass.field ≠ field) :
    (form.validateAll isImmediate passes).1.alone field = form.alone field := by
  have same : ∀ pass ∈ passes, ∀ next : Form, next.InStep → next.alone field = form.alone field →
      (next.validate pass isImmediate).1.alone field = form.alone field := by
    intro pass member next inStep' same
    have listeners : next.listeners = form.listeners := congrArg LoneField.listeners same
    have steady' : Steady next.listeners := listeners ▸ steady
    rw [inStep'.alone_validate steady' pass isImmediate field, if_neg (others pass member), same]
  exact inStep.validateAll_preserves isImmediate (P := fun next => next.alone field = form.alone field) same rfl

/-- Of checks that all can be made or put off, each does to its field what it does alone. -/
theorem InStep.alone_validateAll_own (passes : List Pass) (distinct : (passes.map (·.field)).Nodup)
    {outcomes : List (Option Outcome)} (ok : (form.validateAll isImmediate passes).2.2 = .ok outcomes)
    {pass : Pass} (member : pass ∈ passes) :
    (form.validateAll isImmediate passes).1.alone pass.field =
      (form.alone pass.field).validate pass isImmediate := by
  induction passes generalizing form outcomes with
  | nil => cases member
  | cons head passes ih =>
    have first := inStep.alone_validate steady head isImmediate pass.field
    have listeners := inStep.validate_listeners steady head isImmediate
    have inStep' := inStep.validate head isImmediate
    obtain ⟨fresh, distinct'⟩ := List.nodup_cons.mp distinct
    obtain ⟨after, events, failure, result, all⟩ | ⟨after, events, outcome, result, all⟩ :=
      form.validateAll_cons_cases isImmediate head passes
    · rw [all] at ok
      cases ok
    · rw [result] at first listeners inStep'
      have steady' : Steady after.listeners := listeners ▸ steady
      rw [all] at ok ⊢
      rcases List.mem_cons.mp member with rfl | later
      · have others : ∀ other ∈ passes, other.field ≠ pass.field := by
          intro other there same
          exact fresh (List.mem_map.mpr ⟨other, there, same⟩)
        rw [if_pos rfl] at first
        exact (inStep'.alone_validateAll_other isImmediate steady' passes others).trans first
      · have apart : head.field ≠ pass.field := by
          intro same
          exact fresh (List.mem_map.mpr ⟨pass, later, same.symm⟩)
        rw [if_neg apart] at first
        cases rest : (after.validateAll isImmediate passes).2.2 with
        | error failure =>
          rw [rest] at ok
          cases ok
        | ok outcomes' =>
          have next := ih inStep' steady' distinct' rest later
          rwa [first] at next

end Passes

section Lone

variable {lone : LoneField} (records : Records lone.listeners)
include records

theorem complete_of_records (pass : Pass) :
    lone.complete pass = { lone with entry := some (LoneField.checked pass lone.entry) } := by
  have unchanged : ∀ (listeners : List Listener) (entry : Option FieldState), Records listeners →
      listeners.foldl LoneField.heard entry = entry := by
    intro listeners entry records
    induction listeners with
    | nil => rfl
    | cons listener others ih =>
      obtain ⟨first, rest⟩ := List.forall_mem_cons.mp records
      have heard : LoneField.heard entry listener = entry := by rw [LoneField.heard, first]
      rw [List.foldl_cons, heard]
      exact ih rest
  rw [LoneField.complete, unchanged _ _ records]

/-- A check that is accepted is made, or it waits. -/
theorem validate_of_records {pass : Pass} {isImmediate : Bool} (clock : lone.hasClock = true)
    (accepted : pass.IsAccepted isImmediate) :
    lone.validate pass isImmediate =
        { lone with entry := some (LoneField.checked pass lone.entry), waiting := none } ∨
      ∃ interval delay, delayFor pass.rules isImmediate = .ok interval ∧ Timer.delayOf interval = .ok delay ∧
        interval.compares .lessOrEqual (.int 0) = .ok false ∧
        lone.validate pass isImmediate = lone.quiet.putOff delay pass := by
  obtain ⟨interval, read, due | ⟨later, delay, delays⟩⟩ := accepted
  · left
    have quiet : Records lone.quiet.listeners := records
    have completes := complete_of_records quiet pass
    simp only [LoneField.validate, read, LoneField.ask, due, completes]
    rfl
  · right
    have hasClock : lone.quiet.hasClock = true := clock
    refine ⟨interval, delay, read, delays, later, ?_⟩
    simp only [LoneField.validate, read, LoneField.ask, later, delays, hasClock, if_true]

end Lone

end Form

end DatasetForm
