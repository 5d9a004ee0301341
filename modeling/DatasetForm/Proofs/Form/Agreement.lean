import DatasetForm.Proofs.Form.Step

/-!
What a form shows of a field agrees with what it waits for: in every state that a run reaches, a field is
pending exactly when a check of it waits, its status agrees with its outcome, and no timer is left disposed
of, so that no check is ever refused for that reason.
-/

set_option autoImplicit false
set_option relaxedAutoImplicit false

namespace DatasetForm

/-- A clock accepts the intervals of all checks that the step asks for. -/
def FormStep.IsAccepted (step : FormStep) : Prop :=
  ∀ check ∈ step.checks, ∀ interval, Form.delayFor check.1.rules check.2 = .ok interval →
    Timer.Accepts interval

/-- The status of a field agrees with its outcome and its value, and with whether a check waits. -/
structure FieldState.Fits (state : FieldState) (isPending : Bool) : Prop where
  pending : state.status = .pending ↔ isPending = true
  invalid : state.status = .invalid → ∃ outcome, state.outcome = some outcome ∧ outcome.severity = .error
  valid : state.status = .valid →
    state.outcome = none ∨ ∃ outcome, state.outcome = some outcome ∧ outcome.severity = .warning
  idle : state.status = .idle → state.outcome = none ∧ state.value = .null

namespace Form

/-- Every field fits its timer. -/
def AllFit (form : Form) : Prop :=
  ∀ field, (form.state field).Fits (form.isPending field)

/-- A field that waits was used: one that was not is idle. -/
theorem AllFit.known {form : Form} (fit : form.AllFit) {field : String}
    (waits : form.isPending field = true) : (form.fields.lookup field).isSome = true := by
  cases found : form.fields.lookup field with
  | some state => rfl
  | none =>
    have pending := (fit field).pending.mpr waits
    simp [state, found] at pending

theorem IsBlank.fits {state : FieldState} (blank : IsBlank state) : state.Fits false := by
  refine ⟨?_, ?_, ?_, fun _ => ⟨blank.outcome, blank.value⟩⟩ <;> simp [blank.status]

theorem Shows.fits {state : FieldState} {pass : Pass} (shows : Shows state pass) : state.Fits false := by
  have status := shows.status
  have outcome := shows.outcome
  generalize Rule.evaluate pass.rules pass.value pass.context = result at status outcome
  cases result with
  | none => refine ⟨?_, ?_, fun _ => .inl outcome, ?_⟩ <;> simp [status, statusOf]
  | some found =>
    obtain ⟨severity, complaint⟩ := found
    cases severity with
    | error =>
      refine ⟨?_, fun _ => ⟨_, outcome, rfl⟩, ?_, ?_⟩ <;>
        simp [status, statusOf, Outcome.blocks]
    | warning =>
      refine ⟨?_, ?_, fun _ => .inr ⟨_, outcome, rfl⟩, ?_⟩ <;>
        simp [status, statusOf, Outcome.blocks]

section AllFit

variable {form struck done : Form} {pass : Pass}

private theorem AllFit.of_completed (fit : form.AllFit) (strikes : Struck pass.field form struck)
    (completes : Completed pass struck done) : done.AllFit := by
  intro other
  rw [isPending_eq, completes.waits, strikes.waits]
  by_cases same : other = pass.field
  · rw [if_pos same, same]
    rcases completes.shown with shows | blank
    · exact shows.fits
    · exact blank.fits
  · rw [if_neg same, completes.others other same, strikes.state, ← isPending_eq]
    exact fit other

private theorem AllFit.of_putOff (fit : form.AllFit) (strikes : Struck pass.field form struck)
    (delay : Int) : (struck.putOff delay pass).AllFit := by
  intro other
  rw [isPending_eq, putOff_waiting?, putOff_state]
  by_cases same : other = pass.field
  · rw [if_pos same, if_pos same]
    constructor <;> simp
  · rw [if_neg same, if_neg same, strikes.waits, if_neg same, ← isPending_eq, strikes.state]
    exact fit other

/-- Where nothing can wait, striking a check out changes nothing. -/
private theorem AllFit.of_struck (fit : form.AllFit) (strikes : Struck pass.field form struck)
    (idle : form.waiting? pass.field = none) : struck.AllFit := by
  intro other
  have waits : struck.waiting? other = form.waiting? other := by
    rw [strikes.waits]
    split
    next same => rw [same, idle]
    next => rfl
  rw [isPending_eq, waits, ← isPending_eq, strikes.state]
  exact fit other

private theorem InStep.waiting?_unclocked (inStep : form.InStep) (noClock : form.hasClock = false)
    (field : String) : form.waiting? field = none := by
  rw [Option.eq_none_iff_forall_ne_some]
  intro number waiting
  obtain ⟨call, member, -⟩ := (inStep.waits field number).mp waiting
  rw [inStep.unclocked noClock] at member
  cases member

end AllFit

/-- Forms with or without a clock whose timers, agenda and fields agree. -/
private structure IsSettled (hasClock : Bool) (form : Form) : Prop where
  inStep : form.InStep
  fit : form.AllFit
  clock : form.hasClock = hasClock

/-- Where there is a clock, it accepts the interval of the check. -/
private def AcceptedOn (hasClock : Bool) (pass : Pass) (isImmediate : Bool) : Prop :=
  hasClock = true → ∀ interval, delayFor pass.rules isImmediate = .ok interval → Timer.Accepts interval

private theorem IsSettled.validate {hasClock : Bool} {form : Form} (settled : IsSettled hasClock form)
    {pass : Pass} {isImmediate : Bool} (accepted : AcceptedOn hasClock pass isImmediate) :
    IsSettled hasClock (form.validate pass isImmediate).1 := by
  obtain ⟨inStep, fit, clock⟩ := settled
  refine ⟨inStep.validate pass isImmediate, ?_, ((keeps_hasClock hasClock).validate ⟨inStep, clock⟩ trivial).2⟩
  have outcome := inStep.validate_cases pass isImmediate
  generalize form.validate pass isImmediate = answer at outcome ⊢
  cases outcome with
  | unread => exact fit
  | refused read refusal _ _ strikes =>
    cases hasClock with
    | true => exact absurd (accepted rfl _ read) (refusal clock)
    | false => exact fit.of_struck strikes (inStep.waiting?_unclocked clock _)
  | atOnce _ _ strikes => exact fit.of_completed strikes (complete_completed strikes.idle strikes.undisposed)
  | putOff _ _ _ _ strikes => exact fit.of_putOff strikes _

private theorem IsSettled.fire {hasClock : Bool} {form : Form} (settled : IsSettled hasClock form)
    {target : Int} {call : Call Pass} {agenda : Agenda Pass}
    (taken : form.agenda.takeDue? target = some (call, agenda)) :
    IsSettled hasClock (form.fire call.action agenda).1 := by
  obtain ⟨inStep, fit, clock⟩ := settled
  refine ⟨inStep.fire taken, ?_, ((keeps_hasClock hasClock).fire ⟨inStep, clock⟩ taken).2⟩
  obtain ⟨struck, strikes, -, fires⟩ := inStep.fire_cases taken
  have rested : ({ form with agenda := form.agenda.rest call.due } : Form).AllFit := fit
  rw [fires]
  exact rested.of_completed strikes (complete_completed strikes.idle strikes.undisposed)

private theorem keeps_settled (hasClock : Bool) : Keeps (AcceptedOn hasClock) (IsSettled hasClock) where
  validate settled accepted := settled.validate accepted
  fire settled taken := settled.fire taken
  rest target settled := ⟨settled.inStep.rest target, settled.fit, settled.clock⟩
  touch {form} field settled := by
    refine ⟨keeps_inStep.touch field settled.inStep, fun other => ?_, settled.clock⟩
    have fits := settled.fit other
    rw [touch, state_update]
    split
    next same =>
      subst same
      exact ⟨fits.pending, fits.invalid, fits.valid, fits.idle⟩
    next => exact fits
  reset {form} field settled := by
    refine ⟨settled.inStep.reset field, fun other => ?_, settled.clock⟩
    rw [isPending_eq, reset_waiting?, reset_state]
    split
    · exact (IsBlank.mk rfl rfl rfl).fits
    · rw [← isPending_eq]
      exact settled.fit other
  resetAll settled :=
    ⟨settled.inStep.resetAll, fun _ => (IsBlank.mk rfl rfl rfl).fits, settled.clock⟩
  listen _ settled := ⟨keeps_inStep.listen _ settled.inStep, settled.fit, settled.clock⟩

section Answers

private theorem map_ne_disposed {α β : Type} {answer : Except Failure α}
    (live : answer ≠ .error .disposed) (f : α → β) : answer.map f ≠ .error .disposed := by
  cases answer with
  | error failure => simpa [Except.map] using live
  | ok a => simp [Except.map]

private theorem isStaleRow_ne_disposed (stem : String) (count : Nat) (field : String) :
    isStaleRow stem count field ≠ .error .disposed := by
  rw [isStaleRow]
  split
  · simp
  next number _ =>
    refine map_ne_disposed ?_ _
    simp only [rowNumber?]
    split
    · simp
    · split
      · simp
      · split <;> simp

private theorem sweep_answer (stem : String) (count : Nat) (form : Form) (fields : List String) :
    (sweep stem count form fields).2 ≠ .error .disposed := by
  induction fields generalizing form with
  | nil => simp [sweep]
  | cons field fields ih =>
    rw [sweep]
    split
    next failed =>
      have live := isStaleRow_ne_disposed stem count field
      rw [failed] at live
      simpa using live
    next => exact ih _

variable {form : Form} (inStep : form.InStep)
include inStep

private theorem InStep.validate_answer (pass : Pass) (isImmediate : Bool) :
    (form.validate pass isImmediate).2.2 ≠ .error .disposed := by
  have outcome := inStep.validate_cases pass isImmediate
  generalize form.validate pass isImmediate = answer at outcome ⊢
  cases outcome with
  | unread _ live => simpa using live
  | refused _ _ live _ _ => simpa using live
  | atOnce => simp
  | putOff => simp

private theorem InStep.validateAll_answer (isImmediate : Bool) (passes : List Pass) :
    (form.validateAll isImmediate passes).2.2 ≠ .error .disposed := by
  induction passes generalizing form with
  | nil => simp [Form.validateAll]
  | cons pass passes ih =>
    have first := inStep.validate_answer pass isImmediate
    have next := ih (inStep.validate pass isImmediate)
    obtain ⟨after, events, failure, result, all⟩ | ⟨after, events, outcome, result, all⟩ :=
      form.validateAll_cons_cases isImmediate pass passes
    · rw [result] at first
      rw [all]
      simpa using first
    · rw [result] at next
      rw [all]
      exact map_ne_disposed next _

private theorem InStep.validateTitles_answer (stem : String) (settings : Settings) (rows : List TitleRow)
    (isImmediate : Bool) :
    (form.validateTitles stem settings rows isImmediate).2.2 ≠ .error .disposed := by
  have all := inStep.validateAll_answer isImmediate (titlePasses stem settings rows)
  obtain ⟨next, events, failure, result, titles⟩ | ⟨next, events, outcomes, result, titles⟩ :=
    form.validateTitles_cases stem settings rows isImmediate
  · rw [titles]
    rwa [result] at all
  · rw [titles]
    have swept := sweep_answer stem rows.length next (next.fields.map (·.1))
    exact map_ne_disposed swept _

/-- No step is refused for a timer that was disposed of. -/
theorem InStep.perform_answer (step : FormStep) : (form.perform step).2.2 ≠ .error .disposed := by
  cases step with
  | validate pass isImmediate => exact map_ne_disposed (inStep.validate_answer pass isImmediate) _
  | titles stem settings rows isImmediate =>
    exact map_ne_disposed (inStep.validateTitles_answer stem settings rows isImmediate) _
  | _ => simp [Form.perform]

end Answers

/-- In every state that a run reaches, timers, statuses and outcomes of all fields agree, as long as the
clock accepts the intervals that were asked for; and whatever was asked for, no timer is left disposed of and
no step is refused for that. -/
theorem run_agrees (hasClock : Bool) (now : Int) (steps : List FormStep) :
    ((hasClock = true → ∀ step ∈ steps, step.IsAccepted) →
      ∀ field, (((opened hasClock now).run steps).state field).Fits
          (((opened hasClock now).run steps).isPending field) ∧
        (((opened hasClock now).run steps).isPending field = true →
          (((opened hasClock now).run steps).fields.lookup field).isSome = true)) ∧
    ((opened hasClock now).run steps).Undisposed ∧
    ∀ step, (((opened hasClock now).run steps).perform step).2.2 ≠ .error .disposed := by
  have inStep := (opened_inStep hasClock now).run steps
  refine ⟨?_, inStep.undisposed, inStep.perform_answer⟩
  intro accepted field
  have start : IsSettled hasClock (opened hasClock now) :=
    ⟨opened_inStep hasClock now, fun _ => (IsBlank.mk rfl rfl rfl).fits, rfl⟩
  have settled := (keeps_settled hasClock).run steps start fun step member check asked clock =>
    accepted clock step member check asked
  exact ⟨settled.fit field, fun waits => settled.fit.known waits⟩

private def restingRule : Rule :=
  { name := .text "resting", debounce := .int 300, check := fun _ _ => .ok none }

private def restingPass (title : String) : Pass :=
  { field := "title", value := .text title, rules := [restingRule], context := .null }

/-- A field is checked, forgotten by a listener, and typed into twice. -/
private def retyped : List FormStep :=
  [.subscribe ⟨"forgetful", .reset⟩, .validate (restingPass "a") true, .validate (restingPass "b") false,
    .advance 200000, .validate (restingPass "c") false]

theorem run_agrees_retyped :
    (true = true → ∀ step ∈ retyped, step.IsAccepted) ∧
      ((((opened true 0).run retyped).state "title").Fits true ∧
        ((opened true 0).run retyped).isPending "title" = true) := by
  have interval (isImmediate : Bool) {interval : Value}
      (read : delayFor [restingRule] isImmediate = .ok interval) : Timer.Accepts interval := by
    cases isImmediate with
    | true =>
      cases read
      exact .inl rfl
    | false =>
      cases read
      exact Timer.accepts_int (by decide : 300 ≤ 10 ^ 12)
  have accepted : ∀ step ∈ retyped, step.IsAccepted := by
    simp only [retyped, List.forall_mem_cons, FormStep.IsAccepted, FormStep.checks, restingPass]
    simpa using ⟨fun _ => interval true, fun _ => interval false⟩
  have pending : ((opened true 0).run retyped).isPending "title" = true := by decide +kernel
  refine ⟨fun _ => accepted, ?_, pending⟩
  rw [← pending]
  exact ((run_agrees true 0 retyped).1 (fun _ => accepted) "title").1

end Form

end DatasetForm
