import DatasetForm.Proofs.Agenda
import DatasetForm.Proofs.Form.Lookup
import DatasetForm.Proofs.Timer

/-!
The timers of a form stay in step with its agenda: a timer waits for a call exactly when the call is on the
agenda and is for the field of the timer. `Struck`, `Completed` and `ValidateCase` say once what striking a
check out, making it and asking for it do; `InStep` is kept by each of them.
-/

set_option autoImplicit false
set_option relaxedAutoImplicit false

namespace DatasetForm.Form

/-- Timers and agenda tell of the same calls, no timer was disposed of, and without a clock nothing
waits. -/
structure InStep (form : Form) : Prop where
  ordered : form.agenda.IsOrdered
  waits : ∀ field number, form.waiting? field = some number ↔
    ∃ call ∈ form.agenda.calls, call.number = number ∧ call.action.field = field
  undisposed : form.Undisposed
  unclocked : form.hasClock = false → form.agenda.calls = []

/-- The agenda without the calls for a field. -/
def agendaBeside (form : Form) (field : String) : Agenda Pass :=
  { form.agenda with calls := form.agenda.calls.filter fun call => call.action.field != field }

/-- The form once the check that waits for a field was struck out. -/
structure Struck (field : String) (form struck : Form) : Prop where
  hasClock : struck.hasClock = form.hasClock
  listeners : struck.listeners = form.listeners
  fields : struck.fields = form.fields
  agenda : struck.agenda = form.agendaBeside field
  waits : ∀ other, struck.waiting? other = if other = field then none else form.waiting? other
  undisposed : struck.Undisposed

/-- What a field shows of a check that was made. -/
structure Shows (state : FieldState) (pass : Pass) : Prop where
  status : state.status = statusOf (Rule.evaluate pass.rules pass.value pass.context)
  outcome : state.outcome = Rule.evaluate pass.rules pass.value pass.context
  value : state.value = pass.value

/-- The field shows nothing. -/
structure IsBlank (state : FieldState) : Prop where
  status : state.status = .idle
  outcome : state.outcome = none
  value : state.value = .null

/-- The form once a check was made: its field shows the check unless a listener had it forgotten. -/
structure Completed (pass : Pass) (form done : Form) : Prop where
  hasClock : done.hasClock = form.hasClock
  agenda : done.agenda = form.agenda
  waits : ∀ field, done.waiting? field = form.waiting? field
  undisposed : done.Undisposed
  others : ∀ other, other ≠ pass.field → done.state other = form.state other
  shown : Shows (done.state pass.field) pass ∨ IsBlank (done.state pass.field)

/-- The form once a check was put off. -/
def putOff (form : Form) (delay : Int) (pass : Pass) : Form :=
  ({ form with
      agenda := form.agenda.put delay pass
      timers := assign pass.field { waiting := some form.agenda.next } form.timers } : Form).update
    pass.field fun state => { state with status := .pending, value := pass.value }

/-- What asking for a check comes to. The interval cannot be read, and nothing happens; or the check that
waited is struck out, and the new one is refused, made at once or put off. -/
inductive ValidateCase (form : Form) (pass : Pass) (isImmediate : Bool) :
    Form × List FormEvent × Except Failure (Option Outcome) → Prop
  | unread {failure : Failure} (unread : delayFor pass.rules isImmediate = .error failure)
      (live : failure ≠ .disposed) : ValidateCase form pass isImmediate (form, [], .error failure)
  | refused {struck : Form} {failure : Failure} {interval : Value}
      (read : delayFor pass.rules isImmediate = .ok interval)
      (refusal : form.hasClock = true → ¬ Timer.Accepts interval) (live : failure ≠ .disposed)
      (later : interval.compares .lessOrEqual (.int 0) ≠ .ok true)
      (strikes : Struck pass.field form struck) :
      ValidateCase form pass isImmediate (struck, [], .error failure)
  | atOnce {struck : Form} {interval : Value} (read : delayFor pass.rules isImmediate = .ok interval)
      (due : interval.compares .lessOrEqual (.int 0) = .ok true)
      (strikes : Struck pass.field form struck) :
      ValidateCase form pass isImmediate
        ((struck.complete pass).1, (struck.complete pass).2.1, .ok (struck.complete pass).2.2)
  | putOff {struck : Form} {interval : Value} {delay : Int}
      (read : delayFor pass.rules isImmediate = .ok interval)
      (later : interval.compares .lessOrEqual (.int 0) = .ok false)
      (delays : Timer.delayOf interval = .ok delay) (clock : form.hasClock = true)
      (strikes : Struck pass.field form struck) :
      ValidateCase form pass isImmediate (struck.putOff delay pass, [], .ok none)

section Strike

variable {form : Form} {field : String}

private theorem InStep.waits_call (inStep : form.InStep) {call : Call Pass}
    (member : call ∈ form.agenda.calls) : form.waiting? call.action.field = some call.number :=
  (inStep.waits _ _).mpr ⟨call, member, rfl, rfl⟩

/-- On the agenda, striking out the call that a timer waits for takes all calls for its field out. -/
private theorem InStep.strike_waiting (inStep : form.InStep) {number : Nat}
    (waiting : form.waiting? field = some number) :
    form.agenda.strike number = form.agendaBeside field := by
  obtain ⟨own, ownMember, rfl, rfl⟩ := (inStep.waits _ _).mp waiting
  have same : form.agenda.calls.filter (fun call => call.number != own.number) =
      form.agenda.calls.filter fun call => call.action.field != own.action.field := by
    refine List.filter_congr fun call member => ?_
    rw [Bool.eq_iff_iff, bne_iff_ne, bne_iff_ne, not_iff_not]
    constructor
    · intro numbers
      rw [inStep.ordered.eq_of_number member ownMember numbers]
    · intro fields
      have := inStep.waits_call member
      rw [fields, waiting] at this
      exact (Option.some.inj this).symm
  rw [Agenda.strike, same, agendaBeside]

private theorem InStep.agendaBeside_idle (inStep : form.InStep) (idle : form.waiting? field = none) :
    form.agendaBeside field = form.agenda := by
  have all : form.agenda.calls.filter (fun call => call.action.field != field) = form.agenda.calls := by
    refine List.filter_eq_self.mpr fun call member => ?_
    rw [bne_iff_ne]
    rintro rfl
    rw [inStep.waits_call member] at idle
    cases idle
  rw [agendaBeside, all]

private theorem cancel_timer (timer : Timer) (agenda : Agenda Pass) :
    (timer.cancel agenda).1 = timer.fired := by
  rw [Timer.cancel]
  cases timer with
  | mk waiting isDisposed => cases waiting <;> rfl

private theorem InStep.cancel_agenda (inStep : form.InStep) {timer : Timer}
    (found : form.timers.lookup field = some timer) :
    (timer.cancel form.agenda).2 = form.agendaBeside field := by
  have waiting : form.waiting? field = timer.waiting := by rw [waiting?, found]; rfl
  rw [Timer.cancel]
  cases waits : timer.waiting with
  | none => exact (inStep.agendaBeside_idle (waiting.trans waits)).symm
  | some number => exact inStep.strike_waiting (waiting.trans waits)

theorem InStep.struck_cancel (inStep : form.InStep) (field : String) :
    Struck field form (form.cancel field) := by
  rw [cancel]
  cases found : form.timers.lookup field with
  | none =>
    have idle : form.waiting? field = none := by rw [waiting?, found]; rfl
    refine ⟨rfl, rfl, rfl, (inStep.agendaBeside_idle idle).symm, ?_, inStep.undisposed⟩
    intro other
    by_cases same : other = field
    · simp [same, idle]
    · simp [same]
  | some timer =>
    change Struck field form
      { form with
        agenda := (timer.cancel form.agenda).2
        timers := assign field (timer.cancel form.agenda).1 form.timers }
    rw [cancel_timer, inStep.cancel_agenda found]
    refine ⟨rfl, rfl, rfl, rfl, ?_, ?_⟩
    · intro other
      simp only [waiting?, lookup_assign]
      split <;> rfl
    · intro other kept lookup
      simp only [lookup_assign] at lookup
      split at lookup
      · cases lookup
        exact inStep.undisposed field timer found
      · exact inStep.undisposed other kept lookup

theorem InStep.reset_agenda (inStep : form.InStep) (field : String) :
    (form.reset field).agenda = form.agendaBeside field := by
  simp only [reset]
  cases found : form.timers.lookup field with
  | none =>
    have idle : form.waiting? field = none := by rw [waiting?, found]; rfl
    exact (inStep.agendaBeside_idle idle).symm
  | some timer => exact inStep.cancel_agenda found

/-- A timer that waits for nothing has nothing to strike out when its field is forgotten. -/
theorem reset_agenda_idle (idle : form.waiting? field = none) :
    (form.reset field).agenda = form.agenda := by
  simp only [reset]
  cases found : form.timers.lookup field with
  | none => rfl
  | some timer =>
    have waits : timer.waiting = none := by simpa [waiting?, found] using idle
    simp only [Timer.dispose, Timer.cancel, waits]

end Strike

section Kept

variable {form struck done : Form} {field : String} {pass : Pass}

theorem Struck.idle (strikes : Struck field form struck) : struck.waiting? field = none := by
  rw [strikes.waits, if_pos rfl]

theorem Struck.state (strikes : Struck field form struck) (other : String) :
    struck.state other = form.state other := by
  rw [Form.state, strikes.fields, Form.state]

theorem InStep.of_struck (inStep : form.InStep) (strikes : Struck field form struck) : struck.InStep where
  ordered := by
    rw [strikes.agenda]
    exact inStep.ordered.sublist List.filter_sublist _
  waits other number := by
    rw [strikes.waits, strikes.agenda]
    by_cases same : other = field
    · subst same
      rw [if_pos rfl]
      constructor
      · intro none
        cases none
      · rintro ⟨call, member, -, fields⟩
        exact absurd fields (bne_iff_ne.mp (List.mem_filter.mp member).2)
    · rw [if_neg same, inStep.waits]
      constructor
      · rintro ⟨call, member, numbers, rfl⟩
        exact ⟨call, List.mem_filter.mpr ⟨member, bne_iff_ne.mpr same⟩, numbers, rfl⟩
      · rintro ⟨call, member, found⟩
        exact ⟨call, (List.mem_filter.mp member).1, found⟩
  undisposed := strikes.undisposed
  unclocked noClock := by
    rw [strikes.agenda, agendaBeside, inStep.unclocked (strikes.hasClock ▸ noClock), List.filter_nil]

/-- Making a check leaves agenda and timers alone, provided that its own timer waits for nothing. -/
theorem complete_completed (idle : form.waiting? pass.field = none) (live : form.Undisposed) :
    Completed pass form (form.complete pass).1 := by
  refine notify_preserves (P := Completed pass form) ?_ ?_ ?_ _ _ _ ?_
  · intro now kept
    refine ⟨kept.hasClock, kept.agenda, kept.waits, kept.undisposed, ?_, ?_⟩
    · intro other differ
      rw [touch, state_update, if_neg differ, kept.others other differ]
    · rw [touch, state_update, if_pos rfl]
      rcases kept.shown with shows | blank
      · exact .inl ⟨shows.status, shows.outcome, shows.value⟩
      · exact .inr ⟨blank.status, blank.outcome, blank.value⟩
  · intro now kept
    have idleNow : now.waiting? pass.field = none := (kept.waits pass.field).trans idle
    refine ⟨kept.hasClock, (reset_agenda_idle idleNow).trans kept.agenda, ?_,
      kept.undisposed.reset pass.field, ?_, ?_⟩
    · intro other
      rw [reset_waiting?]
      split
      next same => rw [same, idle]
      next => exact kept.waits other
    · intro other differ
      rw [reset_state, if_neg differ, kept.others other differ]
    · rw [reset_state, if_pos rfl]
      exact .inr ⟨rfl, rfl, rfl⟩
  · intro now id kept
    exact ⟨kept.hasClock, kept.agenda, kept.waits, kept.undisposed, kept.others, kept.shown⟩
  · refine ⟨rfl, rfl, fun _ => rfl, live, ?_, ?_⟩
    · intro other differ
      rw [state_update, if_neg differ]
    · rw [state_update, if_pos rfl]
      exact .inl ⟨rfl, rfl, rfl⟩

theorem InStep.of_completed (inStep : form.InStep) (completes : Completed pass form done) :
    done.InStep where
  ordered := by
    rw [completes.agenda]
    exact inStep.ordered
  waits other number := by
    rw [completes.waits, completes.agenda]
    exact inStep.waits other number
  undisposed := completes.undisposed
  unclocked noClock := by
    rw [completes.agenda]
    exact inStep.unclocked (completes.hasClock ▸ noClock)

theorem putOff_waiting? (delay : Int) (other : String) :
    (form.putOff delay pass).waiting? other =
      if other = pass.field then some form.agenda.next else form.waiting? other := by
  simp only [putOff, update_waiting?]
  simp only [waiting?, lookup_assign]
  split <;> rfl

theorem putOff_state (delay : Int) (other : String) :
    (form.putOff delay pass).state other =
      if other = pass.field then
        { form.state pass.field with status := .pending, value := pass.value }
      else form.state other :=
  state_update _ pass.field other _

theorem InStep.of_putOff (inStep : form.InStep) (delay : Int) (idle : form.waiting? pass.field = none)
    (clock : form.hasClock = true) : (form.putOff delay pass).InStep where
  ordered := inStep.ordered.put delay pass
  waits other number := by
    rw [putOff_waiting?]
    by_cases same : other = pass.field
    · subst same
      rw [if_pos rfl]
      constructor
      · intro numbers
        exact ⟨_, Agenda.mem_insertCall.mpr (.inl rfl), Option.some.inj numbers, rfl⟩
      · rintro ⟨call, member, numbers, fields⟩
        rcases Agenda.mem_insertCall.mp member with rfl | old
        · exact congrArg some numbers
        · have waiting := inStep.waits_call old
          rw [fields, idle] at waiting
          cases waiting
    · rw [if_neg same, inStep.waits]
      constructor
      · rintro ⟨call, member, found⟩
        exact ⟨call, Agenda.mem_insertCall.mpr (.inr member), found⟩
      · rintro ⟨call, member, numbers, fields⟩
        rcases Agenda.mem_insertCall.mp member with rfl | old
        · exact absurd fields.symm same
        · exact ⟨call, old, numbers, fields⟩
  undisposed other timer found := by
    simp only [putOff, update_timers, lookup_assign] at found
    split at found
    · cases found
      rfl
    · exact inStep.undisposed other timer found
  unclocked noClock := by
    rw [putOff, update_hasClock, clock] at noClock
    cases noClock

end Kept

section Steps

variable {form : Form}

theorem Struck.assign_idle {field : String} {struck : Form} (strikes : Struck field form struck) :
    Struck field form { struck with timers := assign field {} struck.timers } := by
  refine ⟨strikes.hasClock, strikes.listeners, strikes.fields, strikes.agenda, ?_, ?_⟩
  · intro other
    simp only [waiting?, lookup_assign]
    split
    next => rfl
    next differ =>
      have := strikes.waits other
      rwa [if_neg differ] at this
  · intro other timer found
    simp only [lookup_assign] at found
    split at found
    · cases found
      rfl
    · exact strikes.undisposed other timer found

/-- The timer that a check is put off on: one that waits for nothing. -/
private theorem Struck.timer {field : String} {struck : Form} (strikes : Struck field form struck) :
    (struck.timers.lookup field).getD {} = {} := by
  have idle := strikes.idle
  rw [waiting?] at idle
  cases found : struck.timers.lookup field with
  | none => rfl
  | some timer =>
    rw [found] at idle
    have live := strikes.undisposed field timer found
    obtain ⟨waiting, isDisposed⟩ := timer
    cases idle
    cases live
    rfl

section Defer

variable {struck : Form} {pass : Pass} (strikes : Struck pass.field form struck) {interval : Value}
include strikes

theorem Struck.defer_unclocked (clock : form.hasClock = false) :
    struck.defer interval pass =
      ({ struck with timers := assign pass.field {} struck.timers }, .error .noClock) := by
  have noClock : struck.hasClock = false := strikes.hasClock.trans clock
  simp [defer, strikes.timer, Timer.schedule, Timer.cancel, noClock]

theorem Struck.defer_refused (clock : form.hasClock = true) {failure : Failure}
    (delays : Timer.delayOf interval = .error failure) :
    struck.defer interval pass =
      ({ struck with timers := assign pass.field {} struck.timers }, .error failure) := by
  have hasClock : struck.hasClock = true := strikes.hasClock.trans clock
  simp [defer, strikes.timer, Timer.schedule, Timer.cancel, hasClock, delays]

theorem Struck.defer_ok (clock : form.hasClock = true) {delay : Int}
    (delays : Timer.delayOf interval = .ok delay) :
    struck.defer interval pass = (struck.putOff delay pass, .ok ()) := by
  have hasClock : struck.hasClock = true := strikes.hasClock.trans clock
  simp [defer, strikes.timer, Timer.schedule, Timer.cancel, hasClock, delays, putOff]

end Defer

theorem InStep.validate_cases (inStep : form.InStep) (pass : Pass) (isImmediate : Bool) :
    ValidateCase form pass isImmediate (form.validate pass isImmediate) := by
  have strikes := inStep.struck_cancel pass.field
  cases read : delayFor pass.rules isImmediate with
  | error failure =>
    simp only [validate, read]
    refine .unread read ?_
    rintro rfl
    rw [delayFor] at read
    split at read
    · cases read
    · exact Rule.longestQuietPeriod_ne_disposed _ read
  | ok interval =>
    cases comparing : interval.compares .lessOrEqual (.int 0) with
    | error failure =>
      simp only [validate, read, comparing]
      refine .refused read ?_ ?_ ?_ strikes
      · simp [Timer.Accepts, comparing]
      · rintro rfl
        exact Value.compares_ne_disposed comparing
      · simp [comparing]
    | ok due =>
      cases due with
      | true =>
        simp only [validate, read, comparing]
        exact .atOnce read comparing strikes
      | false =>
        cases clock : form.hasClock with
        | false =>
          simp only [validate, read, comparing, strikes.defer_unclocked clock]
          exact .refused read (by simp [clock]) (by simp) (by simp [comparing]) strikes.assign_idle
        | true =>
          cases delays : Timer.delayOf interval with
          | error failure =>
            simp only [validate, read, comparing, strikes.defer_refused clock delays]
            refine .refused read ?_ ?_ ?_ strikes.assign_idle
            · simp [Timer.Accepts, comparing, delays]
            · rintro rfl
              exact Timer.delayOf_ne_disposed _ delays
            · simp [comparing]
          | ok delay =>
            simp only [validate, read, comparing, strikes.defer_ok clock delays]
            exact .putOff read comparing delays clock strikes

/-- Making a due call is striking it out at the time at which it is due, and making its check. -/
theorem InStep.fire_cases (inStep : form.InStep) {target : Int} {call : Call Pass}
    {agenda : Agenda Pass} (taken : form.agenda.takeDue? target = some (call, agenda)) :
    ∃ struck, Struck call.action.field { form with agenda := form.agenda.rest call.due } struck ∧
      struck.agenda = agenda ∧
      form.fire call.action agenda = ((struck.complete call.action).1, (struck.complete call.action).2.1) := by
  obtain ⟨rest, calls, -, rfl⟩ := Agenda.takeDue?_eq_some taken
  have member : call ∈ form.agenda.calls := by simp [calls]
  have waiting := inStep.waits_call member
  have left : form.agenda.calls.filter (fun other => other.action.field != call.action.field) = rest := by
    have apart := inStep.ordered.distinct
    rw [calls, List.map_cons, List.nodup_cons] at apart
    rw [calls, List.filter_cons_of_neg (by simp), List.filter_eq_self]
    intro other old
    rw [bne_iff_ne]
    intro fields
    have others := inStep.waits_call (calls ▸ List.mem_cons_of_mem call old)
    rw [fields, waiting] at others
    exact apart.1 (List.mem_map.mpr ⟨other, old, (Option.some.inj others).symm⟩)
  cases found : form.timers.lookup call.action.field with
  | none =>
    rw [waiting?, found] at waiting
    cases waiting
  | some timer =>
    refine ⟨{ form with
      agenda := { form.agenda with now := call.due, calls := rest }
      timers := assign call.action.field timer.fired form.timers }, ⟨rfl, rfl, rfl, ?_, ?_, ?_⟩, rfl, ?_⟩
    · simp only [agendaBeside, Agenda.rest, left]
    · intro other
      simp only [waiting?, lookup_assign]
      split <;> rfl
    · intro other kept lookup
      simp only [lookup_assign] at lookup
      split at lookup
      · cases lookup
        exact inStep.undisposed _ timer found
      · exact inStep.undisposed other kept lookup
    · simp only [fire, found]

private theorem dispose_agenda (timers : List (String × Timer)) (agenda : Agenda Pass) :
    timers.foldl (fun agenda entry => (entry.2.dispose agenda).2) agenda =
      { agenda with
        calls := agenda.calls.filter fun call =>
          timers.all fun entry => entry.2.waiting != some call.number } := by
  induction timers generalizing agenda with
  | nil => simp
  | cons entry rest ih =>
    obtain ⟨field, waiting, isDisposed⟩ := entry
    rw [List.foldl_cons, ih]
    cases waiting with
    | none => rfl
    | some number =>
      simp only [Timer.dispose, Timer.cancel, Agenda.strike, List.filter_filter, List.all_cons,
        Bool.and_comm, bne_comm]
      rfl

theorem InStep.resetAll_agenda (inStep : form.InStep) :
    form.resetAll.agenda = { form.agenda with calls := [] } := by
  simp only [resetAll, dispose_agenda, Agenda.mk.injEq, true_and]
  refine List.filter_eq_nil_iff.mpr fun call member => ?_
  have waiting := inStep.waits_call member
  rw [waiting?, Option.bind_eq_some_iff] at waiting
  obtain ⟨timer, found, waits⟩ := waiting
  obtain ⟨before, after, timers, -⟩ := List.lookup_eq_some_iff.mp found
  simp [timers, waits]

end Steps

end DatasetForm.Form
