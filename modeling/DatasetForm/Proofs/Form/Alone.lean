import DatasetForm.Proofs.Form.Step

/-!
A field by itself. All fields of a form share one agenda and the same listeners, and yet a step does to a field
what it does to the field alone (`InStep.alone_perform`), as long as no listener takes its subscription out.
-/

set_option autoImplicit false
set_option relaxedAutoImplicit false

namespace DatasetForm

/-- A field alone with its clock and the listeners: what is known about it, if it was used, and the check of
it that waits, with the time at which it is due. -/
structure LoneField where
  hasClock : Bool
  now : Int
  listeners : List Listener
  entry : Option FieldState := none
  waiting : Option (Int × Pass) := none

namespace FormStep

/-- Is the step anything but a check of all title rows? What that does to one field hangs on the names of the
others. -/
def IsPlain : FormStep → Prop
  | .titles .. => False
  | .subscribe listener => listener.reaction ≠ .unsubscribe
  | _ => True

/-- Is the step about the field, or about the form as a whole? -/
def concerns (field : String) : FormStep → Bool
  | .validate pass _ => pass.field == field
  | .touch other | .reset other => other == field
  | _ => true

end FormStep

namespace LoneField

/-- What is known about the field once a listener has heard of a check of it. -/
def heard (entry : Option FieldState) (listener : Listener) : Option FieldState :=
  match listener.reaction with
  | .record | .raise | .unsubscribe => entry
  | .touch => some { entry.getD {} with isTouched := true }
  | .reset => none

/-- What is known about the field when its check was made, before the listeners hear of it. -/
def checked (pass : Pass) (entry : Option FieldState) : FieldState :=
  { entry.getD {} with
    status := Form.statusOf (Rule.evaluate pass.rules pass.value pass.context)
    outcome := Rule.evaluate pass.rules pass.value pass.context
    value := pass.value }

/-- Check the field now. -/
def complete (lone : LoneField) (pass : Pass) : LoneField :=
  { lone with entry := lone.listeners.foldl heard (some (checked pass lone.entry)) }

/-- Strike the waiting check out. -/
def quiet (lone : LoneField) : LoneField :=
  { lone with waiting := none }

/-- Put a check off. -/
def putOff (lone : LoneField) (delay : Int) (pass : Pass) : LoneField :=
  { lone with
    entry := some { lone.entry.getD {} with status := .pending, value := pass.value }
    waiting := some (lone.now + delay, pass) }

/-- Check the field now or, if there is an interval that a clock accepts, later. -/
def ask (lone : LoneField) (interval : Value) (pass : Pass) : LoneField :=
  match interval.compares .lessOrEqual (.int 0) with
  | .error _ => lone
  | .ok true => lone.complete pass
  | .ok false =>
    match Timer.delayOf interval with
    | .error _ => lone
    | .ok delay => if lone.hasClock then lone.putOff delay pass else lone

/-- A check that waited is struck out by the next one, unless the interval of that cannot be read. -/
def validate (lone : LoneField) (pass : Pass) (isImmediate : Bool) : LoneField :=
  match Form.delayFor pass.rules isImmediate with
  | .error _ => lone
  | .ok interval => lone.quiet.ask interval pass

theorem validate_listeners (lone : LoneField) (pass : Pass) (isImmediate : Bool) :
    (lone.validate pass isImmediate).listeners = lone.listeners := by
  unfold validate
  cases Form.delayFor pass.rules isImmediate with
  | error failure => rfl
  | ok interval =>
    change (lone.quiet.ask interval pass).listeners = lone.quiet.listeners
    unfold ask
    split
    · rfl
    · rfl
    · split
      · rfl
      · split <;> rfl

def touch (lone : LoneField) : LoneField :=
  { lone with entry := some { lone.entry.getD {} with isTouched := true } }

def forget (lone : LoneField) : LoneField :=
  { lone with entry := none, waiting := none }

/-- Let the clock go on to a time, and make the check that waits if it is due by then. -/
def arrive (lone : LoneField) (target : Int) : LoneField :=
  match lone.waiting with
  | none => { lone with now := target }
  | some (due, pass) =>
    if due ≤ target then { lone.quiet.complete pass with now := target } else { lone with now := target }

theorem arrive_now (lone : LoneField) (time target : Int) :
    ({ lone with now := time } : LoneField).arrive target = lone.arrive target := by
  unfold arrive
  cases lone.waiting with
  | none => rfl
  | some check => rfl

/-- Take a step, where the field goes by a name. -/
def perform (name : String) (lone : LoneField) : FormStep → LoneField
  | .validate pass isImmediate => if pass.field = name then lone.validate pass isImmediate else lone
  | .touch field => if field = name then lone.touch else lone
  | .reset field => if field = name then lone.forget else lone
  | .resetAll => lone.forget
  | .subscribe listener => { lone with listeners := lone.listeners ++ [listener] }
  | .unsubscribe id => { lone with listeners := lone.listeners.eraseP fun listener => listener.id == id }
  | .exit | .dispose => { lone.forget with listeners := [] }
  | .advance duration => lone.arrive (lone.now + duration)
  | .titles .. | .look _ | .enter => lone

theorem perform_eq_self {name : String} {step : FormStep} (other : step.concerns name = false)
    (lone : LoneField) : lone.perform name step = lone := by
  cases step with
  | validate pass isImmediate => exact if_neg (beq_eq_false_iff_ne.mp other)
  | touch field => exact if_neg (beq_eq_false_iff_ne.mp other)
  | reset field => exact if_neg (beq_eq_false_iff_ne.mp other)
  | _ => cases other

end LoneField

namespace Form

/-- The check that waits for a field, with the time at which it is due. -/
def nextCheck? (form : Form) (field : String) : Option (Int × Pass) :=
  (form.agenda.calls.find? fun call => call.action.field == field).map fun call => (call.due, call.action)

/-- A field of a form, by itself. -/
def alone (form : Form) (field : String) : LoneField :=
  { hasClock := form.hasClock
    now := form.agenda.now
    listeners := form.listeners
    entry := form.fields.lookup field
    waiting := form.nextCheck? field }

/-- No listener takes its own subscription out. -/
def Steady (listeners : List Listener) : Prop :=
  ∀ listener ∈ listeners, listener.reaction ≠ .unsubscribe

theorem state_alone (form : Form) (field : String) : form.state field = (form.alone field).entry.getD {} := rfl

theorem InStep.isPending_alone {form : Form} (inStep : form.InStep) (field : String) :
    form.isPending field = (form.alone field).waiting.isSome := by
  have found : (form.waiting? field).isSome = true ↔ (form.nextCheck? field).isSome = true := by
    rw [nextCheck?, Option.isSome_map, List.find?_isSome, Option.isSome_iff_exists]
    constructor
    · rintro ⟨number, waiting⟩
      obtain ⟨call, member, -, own⟩ := (inStep.waits field number).mp waiting
      exact ⟨call, member, beq_iff_eq.mpr own⟩
    · rintro ⟨call, member, own⟩
      exact ⟨call.number, (inStep.waits field call.number).mpr ⟨call, member, rfl, beq_iff_eq.mp own⟩⟩
  rw [isPending_eq]
  exact Bool.eq_iff_iff.mpr found

section Agenda

variable {form struck : Form} {field : String}

private theorem nextCheck?_beside (left : struck.agenda = form.agendaBeside field) (other : String) :
    struck.nextCheck? other = if other = field then none else form.nextCheck? other := by
  rw [nextCheck?, left, agendaBeside, List.find?_filter]
  split
  next same =>
    subst same
    have gone : (form.agenda.calls.find? fun call =>
        decide ((call.action.field != other) = true ∧ (call.action.field == other) = true)) = none := by
      rw [List.find?_eq_none]
      intro call _
      simp
    rw [gone, Option.map_none]
  next differ =>
    rw [nextCheck?]
    congr 2
    funext call
    by_cases own : call.action.field = other
    · have apart : call.action.field ≠ field := fun same => differ (own.symm.trans same)
      simp [own, differ]
    · simp [own]

private theorem find?_insertCall (p : Call Pass → Bool) (call : Call Pass) (calls : List (Call Pass))
    (none : p call = true → calls.find? p = none) :
    (Agenda.insertCall call calls).find? p = if p call then some call else calls.find? p := by
  induction calls with
  | nil => by_cases own : p call = true <;> simp [Agenda.insertCall, own]
  | cons other rest ih =>
    rw [Agenda.insertCall]
    split
    · by_cases own : p call = true
      · have absent := none own
        rw [List.find?_cons] at absent
        split at absent
        · cases absent
        next differ =>
          rw [List.find?_cons, differ, ih fun _ => absent, if_pos own, if_pos own]
      · rw [if_neg own, List.find?_cons, List.find?_cons, ih fun same => absurd same own, if_neg own]
    · by_cases own : p call = true <;> simp [List.find?_cons, own]

private theorem nextCheck?_putOff {pass : Pass} (idle : form.nextCheck? pass.field = none) (delay : Int)
    (other : String) :
    (form.putOff delay pass).nextCheck? other =
      if pass.field = other then some (form.agenda.now + delay, pass) else form.nextCheck? other := by
  rw [nextCheck?, putOff, update_agenda, Agenda.put, find?_insertCall]
  · by_cases own : pass.field = other
    · simp [own]
    · simp [own, nextCheck?]
  · intro own
    rw [← beq_iff_eq.mp own]
    rwa [nextCheck?, Option.map_eq_none_iff] at idle

theorem alone_putOff {pass : Pass} (idle : form.nextCheck? pass.field = none) (delay : Int)
    (other : String) :
    (form.putOff delay pass).alone other =
      if pass.field = other then (form.alone other).putOff delay pass else form.alone other := by
  have waiting := nextCheck?_putOff idle delay other
  rw [alone, waiting]
  by_cases own : pass.field = other
  · subst own
    simp [putOff, update, alone, LoneField.putOff, state]
    rfl
  · simp [putOff, update, alone, own, Ne.symm own]
    rfl

theorem Struck.alone (strikes : Struck field form struck) (other : String) :
    struck.alone other = if field = other then (form.alone other).quiet else form.alone other := by
  have waiting := nextCheck?_beside strikes.agenda other
  have now : struck.agenda.now = form.agenda.now := by rw [strikes.agenda]; rfl
  rw [Form.alone, strikes.hasClock, strikes.listeners, strikes.fields, waiting, now]
  by_cases own : field = other
  · rw [if_pos own, if_pos own.symm]
    rfl
  · rw [if_neg own, if_neg (Ne.symm own)]
    rfl

end Agenda

section Complete

variable {form : Form} {pass : Pass}

/-- What listeners leave of a field is what each of them leaves, one after the other. -/
theorem notify_lookup (field : String) (status : Status) (outcome : Option Outcome) (form : Form)
    (listeners : List Listener) (other : String) :
    (notify field status outcome form listeners).1.fields.lookup other =
      if field = other then listeners.foldl LoneField.heard (form.fields.lookup other)
      else form.fields.lookup other := by
  induction listeners generalizing form with
  | nil => exact (ite_self _).symm
  | cons listener others ih =>
    have reacted : (form.react field listener).fields.lookup other =
        if field = other then LoneField.heard (form.fields.lookup other) listener
        else form.fields.lookup other := by
      unfold react LoneField.heard
      by_cases own : field = other
      · subst own
        cases listener.reaction <;> simp [unsubscribe, touch, update, reset, state]
      · have apart : other ≠ field := Ne.symm own
        cases listener.reaction <;> simp [unsubscribe, touch, update, reset, own, apart]
    rw [notify, ih, reacted, List.foldl_cons]
    by_cases own : field = other
    · rw [if_pos own, if_pos own, if_pos own]
    · rw [if_neg own, if_neg own, if_neg own]

private theorem notify_listeners (field : String) (status : Status) (outcome : Option Outcome) (form : Form)
    (listeners : List Listener) (steady : Steady listeners) :
    (notify field status outcome form listeners).1.listeners = form.listeners := by
  induction listeners generalizing form with
  | nil => rfl
  | cons listener others ih =>
    have stays : (form.react field listener).listeners = form.listeners := by
      have keeps := steady listener (List.mem_cons_self ..)
      unfold react
      cases reaction : listener.reaction with
      | unsubscribe => exact absurd reaction keeps
      | _ => rfl
    rw [notify, ih _ fun next member => steady next (List.mem_cons_of_mem listener member), stays]

/-- The check that is made is one of its own field only. -/
theorem complete_lookup (form : Form) (pass : Pass) (field : String) :
    (form.complete pass).1.fields.lookup field =
      if pass.field = field then
        form.listeners.foldl LoneField.heard (some (LoneField.checked pass (form.fields.lookup field)))
      else form.fields.lookup field := by
  refine (notify_lookup pass.field _ _ _ _ field).trans ?_
  by_cases own : pass.field = field
  · subst own
    simp [update, state, LoneField.checked]
  · simp [update, own, Ne.symm own]

theorem alone_complete (idle : form.waiting? pass.field = none) (live : form.Undisposed)
    (steady : Steady form.listeners) (field : String) :
    (form.complete pass).1.alone field =
      if pass.field = field then (form.alone field).complete pass else form.alone field := by
  have completes := complete_completed idle live
  have listeners : (form.complete pass).1.listeners = form.listeners :=
    notify_listeners pass.field _ _ _ _ steady
  rw [alone, completes.hasClock, listeners, complete_lookup, nextCheck?, completes.agenda]
  by_cases own : pass.field = field
  · rw [if_pos own, if_pos own]
    rfl
  · rw [if_neg own, if_neg own]
    rfl

end Complete

section Perform

variable {form : Form} (inStep : form.InStep) (steady : Steady form.listeners)
include inStep

theorem InStep.alone_reset (name field : String) :
    (form.reset name).alone field =
      if name = field then (form.alone field).forget else form.alone field := by
  rw [(inStep.struck_reset name).alone]
  by_cases own : name = field
  · rw [if_pos own, if_pos own]
    simp [alone, LoneField.quiet, LoneField.forget, own]
  · rw [if_neg own, if_neg own]
    simp [alone, Ne.symm own]
    rfl

private theorem InStep.alone_resetAll (field : String) :
    form.resetAll.alone field = (form.alone field).forget := by
  rw [alone, nextCheck?, inStep.resetAll_agenda]
  rfl

include steady

theorem InStep.alone_validate (pass : Pass) (isImmediate : Bool) (field : String) :
    (form.validate pass isImmediate).1.alone field =
      if pass.field = field then (form.alone field).validate pass isImmediate else form.alone field := by
  have outcome := inStep.validate_cases pass isImmediate
  generalize form.validate pass isImmediate = answer at outcome ⊢
  cases outcome with
  | unread unread => simp only [LoneField.validate, unread, ite_self]
  | @refused _ _ interval read refusal _ later strikes =>
    have refused : (form.alone field).quiet.ask interval pass = (form.alone field).quiet := by
      unfold LoneField.ask
      cases comparing : interval.compares .lessOrEqual (.int 0) with
      | error failure => rfl
      | ok due =>
        cases due with
        | true => exact absurd comparing later
        | false =>
          cases delays : Timer.delayOf interval with
          | error failure => rfl
          | ok delay =>
            apply if_neg
            intro clock
            exact refusal clock (.inr ⟨comparing, delay, delays⟩)
    simp only [strikes.alone, LoneField.validate, read, refused]
  | @atOnce _ interval read due strikes =>
    have steady' : Steady _ := strikes.listeners ▸ steady
    rw [alone_complete strikes.idle strikes.undisposed steady', strikes.alone]
    by_cases own : pass.field = field
    · simp only [own, if_true, LoneField.validate, read, LoneField.ask, due]
    · simp only [own, if_false]
  | @putOff struck interval delay read later delays clock strikes =>
    have idle : struck.nextCheck? pass.field = none := by
      rw [nextCheck?_beside strikes.agenda, if_pos rfl]
    rw [alone_putOff idle, strikes.alone]
    by_cases own : pass.field = field
    · have hasClock : (form.alone field).quiet.hasClock = true := clock
      simp only [own, if_true, LoneField.validate, read, LoneField.ask, later, delays, hasClock]
    · simp only [own, if_false]

private theorem InStep.alone_fire {target : Int} {call : Call Pass} {agenda : Agenda Pass}
    (taken : form.agenda.takeDue? target = some (call, agenda)) (field : String) :
    (form.fire call.action agenda).1.alone field =
      if call.action.field = field then { (form.alone field).quiet.complete call.action with now := call.due }
      else { form.alone field with now := call.due } := by
  obtain ⟨struck, strikes, -, fires⟩ := inStep.fire_cases taken
  have steady' : Steady struck.listeners := strikes.listeners ▸ steady
  rw [fires, alone_complete strikes.idle strikes.undisposed steady', strikes.alone]
  by_cases own : call.action.field = field
  · simp only [own, if_true]
    rfl
  · simp only [own, if_false]
    rfl

theorem InStep.fire_listeners {target : Int} {call : Call Pass} {agenda : Agenda Pass}
    (taken : form.agenda.takeDue? target = some (call, agenda)) :
    (form.fire call.action agenda).1.listeners = form.listeners := by
  have alone := inStep.alone_fire steady taken call.action.field
  rw [if_pos rfl] at alone
  exact congrArg LoneField.listeners alone

private theorem InStep.alone_drain (target : Int) (fuel : Nat) (enough : form.agenda.calls.length ≤ fuel)
    (field : String) : (drain target fuel form).1.alone field = (form.alone field).arrive target := by
  induction fuel generalizing form with
  | zero =>
    have empty : form.agenda.calls = [] := List.length_eq_zero_iff.mp (Nat.le_zero.mp enough)
    simp [drain, LoneField.arrive, alone, Agenda.rest, nextCheck?, empty]
  | succ fuel ih =>
    rw [drain]
    cases taken : form.agenda.takeDue? target with
    | none =>
      have late : ∀ due pass, form.nextCheck? field = some (due, pass) → ¬ due ≤ target := by
        intro due pass waiting
        rw [nextCheck?, Option.map_eq_some_iff] at waiting
        obtain ⟨call, found, same⟩ := waiting
        cases same
        have := inStep.ordered.takeDue?_eq_none taken (List.mem_of_find?_eq_some found)
        omega
      have rested : ({ form with agenda := form.agenda.rest target } : Form).alone field =
          { form.alone field with now := target } := rfl
      simp only [rested]
      unfold LoneField.arrive
      cases waiting : (form.alone field).waiting with
      | none => rfl
      | some check => exact (if_neg (late check.1 check.2 waiting)).symm
    | some entry =>
      obtain ⟨call, agenda⟩ := entry
      have left := inStep.fire_agenda taken
      have listeners := inStep.fire_listeners steady taken
      have fired := inStep.alone_fire steady taken field
      obtain ⟨rest, calls, due, rfl⟩ := Agenda.takeDue?_eq_some taken
      have next := ih (inStep.fire taken) (listeners ▸ steady) (by
        rw [left]
        rw [calls] at enough
        exact Nat.le_of_succ_le_succ enough)
      change (drain target fuel _).1.alone field = _
      rw [next, fired]
      by_cases own : call.action.field = field
      · have waiting : (form.alone field).waiting = some (call.due, call.action) := by
          simp [alone, nextCheck?, calls, own]
        rw [if_pos own, LoneField.arrive_now, LoneField.arrive, LoneField.arrive, waiting]
        exact (if_pos due).symm
      · rw [if_neg own, LoneField.arrive_now]

private theorem InStep.alone_advance (duration : Int) (field : String) :
    (form.advance duration).1.alone field = (form.alone field).arrive (form.agenda.now + duration) :=
  inStep.alone_drain steady _ _ (Nat.le_refl _) field

theorem InStep.validate_listeners (pass : Pass) (isImmediate : Bool) :
    (form.validate pass isImmediate).1.listeners = form.listeners := by
  have alone := inStep.alone_validate steady pass isImmediate pass.field
  rw [if_pos rfl] at alone
  exact (congrArg LoneField.listeners alone).trans (LoneField.validate_listeners ..)

/-- A step does to a field what it does to the field alone. -/
theorem InStep.alone_perform {step : FormStep} (plain : step.IsPlain) (field : String) :
    (form.perform step).1.alone field = (form.alone field).perform field step := by
  cases step with
  | validate pass isImmediate => exact inStep.alone_validate steady pass isImmediate field
  | titles => exact plain.elim
  | touch other =>
    rw [Form.perform, LoneField.perform]
    by_cases own : other = field
    · subst own
      simp [alone, touch, update, state, LoneField.touch, nextCheck?]
    · simp [alone, touch, update, own, Ne.symm own, nextCheck?]
  | reset other => exact inStep.alone_reset other field
  | resetAll => exact inStep.alone_resetAll field
  | exit =>
    have forgotten := inStep.alone_resetAll field
    exact congrArg (fun lone : LoneField => { lone with listeners := [] }) forgotten
  | dispose =>
    have forgotten := inStep.alone_resetAll field
    exact congrArg (fun lone : LoneField => { lone with listeners := [] }) forgotten
  | advance duration => exact inStep.alone_advance steady duration field
  | _ => rfl

end Perform

end Form

end DatasetForm
