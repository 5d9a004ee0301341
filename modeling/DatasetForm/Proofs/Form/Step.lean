import DatasetForm.Proofs.Form.InStep

/-!
What a whole run of a form keeps. A property that is kept by asking for a check, by making a due call, by the
clock, by touching and forgetting fields and by changes of the subscriptions is kept by every step
(`Keeps.perform`) and by every run (`Keeps.run`); that timers and agenda are in step is such a property.
-/

set_option autoImplicit false
set_option relaxedAutoImplicit false

namespace DatasetForm

/-- The checks that a step asks for, each with whether it is to be made at once. -/
def FormStep.checks : FormStep → List (Pass × Bool)
  | .validate pass isImmediate => [(pass, isImmediate)]
  | .titles stem settings rows isImmediate =>
    rows.zipIdx.map fun (row, index) => (Form.rowPass stem settings rows index row, isImmediate)
  | _ => []

namespace Form

/-- A form that was just opened, with or without a clock. -/
def opened (hasClock : Bool) (now : Int) : Form :=
  { hasClock, agenda := { now } }

theorem run_append (form : Form) (before after : List FormStep) :
    form.run (before ++ after) = (form.run before).run after := by
  induction before generalizing form with
  | nil => rfl
  | cons step before ih => exact ih _

/-- If the first check fails, it is the only one that is made or put off. -/
theorem validateAll_cons_cases (form : Form) (isImmediate : Bool) (pass : Pass) (passes : List Pass) :
    (∃ next events failure, form.validate pass isImmediate = (next, events, .error failure) ∧
      form.validateAll isImmediate (pass :: passes) = (next, events, .error failure)) ∨
    ∃ next events outcome, form.validate pass isImmediate = (next, events, .ok outcome) ∧
      form.validateAll isImmediate (pass :: passes) =
        ((next.validateAll isImmediate passes).1, events ++ (next.validateAll isImmediate passes).2.1,
          (next.validateAll isImmediate passes).2.2.map (outcome :: ·)) := by
  rw [validateAll]
  split
  next next events failure result => exact .inl ⟨next, events, failure, result, rfl⟩
  next next events outcome result => exact .inr ⟨next, events, outcome, result, rfl⟩

/-- The checks of all title rows, in order. -/
abbrev titlePasses (stem : String) (settings : Settings) (rows : List TitleRow) : List Pass :=
  rows.zipIdx.map fun (row, index) => rowPass stem settings rows index row

/-- If a check of a row fails, nothing else happens; otherwise the fields of rows that are gone are swept. -/
theorem validateTitles_cases (form : Form) (stem : String) (settings : Settings) (rows : List TitleRow)
    (isImmediate : Bool) :
    (∃ next events failure,
      form.validateAll isImmediate (titlePasses stem settings rows) = (next, events, .error failure) ∧
      form.validateTitles stem settings rows isImmediate = (next, events, .error failure)) ∨
    ∃ next events outcomes,
      form.validateAll isImmediate (titlePasses stem settings rows) = (next, events, .ok outcomes) ∧
      form.validateTitles stem settings rows isImmediate =
        ((sweep stem rows.length next (next.fields.map (·.1))).1, events,
          (sweep stem rows.length next (next.fields.map (·.1))).2.map fun _ => outcomes) := by
  simp only [validateTitles]
  split
  next next events failure result => exact .inl ⟨next, events, failure, result, rfl⟩
  next next events outcomes result => exact .inr ⟨next, events, outcomes, result, rfl⟩

/-- The property is kept by everything that a form does, as long as the checks asked for are allowed. -/
structure Keeps (Allowed : Pass → Bool → Prop) (P : Form → Prop) : Prop where
  validate : ∀ {form pass isImmediate}, P form → Allowed pass isImmediate →
    P (form.validate pass isImmediate).1
  fire : ∀ {form target call agenda}, P form → form.agenda.takeDue? target = some (call, agenda) →
    P (form.fire call.action agenda).1
  rest : ∀ {form} target, P form → P { form with agenda := form.agenda.rest target }
  touch : ∀ {form} field, P form → P (form.touch field)
  reset : ∀ {form} field, P form → P (form.reset field)
  resetAll : ∀ {form}, P form → P form.resetAll
  listen : ∀ {form} listeners, P form → P { form with listeners }

namespace Keeps

variable {Allowed : Pass → Bool → Prop} {P : Form → Prop} (keeps : Keeps Allowed P) {form : Form}
include keeps

theorem validateAll (isImmediate : Bool) (passes : List Pass) (holds : P form)
    (allowed : ∀ pass ∈ passes, Allowed pass isImmediate) :
    P (form.validateAll isImmediate passes).1 := by
  induction passes generalizing form with
  | nil => exact holds
  | cons pass passes ih =>
    have first := keeps.validate holds (allowed pass (List.mem_cons_self ..))
    obtain ⟨next, events, failure, result, all⟩ | ⟨next, events, outcome, result, all⟩ :=
      form.validateAll_cons_cases isImmediate pass passes
    · rw [all]
      rwa [result] at first
    · rw [all]
      rw [result] at first
      exact ih first fun other member => allowed other (List.mem_cons_of_mem pass member)

theorem sweep (stem : String) (count : Nat) {fields : List String} (holds : P form) :
    P (Form.sweep stem count form fields).1 := by
  induction fields generalizing form with
  | nil => exact holds
  | cons field fields ih =>
    rw [Form.sweep]
    split
    · exact holds
    next stale _ =>
      cases stale with
      | true => exact ih (keeps.reset field holds)
      | false => exact ih holds

theorem drain (target : Int) (fuel : Nat) (holds : P form) : P (Form.drain target fuel form).1 := by
  induction fuel generalizing form with
  | zero => exact keeps.rest target holds
  | succ fuel ih =>
    rw [Form.drain]
    split
    · exact keeps.rest target holds
    next call agenda taken => exact ih (keeps.fire holds taken)

theorem perform (step : FormStep) (holds : P form)
    (allowed : ∀ check ∈ step.checks, Allowed check.1 check.2) : P (form.perform step).1 := by
  cases step with
  | validate pass isImmediate => exact keeps.validate holds (allowed _ (List.mem_singleton_self _))
  | titles stem settings rows isImmediate =>
    have all := keeps.validateAll isImmediate (titlePasses stem settings rows) holds (by
      intro pass member
      obtain ⟨entry, there, rfl⟩ := List.mem_map.mp member
      exact allowed _ (List.mem_map.mpr ⟨entry, there, rfl⟩))
    rw [Form.perform]
    obtain ⟨next, events, failure, result, titles⟩ | ⟨next, events, outcomes, result, titles⟩ :=
      form.validateTitles_cases stem settings rows isImmediate
    · rw [titles]
      rwa [result] at all
    · rw [titles]
      rw [result] at all
      exact keeps.sweep stem rows.length all
  | touch field => exact keeps.touch field holds
  | reset field => exact keeps.reset field holds
  | resetAll => exact keeps.resetAll holds
  | look field => exact holds
  | subscribe listener => exact keeps.listen _ holds
  | unsubscribe id => exact keeps.listen _ holds
  | enter => exact holds
  | exit => exact keeps.listen [] (keeps.resetAll holds)
  | dispose => exact keeps.listen [] (keeps.resetAll holds)
  | advance duration => exact keeps.drain _ _ holds

theorem run (steps : List FormStep) (holds : P form)
    (allowed : ∀ step ∈ steps, ∀ check ∈ step.checks, Allowed check.1 check.2) : P (form.run steps) := by
  induction steps generalizing form with
  | nil => exact holds
  | cons step steps ih =>
    rw [Form.run]
    refine ih (keeps.perform step holds (allowed step (List.mem_cons_self ..))) ?_
    exact fun other member => allowed other (List.mem_cons_of_mem step member)

end Keeps

section InStep

variable {form : Form} (inStep : form.InStep)
include inStep

theorem InStep.rest (target : Int) : ({ form with agenda := form.agenda.rest target } : Form).InStep :=
  ⟨⟨inStep.ordered.sorted, inStep.ordered.distinct, inStep.ordered.fresh⟩, inStep.waits,
    inStep.undisposed, inStep.unclocked⟩

theorem InStep.struck_reset (field : String) :
    Struck field { form with fields := erase field form.fields } (form.reset field) :=
  ⟨rfl, rfl, rfl, inStep.reset_agenda field, form.reset_waiting? field, inStep.undisposed.reset field⟩

theorem InStep.reset (field : String) : (form.reset field).InStep := by
  have erased : ({ form with fields := erase field form.fields } : Form).InStep :=
    ⟨inStep.ordered, inStep.waits, inStep.undisposed, inStep.unclocked⟩
  exact erased.of_struck (inStep.struck_reset field)

theorem InStep.resetAll : form.resetAll.InStep := by
  refine ⟨?_, ?_, ?_, ?_⟩
  · rw [inStep.resetAll_agenda]
    exact inStep.ordered.sublist (List.nil_sublist _) _
  · intro field number
    rw [inStep.resetAll_agenda]
    simp [waiting?, Form.resetAll]
  · intro field timer found
    cases found
  · intro
    rw [inStep.resetAll_agenda]

theorem InStep.validate (pass : Pass) (isImmediate : Bool) :
    (form.validate pass isImmediate).1.InStep := by
  have outcome := inStep.validate_cases pass isImmediate
  generalize form.validate pass isImmediate = answer at outcome ⊢
  cases outcome with
  | unread => exact inStep
  | refused _ _ _ _ strikes => exact inStep.of_struck strikes
  | atOnce _ _ strikes =>
    exact (inStep.of_struck strikes).of_completed (complete_completed strikes.idle strikes.undisposed)
  | putOff _ _ _ clock strikes =>
    exact (inStep.of_struck strikes).of_putOff _ strikes.idle (strikes.hasClock.trans clock)

theorem InStep.fire {target : Int} {call : Call Pass} {agenda : Agenda Pass}
    (taken : form.agenda.takeDue? target = some (call, agenda)) :
    (form.fire call.action agenda).1.InStep := by
  obtain ⟨struck, strikes, -, fires⟩ := inStep.fire_cases taken
  rw [fires]
  exact ((inStep.rest call.due).of_struck strikes).of_completed
    (complete_completed strikes.idle strikes.undisposed)

theorem InStep.fire_agenda {target : Int} {call : Call Pass} {agenda : Agenda Pass}
    (taken : form.agenda.takeDue? target = some (call, agenda)) :
    (form.fire call.action agenda).1.agenda = agenda := by
  obtain ⟨struck, strikes, left, fires⟩ := inStep.fire_cases taken
  rw [fires, (complete_completed strikes.idle strikes.undisposed).agenda, left]

end InStep

theorem opened_inStep (hasClock : Bool) (now : Int) : (opened hasClock now).InStep where
  ordered := ⟨List.Pairwise.nil, List.nodup_nil, by simp [opened]⟩
  waits field number := by simp [opened, waiting?]
  undisposed field timer found := by cases found
  unclocked _ := rfl

theorem keeps_inStep : Keeps (fun _ _ => True) InStep where
  validate inStep _ := inStep.validate _ _
  fire inStep taken := inStep.fire taken
  rest target inStep := inStep.rest target
  touch _ inStep := ⟨inStep.ordered, inStep.waits, inStep.undisposed, inStep.unclocked⟩
  reset field inStep := inStep.reset field
  resetAll inStep := inStep.resetAll
  listen _ inStep := ⟨inStep.ordered, inStep.waits, inStep.undisposed, inStep.unclocked⟩

/-- The property is kept by what checks are made of, striking out, completing and putting off, and by the rest of
what is done with a form in step. -/
structure KeepsParts (P : Form → Prop) : Prop where
  struck : ∀ {form struck field}, Struck field form struck → P form → P struck
  complete : ∀ {form pass}, form.waiting? pass.field = none → form.Undisposed → P form →
    P (form.complete pass).1
  putOff : ∀ {form pass} delay, P form → P (form.putOff delay pass)
  rest : ∀ {form} target, P form → P { form with agenda := form.agenda.rest target }
  touch : ∀ {form} field, P form → P (form.touch field)
  reset : ∀ {form} field, form.InStep → P form → P (form.reset field)
  resetAll : ∀ {form}, form.InStep → P form → P form.resetAll
  listen : ∀ {form} listeners, P form → P { form with listeners }

theorem KeepsParts.keeps {P : Form → Prop} (parts : KeepsParts P) :
    Keeps (fun _ _ => True) fun form => form.InStep ∧ P form where
  validate := by
    rintro form pass isImmediate ⟨inStep, holds⟩ -
    refine ⟨inStep.validate pass isImmediate, ?_⟩
    have outcome := inStep.validate_cases pass isImmediate
    generalize form.validate pass isImmediate = answer at outcome ⊢
    cases outcome with
    | unread => exact holds
    | refused _ _ _ _ strikes => exact parts.struck strikes holds
    | atOnce _ _ strikes => exact parts.complete strikes.idle strikes.undisposed (parts.struck strikes holds)
    | putOff _ _ _ _ strikes => exact parts.putOff _ (parts.struck strikes holds)
  fire := by
    rintro form target call agenda ⟨inStep, holds⟩ taken
    refine ⟨inStep.fire taken, ?_⟩
    obtain ⟨struck, strikes, -, fires⟩ := inStep.fire_cases taken
    have struckHolds := parts.struck strikes (parts.rest call.due holds)
    rw [fires]
    exact parts.complete strikes.idle strikes.undisposed struckHolds
  rest target kept := ⟨kept.1.rest target, parts.rest target kept.2⟩
  touch field kept := ⟨keeps_inStep.touch field kept.1, parts.touch field kept.2⟩
  reset field kept := ⟨kept.1.reset field, parts.reset field kept.1 kept.2⟩
  resetAll kept := ⟨kept.1.resetAll, parts.resetAll kept.1 kept.2⟩
  listen listeners kept := ⟨keeps_inStep.listen listeners kept.1, parts.listen listeners kept.2⟩

/-- No step takes the clock away or brings one in. -/
theorem keeps_hasClock (hasClock : Bool) :
    Keeps (fun _ _ => True) fun form => form.InStep ∧ form.hasClock = hasClock := by
  have parts : KeepsParts fun form => form.hasClock = hasClock :=
    { struck := fun strikes clock => strikes.hasClock.trans clock
      complete := fun idle live clock => (complete_completed idle live).hasClock.trans clock
      putOff := fun _ clock => clock
      rest := fun _ clock => clock
      touch := fun _ clock => clock
      reset := fun _ _ clock => clock
      resetAll := fun _ clock => clock
      listen := fun _ clock => clock }
  exact parts.keeps

theorem InStep.validateAll {form : Form} (inStep : form.InStep) (isImmediate : Bool) (passes : List Pass) :
    (form.validateAll isImmediate passes).1.InStep :=
  keeps_inStep.validateAll isImmediate passes inStep fun _ _ => trivial

theorem InStep.perform {form : Form} (inStep : form.InStep) (step : FormStep) :
    (form.perform step).1.InStep :=
  keeps_inStep.perform step inStep fun _ _ => trivial

theorem InStep.run {form : Form} (inStep : form.InStep) (steps : List FormStep) :
    (form.run steps).InStep :=
  keeps_inStep.run steps inStep fun _ _ _ _ => trivial

theorem run_hasClock (hasClock : Bool) (now : Int) (steps : List FormStep) :
    ((opened hasClock now).run steps).hasClock = hasClock :=
  ((keeps_hasClock hasClock).run steps ⟨opened_inStep hasClock now, rfl⟩ fun _ _ _ _ => trivial).2

end Form

end DatasetForm
