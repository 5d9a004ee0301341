import DatasetForm.Proofs.Form.History

/-!
What becomes of a check that was put off. It leaves the agenda in a step exactly when the step supersedes it,
by another check of its field or by forgetting the field, or when the clock arrives at its time
(`mem_calls_perform`); it is made in a step exactly in the last case (`filter_made_of_arrives`).
-/

set_option autoImplicit false
set_option relaxedAutoImplicit false

namespace DatasetForm.Form

/-- The fields of rows at `count` or after, up to the first field whose name cannot be read. -/
def staleFields (stem : String) (count : Nat) : List String → List String
  | [] => []
  | field :: fields =>
    match isStaleRow stem count field with
    | .error _ => []
    | .ok true => field :: staleFields stem count fields
    | .ok false => staleFields stem count fields

/-- Does the step forget the field? -/
def Forgets (form : Form) (step : FormStep) (field : String) : Prop :=
  match step with
  | .reset other => field = other
  | .resetAll | .exit | .dispose => True
  | .titles stem settings rows isImmediate =>
    match form.validateAll isImmediate
      (rows.zipIdx.map fun (row, index) => rowPass stem settings rows index row) with
    | (next, _, .ok _) => field ∈ staleFields stem rows.length (next.fields.map (·.1))
    | _ => False
  | _ => False

/-- Does one of the requests replace the check that waits for the field? -/
def Replaces (requests : List CheckRequest) (field : String) : Prop :=
  ∃ request ∈ requests, request.isHeard = true ∧ request.pass.field = field

/-- Does the step replace the check that waits for the field, or forget the field? -/
def Supersedes (form : Form) (step : FormStep) (field : String) : Prop :=
  Replaces (form.requests step) field ∨ form.Forgets step field

/-- Does the clock go on to a time in the step? -/
def arrives (form : Form) (step : FormStep) (due : Int) : Bool :=
  match step with
  | .advance duration => due ≤ form.agenda.now + duration
  | _ => false

@[simp] theorem replaces_cons {request : CheckRequest} {requests : List CheckRequest} {field : String} :
    Replaces (request :: requests) field ↔
      (request.isHeard = true ∧ request.pass.field = field) ∨ Replaces requests field :=
  List.exists_mem_cons_iff ..

private theorem mem_agendaBeside {form : Form} {field : String} {call : Call Pass} :
    call ∈ (form.agendaBeside field).calls ↔ call ∈ form.agenda.calls ∧ call.action.field ≠ field := by
  rw [agendaBeside, List.mem_filter, bne_iff_ne]

section Requests

variable {form : Form} (inStep : form.InStep) {call : Call Pass}
include inStep

/-- A request strikes out the older calls for its field, provided that it is heard. -/
private theorem InStep.mem_calls_validate (pass : Pass) (isImmediate : Bool)
    (old : call.number < form.agenda.next) :
    call ∈ (form.validate pass isImmediate).1.agenda.calls ↔
      call ∈ form.agenda.calls ∧
        ¬ ((CheckRequest.mk form pass isImmediate).isHeard = true ∧ pass.field = call.action.field) := by
  have outcome := inStep.validate_cases pass isImmediate
  rw [CheckRequest.isHeard]
  generalize form.validate pass isImmediate = answer at outcome ⊢
  cases outcome with
  | unread unread => simp [unread, Except.toBool]
  | refused read _ _ _ strikes =>
    rw [strikes.agenda, mem_agendaBeside]
    simp [read, Except.toBool, eq_comm]
  | atOnce read _ strikes =>
    rw [(complete_completed strikes.idle strikes.undisposed).agenda, strikes.agenda, mem_agendaBeside]
    simp [read, Except.toBool, eq_comm]
  | @putOff struck _ delay read _ _ _ strikes =>
    have isOld : call ≠ ⟨struck.agenda.now + delay, struck.agenda.next, pass⟩ := by
      rintro rfl
      rw [strikes.agenda] at old
      exact Nat.lt_irrefl _ old
    rw [putOff, update_agenda, Agenda.put, Agenda.mem_insertCall, or_iff_right isOld, strikes.agenda,
      mem_agendaBeside]
    simp [read, Except.toBool, eq_comm]

end Requests

private theorem next_le_parts (number : Nat) : KeepsParts fun form => number ≤ form.agenda.next where
  struck strikes le := by
    rw [strikes.agenda]
    exact le
  complete idle live le := by
    rw [(complete_completed idle live).agenda]
    exact le
  putOff _ le := Nat.le_succ_of_le le
  rest _ le := le
  touch _ le := le
  reset field inStep le := by
    rw [inStep.reset_agenda]
    exact le
  resetAll inStep le := by
    rw [inStep.resetAll_agenda]
    exact le
  listen _ le := le

/-- The numbers of calls only grow. -/
theorem keeps_next_le (number : Nat) :
    Keeps (fun _ _ => True) fun form => form.InStep ∧ number ≤ form.agenda.next :=
  (next_le_parts number).keeps

private theorem InStep.next_le_validate {form : Form} (inStep : form.InStep) (pass : Pass) (isImmediate : Bool) :
    form.agenda.next ≤ (form.validate pass isImmediate).1.agenda.next :=
  ((keeps_next_le form.agenda.next).validate ⟨inStep, Nat.le_refl _⟩ trivial).2

private theorem InStep.mem_calls_validateAll {form : Form} (inStep : form.InStep) (isImmediate : Bool)
    (passes : List Pass) {call : Call Pass} (old : call.number < form.agenda.next) :
    call ∈ (form.validateAll isImmediate passes).1.agenda.calls ↔
      call ∈ form.agenda.calls ∧ ¬ Replaces (requestsFor isImmediate form passes) call.action.field := by
  induction passes generalizing form with
  | nil => simp [Form.validateAll, requestsFor, Replaces]
  | cons pass passes ih =>
    have first := inStep.mem_calls_validate pass isImmediate old
    have next := ih (inStep.validate pass isImmediate)
      (Nat.lt_of_lt_of_le old (inStep.next_le_validate pass isImmediate))
    rw [requestsFor, replaces_cons, not_or, ← and_assoc, ← first]
    obtain ⟨after, events, failure, result, all⟩ | ⟨after, events, outcome, result, all⟩ :=
      form.validateAll_cons_cases isImmediate pass passes
    · simp [all, result, Replaces]
    · rw [result] at next
      simpa only [all, result] using next

private theorem InStep.mem_calls_sweep {form : Form} (inStep : form.InStep) (stem : String) (count : Nat)
    (fields : List String) {call : Call Pass} :
    call ∈ (sweep stem count form fields).1.agenda.calls ↔
      call ∈ form.agenda.calls ∧ call.action.field ∉ staleFields stem count fields := by
  induction fields generalizing form with
  | nil => simp [sweep, staleFields]
  | cons field fields ih =>
    rw [sweep, staleFields]
    cases isStaleRow stem count field with
    | error failure => simp
    | ok stale =>
      cases stale with
      | false => exact ih inStep
      | true =>
        have next := ih (inStep.reset field)
        rw [inStep.reset_agenda, mem_agendaBeside] at next
        simpa [and_assoc] using next

/-- The clock takes the calls off the agenda that are due up to a time; they are the checks that it makes. -/
private theorem InStep.drain_calls {form : Form} (inStep : form.InStep) (target : Int) (fuel : Nat)
    (enough : form.agenda.calls.length ≤ fuel) :
    (drain target fuel form).1.agenda =
        { form.agenda with
          now := target
          calls := form.agenda.calls.filter fun call => target < call.due } ∧
      madeUntil target fuel form =
        (form.agenda.calls.filter fun call => call.due ≤ target).map Call.made := by
  induction fuel generalizing form with
  | zero =>
    have empty : form.agenda.calls = [] := List.length_eq_zero_iff.mp (Nat.le_zero.mp enough)
    simp [drain, madeUntil, empty, Agenda.rest]
  | succ fuel ih =>
    rw [drain, madeUntil]
    cases taken : form.agenda.takeDue? target with
    | none =>
      have late : ∀ call ∈ form.agenda.calls, target < call.due := fun call member =>
        inStep.ordered.takeDue?_eq_none taken member
      constructor
      · have all : form.agenda.calls.filter (fun call => target < call.due) = form.agenda.calls :=
          List.filter_eq_self.mpr fun call member => decide_eq_true (late call member)
        simp only [Agenda.rest, all]
      · have none : form.agenda.calls.filter (fun call => call.due ≤ target) = [] :=
          List.filter_eq_nil_iff.mpr fun call member => by simpa using late call member
        rw [none, List.map_nil]
    | some entry =>
      obtain ⟨call, agenda⟩ := entry
      have left := inStep.fire_agenda taken
      obtain ⟨rest, calls, due, rfl⟩ := Agenda.takeDue?_eq_some taken
      have next := ih (inStep.fire taken) (by
        rw [left]
        rw [calls] at enough
        exact Nat.le_of_succ_le_succ enough)
      rw [left] at next
      simp only [next.1, next.2, calls]
      constructor
      · rw [List.filter_cons_of_neg (by simpa using due)]
      · rw [List.filter_cons_of_pos (by simpa using due), List.map_cons]

section Titles

variable {form : Form} (inStep : form.InStep) (stem : String) (settings : Settings) (rows : List TitleRow)
  (isImmediate : Bool)
include inStep

private theorem InStep.mem_calls_titles {call : Call Pass} (old : call.number < form.agenda.next) :
    call ∈ (form.validateTitles stem settings rows isImmediate).1.agenda.calls ↔
      call ∈ form.agenda.calls ∧
        ¬ form.Supersedes (.titles stem settings rows isImmediate) call.action.field := by
  have all := inStep.mem_calls_validateAll isImmediate (titlePasses stem settings rows) old
  have kept := inStep.validateAll isImmediate (titlePasses stem settings rows)
  simp only [Supersedes, requests, Forgets, not_or, ← and_assoc, ← all]
  obtain ⟨next, events, failure, result, titles⟩ | ⟨next, events, outcomes, result, titles⟩ :=
    form.validateTitles_cases stem settings rows isImmediate
  · simp [titles, result]
  · rw [result] at kept
    rw [titles, kept.mem_calls_sweep, result]

end Titles

section Perform

variable {form : Form} (inStep : form.InStep) (step : FormStep)
include inStep

theorem InStep.next_le_perform : form.agenda.next ≤ (form.perform step).1.agenda.next :=
  ((keeps_next_le form.agenda.next).perform step ⟨inStep, Nat.le_refl _⟩ fun _ _ => trivial).2

/-- A call that was put down before a step is still there after it unless the step supersedes it or the
clock arrives at its time. -/
theorem InStep.mem_calls_perform {call : Call Pass} (old : call.number < form.agenda.next) :
    call ∈ (form.perform step).1.agenda.calls ↔
      call ∈ form.agenda.calls ∧ ¬ form.Supersedes step call.action.field ∧
        form.arrives step call.due = false := by
  cases step with
  | validate pass isImmediate =>
    have kept := inStep.mem_calls_validate pass isImmediate old
    simpa [Form.perform, Supersedes, requests_validate, Forgets, arrives, Replaces] using kept
  | titles stem settings rows isImmediate =>
    have kept := inStep.mem_calls_titles stem settings rows isImmediate old
    simpa [Form.perform, arrives] using kept
  | reset field =>
    simp only [Form.perform, inStep.reset_agenda, mem_agendaBeside]
    simp [Supersedes, Forgets, arrives, requests, Replaces]
  | resetAll => simp [Form.perform, inStep.resetAll_agenda, Supersedes, Forgets]
  | exit => simp [Form.perform, dispose, inStep.resetAll_agenda, Supersedes, Forgets]
  | dispose => simp [Form.perform, dispose, inStep.resetAll_agenda, Supersedes, Forgets]
  | advance duration =>
    simp only [Form.perform, advance, (inStep.drain_calls _ _ (Nat.le_refl _)).1, List.mem_filter]
    simp [Supersedes, Forgets, arrives, requests, Replaces]
  | _ => simp [Form.perform, Supersedes, Forgets, arrives, requests, Replaces, touch, subscribe, unsubscribe]

end Perform

private theorem made_of_requests (requests : List CheckRequest) (number : Nat) :
    (requests.flatMap CheckRequest.made).filter (fun made => made.number == some number) = [] := by
  refine List.filter_eq_nil_iff.mpr fun made member => ?_
  obtain ⟨request, -, member⟩ := List.mem_flatMap.mp member
  rw [CheckRequest.made] at member
  split at member
  · cases member
  · split at member
    · rw [List.mem_singleton.mp member]
      simp
    · cases member

/-- The checks of a number that a step makes are those calls of the number at whose times the clock
arrives. -/
theorem InStep.filter_made {form : Form} (inStep : form.InStep) (step : FormStep) (number : Nat) :
    (form.made step).filter (fun made => made.number == some number) =
      (form.agenda.calls.filter fun call =>
        call.number == number && form.arrives step call.due).map Call.made := by
  cases step with
  | advance duration =>
    have same : (fun made : Made => made.number == some number) ∘ Call.made =
        fun call : Call Pass => call.number == number := rfl
    rw [made, (inStep.drain_calls _ _ (Nat.le_refl _)).2, List.filter_map, same, List.filter_filter]
    rfl
  | _ => simp [made, arrives, made_of_requests]

end DatasetForm.Form
