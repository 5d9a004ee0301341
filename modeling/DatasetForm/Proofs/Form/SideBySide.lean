import DatasetForm.Proofs.Form.Alike

/-!
Two forms side by side. A step that is about kept fields leaves forms alike that were alike before, and both
answer it alike (`Matches.perform`), even when the first of them waits for checks of other fields and makes them
meanwhile.
-/

set_option autoImplicit false
set_option relaxedAutoImplicit false

namespace DatasetForm

/-- Is the step about the field and no other? -/
def FormStep.isAbout (field : String) : FormStep → Bool
  | .validate pass _ => pass.field == field
  | .touch other | .reset other | .look other => other == field
  | _ => false

namespace Form

private theorem drain_of_none {form : Form} {target : Int} (none : form.agenda.takeDue? target = none)
    (fuel : Nat) : drain target fuel form = ({ form with agenda := form.agenda.rest target }, []) := by
  cases fuel with
  | zero => rfl
  | succ fuel => rw [drain, none]

private theorem takeDue?_of_late {agenda : Agenda Pass} {target : Int}
    (late : ∀ call ∈ agenda.calls, target < call.due) : agenda.takeDue? target = none := by
  rw [Agenda.takeDue?]
  split
  · rfl
  next call rest calls =>
    have first := late call (calls ▸ List.mem_cons_self ..)
    rw [if_neg (by omega)]

/-- Only fields that are kept have a check waiting. -/
def WaitsForKept (keep : String → Bool) (form : Form) : Prop :=
  ∀ call ∈ form.agenda.calls, keep call.action.field = true

/-- Forms that cannot be told apart by the kept fields, at the same time. -/
structure Matches (keep : String → Bool) (form other : Form) : Prop extends Alike keep form other where
  now : form.agenda.now = other.agenda.now

section Drain

variable {keep : String → Bool}

private theorem plan_eq_calls {form : Form} (waits : form.WaitsForKept keep) :
    form.plan keep = form.agenda.calls.map Call.unnumbered := by
  rw [plan, List.filter_eq_self.mpr waits]

/-- What is next for the one form is next for the other, unless only the first of them waits for it. -/
private theorem Alike.takeDue?_none {form other : Form} (alike : Alike keep form other)
    (ordered : form.agenda.IsOrdered) (waits' : other.WaitsForKept keep) {target : Int}
    (none : form.agenda.takeDue? target = none) : other.agenda.takeDue? target = Option.none := by
  refine takeDue?_of_late fun call member => ?_
  have planned : call.unnumbered ∈ form.plan keep := by
    rw [alike.plan, plan_eq_calls waits']
    exact List.mem_map_of_mem member
  obtain ⟨same, there, unnumbered⟩ := List.mem_map.mp planned
  have late := ordered.takeDue?_eq_none none (List.mem_filter.mp there).1
  have due := (Call.unnumbered_inj.mp unnumbered).1
  omega

private theorem Alike.takeDue?_some {form other : Form} (alike : Alike keep form other)
    (waits' : other.WaitsForKept keep) {target : Int} {call : Call Pass} {agenda : Agenda Pass}
    (taken : form.agenda.takeDue? target = some (call, agenda)) (kept : keep call.action.field = true) :
    ∃ call' agenda', other.agenda.takeDue? target = some (call', agenda') ∧ call.action = call'.action := by
  obtain ⟨rest, calls, due, -⟩ := Agenda.takeDue?_eq_some taken
  have planned := alike.plan
  rw [plan_eq_calls waits', Form.plan, calls, List.filter_cons, if_pos kept, List.map_cons] at planned
  obtain ⟨call', rest', calls', same, -⟩ := List.map_eq_cons_iff.mp planned.symm
  obtain ⟨dues, actions⟩ := Call.unnumbered_inj.mp same
  refine ⟨call', { other.agenda with now := call'.due, calls := rest' }, ?_, actions.symm⟩
  rw [Agenda.takeDue?, calls']
  exact if_pos (dues ▸ due)

private theorem waitsForKept_fire {form : Form} (inStep : form.InStep) (waits : form.WaitsForKept keep)
    {target : Int} {call : Call Pass} {agenda : Agenda Pass}
    (taken : form.agenda.takeDue? target = some (call, agenda)) :
    (form.fire call.action agenda).1.WaitsForKept keep := by
  obtain ⟨rest, calls, -, left⟩ := Agenda.takeDue?_eq_some taken
  intro other member
  rw [inStep.fire_agenda taken, left] at member
  exact waits other (calls ▸ List.mem_cons_of_mem call member)

private theorem length_fire {form : Form} (inStep : form.InStep) {target : Int} {call : Call Pass}
    {agenda : Agenda Pass} (taken : form.agenda.takeDue? target = some (call, agenda)) {fuel : Nat}
    (enough : form.agenda.calls.length ≤ fuel + 1) :
    (form.fire call.action agenda).1.agenda.calls.length ≤ fuel := by
  obtain ⟨rest, calls, -, left⟩ := Agenda.takeDue?_eq_some taken
  rw [inStep.fire_agenda taken, left]
  rw [calls] at enough
  exact Nat.le_of_succ_le_succ enough

private theorem Alike.drain_none {form other : Form} (alike : Alike keep form other)
    (ordered : form.agenda.IsOrdered) (waits' : other.WaitsForKept keep) {target : Int}
    (none : form.agenda.takeDue? target = none) (fuel fuel' : Nat) :
    Matches keep (Form.drain target fuel form).1 (Form.drain target fuel' other).1 ∧
      (form.WaitsForKept keep → (Form.drain target fuel form).2 = (Form.drain target fuel' other).2) := by
  rw [drain_of_none none, drain_of_none (alike.takeDue?_none ordered waits' none)]
  exact ⟨⟨alike.rest_both target target, rfl⟩, fun _ => rfl⟩

/-- While the clock goes on, checks of kept fields are made in both forms, and others in the first of them only. -/
theorem Alike.drain {form other : Form} (alike : Alike keep form other) (inStep : form.InStep)
    (inStep' : other.InStep) (waits' : other.WaitsForKept keep)
    (steady : form.WaitsForKept keep ∨ Steady form.listeners) (target : Int) {fuel fuel' : Nat}
    (enough : form.agenda.calls.length ≤ fuel) (enough' : other.agenda.calls.length ≤ fuel') :
    Matches keep (Form.drain target fuel form).1 (Form.drain target fuel' other).1 ∧
      (form.WaitsForKept keep → (Form.drain target fuel form).2 = (Form.drain target fuel' other).2) := by
  induction fuel generalizing form other fuel' with
  | zero =>
    have empty : form.agenda.calls = [] := List.length_eq_zero_iff.mp (Nat.le_zero.mp enough)
    exact alike.drain_none inStep.ordered waits' (takeDue?_of_late (by simp [empty])) 0 fuel'
  | succ fuel ih =>
    cases taken : form.agenda.takeDue? target with
    | none => exact alike.drain_none inStep.ordered waits' taken (fuel + 1) fuel'
    | some entry =>
      obtain ⟨call, agenda⟩ := entry
      have fired := inStep.fire taken
      have fewer := length_fire inStep taken enough
      have steadyNext : (form.fire call.action agenda).1.WaitsForKept keep ∨
          Steady (form.fire call.action agenda).1.listeners :=
        steady.imp (fun waits => waitsForKept_fire inStep waits taken)
          fun steady => inStep.fire_listeners steady taken ▸ steady
      cases kept : keep call.action.field with
      | true =>
        obtain ⟨call', agenda', taken', same⟩ := alike.takeDue?_some waits' taken kept
        obtain ⟨done, heard⟩ := alike.fire inStep inStep' taken taken' same kept
        have waitsNext := waitsForKept_fire inStep' waits' taken'
        cases fuel' with
        | zero =>
          have empty : other.agenda.calls = [] := List.length_eq_zero_iff.mp (Nat.le_zero.mp enough')
          rw [takeDue?_of_late (by simp [empty])] at taken'
          cases taken'
        | succ fuel' =>
          obtain ⟨forms, others⟩ := ih done fired (inStep'.fire taken') waitsNext steadyNext fewer
            (length_fire inStep' taken' enough')
          simp only [Form.drain, taken, taken']
          exact ⟨forms, fun waits => by rw [heard, others (waitsForKept_fire inStep waits taken)]⟩
      | false =>
        -- the second form does not wait for the check, and lets it pass
        have unkept : ¬ form.WaitsForKept keep := by
          obtain ⟨rest, calls, -⟩ := Agenda.takeDue?_eq_some taken
          intro waits
          rw [waits call (calls ▸ List.mem_cons_self ..)] at kept
          cases kept
        have left := alike.fire_left inStep (steady.resolve_left unkept) taken kept
        obtain ⟨forms, -⟩ := ih left fired inStep' waits' steadyNext fewer enough'
        simp only [Form.drain, taken]
        exact ⟨forms, fun waits => absurd waits unkept⟩

end Drain

/-- Asking for a check takes no time. -/
theorem InStep.validate_now {form : Form} (inStep : form.InStep) (pass : Pass) (isImmediate : Bool) :
    (form.validate pass isImmediate).1.agenda.now = form.agenda.now := by
  have outcome := inStep.validate_cases pass isImmediate
  generalize form.validate pass isImmediate = answer at outcome ⊢
  cases outcome with
  | unread => rfl
  | refused _ _ _ _ strikes =>
    rw [strikes.agenda]
    rfl
  | atOnce _ _ strikes =>
    rw [(complete_completed strikes.idle strikes.undisposed).agenda, strikes.agenda]
    rfl
  | putOff _ _ _ _ strikes =>
    rw [putOff, update_agenda, Agenda.put, strikes.agenda]
    rfl

theorem InStep.reset_now {form : Form} (inStep : form.InStep) (field : String) :
    (form.reset field).agenda.now = form.agenda.now := by
  rw [inStep.reset_agenda]
  rfl

namespace Matches

variable {keep : String → Bool} {form other : Form} (same : Matches keep form other) (inStep : form.InStep)
  (inStep' : other.InStep)
include same

theorem listen {listeners listeners' : List Listener}
    (calm : listeners.map Listener.calmed = listeners'.map Listener.calmed) :
    Matches keep { form with listeners } { other with listeners := listeners' } :=
  ⟨⟨⟨same.fields, calm⟩, same.hasClock, same.plan⟩, same.now⟩

theorem touch {field : String} (kept : keep field = true) : Matches keep (form.touch field) (other.touch field) :=
  ⟨⟨same.toSameEntries.update kept _, same.hasClock, same.plan⟩, same.now⟩

theorem touch_left {field : String} (dropped : keep field = false) : Matches keep (form.touch field) other :=
  ⟨⟨same.toSameEntries.update_left dropped _, same.hasClock, same.plan⟩, same.now⟩

include inStep

theorem validate_left (steady : Steady form.listeners) {pass : Pass} (dropped : keep pass.field = false)
    (isImmediate : Bool) : Matches keep (form.validate pass isImmediate).1 other :=
  ⟨same.toAlike.validate_left inStep steady dropped isImmediate,
    (inStep.validate_now pass isImmediate).trans same.now⟩

theorem reset_left {field : String} (dropped : keep field = false) : Matches keep (form.reset field) other :=
  ⟨same.toAlike.reset_left inStep dropped, (inStep.reset_now field).trans same.now⟩

/-- A step about a field that is not kept is of no account. -/
theorem perform_left (steady : Steady form.listeners) {step : FormStep} {field : String}
    (about : step.isAbout field = true) (dropped : keep field = false) :
    Matches keep (form.perform step).1 other := by
  cases step with
  | validate pass isImmediate =>
    have own : pass.field = field := beq_iff_eq.mp about
    exact same.validate_left inStep steady (own ▸ dropped) isImmediate
  | touch name =>
    have own : name = field := beq_iff_eq.mp about
    exact same.touch_left (own ▸ dropped)
  | reset name =>
    have own : name = field := beq_iff_eq.mp about
    exact same.reset_left inStep (own ▸ dropped)
  | look => exact same
  | _ => cases about

include inStep'

theorem validate {pass : Pass} (kept : keep pass.field = true) (isImmediate : Bool) :
    Matches keep (form.validate pass isImmediate).1 (other.validate pass isImmediate).1 ∧
      (form.validate pass isImmediate).2 = (other.validate pass isImmediate).2 := by
  obtain ⟨forms, answers⟩ := same.toAlike.validate inStep inStep' same.now kept isImmediate
  refine ⟨⟨forms, ?_⟩, answers⟩
  rw [inStep.validate_now, inStep'.validate_now, same.now]

theorem reset (field : String) : Matches keep (form.reset field) (other.reset field) := by
  refine ⟨same.toAlike.reset inStep inStep' field, ?_⟩
  rw [inStep.reset_now, inStep'.reset_now, same.now]

theorem resetAll : Matches keep form.resetAll other.resetAll := by
  refine ⟨⟨⟨rfl, same.listeners⟩, same.hasClock, ?_⟩, ?_⟩
  · rw [plan, plan, inStep.resetAll_agenda, inStep'.resetAll_agenda]
  · rw [inStep.resetAll_agenda, inStep'.resetAll_agenda]
    exact same.now

theorem isPending {field : String} (kept : keep field = true) : form.isPending field = other.isPending field := by
  rw [Bool.eq_iff_iff, inStep.isPending_iff kept, inStep'.isPending_iff kept, same.plan]

/-- A step about kept fields is answered alike by both forms. -/
theorem perform (waits' : other.WaitsForKept keep) (steady : form.WaitsForKept keep ∨ Steady form.listeners)
    {step : FormStep} (single : ∀ stem settings rows isImmediate, step ≠ .titles stem settings rows isImmediate)
    (kept : ∀ field, step.isAbout field = true → keep field = true) :
    Matches keep (form.perform step).1 (other.perform step).1 ∧
      (form.WaitsForKept keep → (form.perform step).2 = (other.perform step).2) := by
  cases step with
  | validate pass isImmediate =>
    obtain ⟨forms, answers⟩ := same.validate inStep inStep' (kept pass.field (beq_self_eq_true _)) isImmediate
    exact ⟨forms, fun _ => by simp only [Form.perform, answers]⟩
  | titles stem settings rows isImmediate => exact absurd rfl (single stem settings rows isImmediate)
  | touch field => exact ⟨same.touch (kept field (beq_self_eq_true _)), fun _ => rfl⟩
  | reset field => exact ⟨same.reset inStep inStep' field, fun _ => rfl⟩
  | resetAll => exact ⟨same.resetAll inStep inStep', fun _ => rfl⟩
  | look field =>
    have own := kept field (beq_self_eq_true _)
    refine ⟨same, fun _ => ?_⟩
    simp only [Form.perform, same.toSameEntries.state own, same.isPending inStep inStep' own]
  | subscribe listener =>
    exact ⟨same.listen (by rw [List.map_append, List.map_append, same.listeners]), fun _ => rfl⟩
  | unsubscribe id => exact ⟨same.listen (same.toSameEntries.unsubscribe id).listeners, fun _ => rfl⟩
  | enter => exact ⟨same, fun _ => rfl⟩
  | exit => exact ⟨(same.resetAll inStep inStep').listen rfl, fun _ => rfl⟩
  | dispose => exact ⟨(same.resetAll inStep inStep').listen rfl, fun _ => rfl⟩
  | advance duration =>
    obtain ⟨forms, events⟩ := same.toAlike.drain inStep inStep' waits' steady (form.agenda.now + duration)
      (Nat.le_refl _) (Nat.le_refl _)
    rw [Form.perform, Form.perform, Form.advance, Form.advance, ← same.now]
    exact ⟨forms, fun waits => congrArg (fun heard => (heard, Except.ok FormAnswer.nothing)) (events waits)⟩

end Matches

end Form

end DatasetForm
