import DatasetForm.Proofs.Form.Apart
import DatasetForm.Proofs.Form.SingleSteps
import DatasetForm.Proofs.Form.Transcript

/-!
Forgetting leaves no trace. A form in which a field was forgotten looks like one in which the field was never
used; a form that forgot all its fields looks like one that was just opened (`reset_leaves_no_trace`).
-/

set_option autoImplicit false
set_option relaxedAutoImplicit false

namespace DatasetForm

/-- What is not about a field leaves it unused. -/
private theorem LoneField.perform_unused {name : String} {step : FormStep} (apart : step.isAbout name = false)
    {lone : LoneField} (unused : lone.entry = none) (idle : lone.waiting = none) :
    (lone.perform name step).entry = none ∧ (lone.perform name step).waiting = none := by
  cases step with
  | validate pass isImmediate =>
    have other : pass.field ≠ name := beq_eq_false_iff_ne.mp apart
    rw [perform, if_neg other]
    exact ⟨unused, idle⟩
  | touch field =>
    have other : field ≠ name := beq_eq_false_iff_ne.mp apart
    rw [perform, if_neg other]
    exact ⟨unused, idle⟩
  | reset field =>
    have other : field ≠ name := beq_eq_false_iff_ne.mp apart
    rw [perform, if_neg other]
    exact ⟨unused, idle⟩
  | resetAll => exact ⟨rfl, rfl⟩
  | exit => exact ⟨rfl, rfl⟩
  | dispose => exact ⟨rfl, rfl⟩
  | advance duration =>
    rw [perform, arrive, idle]
    exact ⟨unused, rfl⟩
  | _ => exact ⟨unused, idle⟩

namespace Form

/-- A run in single steps, without those that are about a field. -/
def stepsBeside (field : String) (form : Form) (steps : List FormStep) : List FormStep :=
  (form.inSingleSteps steps).filter fun step => !step.isAbout field

/-- A form, and one that matches it on all fields but one, which it never used. -/
structure Without (field : String) (form other : Form) : Prop extends Matches (· != field) form other where
  inStep : form.InStep
  inStep' : other.InStep
  steady : Steady form.listeners
  steady' : Steady other.listeners
  unused : other.fields.lookup field = none
  idle : other.nextCheck? field = none

namespace Without

variable {field : String} {form other : Form} (beside : Without field form other) {step : FormStep}
include beside

private theorem ne_of_waiting {call : Call Pass} (member : call ∈ other.agenda.calls) :
    call.action.field ≠ field := by
  have idle := beside.idle
  rw [nextCheck?, Option.map_eq_none_iff, List.find?_eq_none] at idle
  intro own
  exact idle call member (beq_iff_eq.mpr own)

private theorem perform_about (plain : step.IsPlain) (about : step.isAbout field = true) :
    Without field (form.perform step).1 other where
  toMatches := beside.toMatches.perform_left beside.inStep beside.steady about (bne_self_eq_false field)
  inStep := beside.inStep.perform step
  inStep' := beside.inStep'
  steady := beside.inStep.steady_perform beside.steady plain
  steady' := beside.steady'
  unused := beside.unused
  idle := beside.idle

private theorem perform_other (plain : step.IsPlain) (apart : step.isAbout field = false) :
    Without field (form.perform step).1 (other.perform step).1 := by
  have waits : other.WaitsForKept (· != field) := fun call member => bne_iff_ne.mpr (beside.ne_of_waiting member)
  have single : ∀ stem settings rows isImmediate, step ≠ .titles stem settings rows isImmediate := by
    rintro stem settings rows isImmediate rfl
    exact plain
  have kept : ∀ name, step.isAbout name = true → (name != field) = true := by
    intro name about
    refine bne_iff_ne.mpr fun own => ?_
    rw [own, apart] at about
    cases about
  -- only the first form may wait for checks of the field, and its listeners keep their subscriptions
  have forms := (beside.toMatches.perform beside.inStep beside.inStep' waits (.inr beside.steady) single kept).1
  have alone := beside.inStep'.alone_perform beside.steady' plain field
  have kept := LoneField.perform_unused apart (show (other.alone field).entry = none from beside.unused) beside.idle
  rw [← alone] at kept
  exact ⟨forms, beside.inStep.perform step, beside.inStep'.perform step,
    beside.inStep.steady_perform beside.steady plain, beside.inStep'.steady_perform beside.steady' plain,
    kept.1, kept.2⟩

private theorem run {steps : List FormStep} (plain : ∀ step ∈ steps, step.IsPlain) :
    Without field (form.run steps) (other.run (steps.filter fun step => !step.isAbout field)) := by
  induction steps generalizing form other with
  | nil => exact beside
  | cons step steps ih =>
    obtain ⟨first, rest⟩ := List.forall_mem_cons.mp plain
    cases about : step.isAbout field with
    | true =>
      rw [List.filter_cons_of_neg (by simp [about])]
      exact ih (beside.perform_about first about) rest
    | false =>
      rw [List.filter_cons_of_pos (by simp [about])]
      exact ih (beside.perform_other first about) rest

/-- Once the field is forgotten, the forms agree on all fields. -/
private theorem reset : Indistinct (form.reset field) other := by
  have unused := List.lookup_eq_none_iff.mp beside.unused
  have entries : other.fields.filter (·.1 != field) = other.fields := by
    refine List.filter_eq_self.mpr fun entry member => bne_iff_ne.mpr fun own => ?_
    have apart := unused entry member
    rw [own, bne_self_eq_false] at apart
    cases apart
  have calls : other.agenda.calls.filter (·.action.field != field) = other.agenda.calls :=
    List.filter_eq_self.mpr fun call member => bne_iff_ne.mpr (beside.ne_of_waiting member)
  have fields := beside.fields
  have waiting := beside.plan
  rw [entries] at fields
  rw [plan, plan, calls] at waiting
  refine (beside.inStep.reset field).indistinct beside.inStep' fields beside.listeners beside.hasClock ?_ ?_
  · rw [beside.inStep.reset_now, beside.now]
  · rw [beside.inStep.reset_agenda]
    exact waiting

end Without

private theorem run_subscribe (form : Form) (listeners : List Listener) :
    form.run (listeners.map .subscribe) = { form with listeners := form.listeners ++ listeners } := by
  induction listeners generalizing form with
  | nil => simp [run]
  | cons listener listeners ih =>
    rw [List.map_cons, run, ih]
    simp [perform, subscribe]

section Forget

variable {form : Form} (inStep : form.InStep)
include inStep

theorem InStep.resetAll_indistinct :
    Indistinct form.resetAll ((opened form.hasClock form.agenda.now).run (form.listeners.map .subscribe)) := by
  have fresh := (opened_inStep form.hasClock form.agenda.now).run (form.listeners.map .subscribe)
  rw [run_subscribe] at fresh ⊢
  refine inStep.resetAll.indistinct fresh rfl rfl rfl ?_ ?_
  · rw [inStep.resetAll_agenda]
    rfl
  · rw [inStep.resetAll_agenda]
    rfl

theorem InStep.dispose_indistinct : Indistinct form.dispose (opened form.hasClock form.agenda.now) := by
  have fresh := opened_inStep form.hasClock form.agenda.now
  have forgotten : form.dispose.InStep := keeps_inStep.listen [] inStep.resetAll
  refine forgotten.indistinct fresh rfl rfl rfl ?_ ?_
  · rw [dispose, inStep.resetAll_agenda]
    rfl
  · rw [dispose, inStep.resetAll_agenda]
    rfl

end Forget

/-- In a run without the steps about a field, the field is never used; the form that forgot it looks the same. -/
private theorem reset_looksLike (hasClock : Bool) (now : Int) {before : List FormStep}
    (steady : ∀ listener, .subscribe listener ∈ before → listener.reaction ≠ .unsubscribe) (field : String) :
    let start := opened hasClock now
    let other := start.run (start.stepsBeside field before)
    other.fields.lookup field = none ∧ ((start.run before).reset field).LooksLike other := by
  intro start other
  have fresh : start.InStep := opened_inStep hasClock now
  have beside : Without field start start :=
    ⟨⟨⟨⟨rfl, rfl⟩, rfl, rfl⟩, rfl⟩, fresh, fresh, nofun, nofun, rfl, rfl⟩
  have runs := beside.run (start.isPlain_inSingleSteps steady)
  rw [run_inSingleSteps] at runs
  exact ⟨runs.unused, runs.reset.looksLike⟩

/-- Whatever was done with a form before, it answers what follows as if a field that is forgotten had not been used
at all; if all are forgotten, as if it had just been opened, with its listeners, or without them if these are
dismissed. -/
theorem reset_leaves_no_trace (hasClock : Bool) (now : Int) (before : List FormStep)
    (steady : ∀ listener, .subscribe listener ∈ before → listener.reaction ≠ .unsubscribe) :
    let start := opened hasClock now
    let form := start.run before
    let fresh := opened hasClock form.agenda.now
    (∀ field, (start.run (start.stepsBeside field before)).fields.lookup field = none ∧
      (form.perform (.reset field)).1.LooksLike (start.run (start.stepsBeside field before))) ∧
    (form.perform .resetAll).1.LooksLike (fresh.run (form.listeners.map .subscribe)) ∧
    (form.perform .dispose).1.LooksLike fresh ∧ (form.perform .exit).1.LooksLike fresh := by
  intro start form fresh
  have inStep : form.InStep := (opened_inStep hasClock now).run before
  have clock : form.hasClock = hasClock := run_hasClock hasClock now before
  have cleared := inStep.resetAll_indistinct
  have disposed := inStep.dispose_indistinct
  rw [clock] at cleared disposed
  exact ⟨reset_looksLike hasClock now steady, cleared.looksLike, disposed.looksLike, disposed.looksLike⟩

private def draft (field : String) (interval : Int) : FormStep :=
  .validate
    { field
      value := .text "draft"
      rules := [{ name := .text "draft", debounce := .int interval, check := fun _ _ => .ok none }]
      context := .null }
    false

/-- Of two fields, one waits again when it is forgotten. A listener raises, another one notes the visit. -/
private def drafts : List FormStep :=
  [.subscribe ⟨"broken", .raise⟩, draft "a" 100, draft "b" 300, .subscribe ⟨"visits", .touch⟩, .advance 200000,
    draft "a" 200]

theorem reset_leaves_no_trace_drafts :
    (∀ listener, .subscribe listener ∈ drafts → listener.reaction ≠ .unsubscribe) ∧
      (((opened true 0).run drafts).perform (.reset "a")).1.LooksLike
        ((opened true 0).run ((opened true 0).stepsBeside "a" drafts)) ∧
      (((opened true 0).run drafts).state "a").status = .pending ∧
      (((opened true 0).run drafts).state "a").isTouched = true ∧
      ((opened true 0).stepsBeside "a" drafts).length = 4 := by
  have steady : ∀ listener, .subscribe listener ∈ drafts → listener.reaction ≠ .unsubscribe := by
    simp [drafts, draft]
  have forgets := (reset_leaves_no_trace true 0 drafts steady).1 "a"
  exact ⟨steady, forgets.2, by decide +kernel, by decide +kernel, by decide +kernel⟩

end Form

end DatasetForm
