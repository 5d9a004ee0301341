import DatasetForm.Proofs.Form.Together
import DatasetForm.Proofs.Form.Transcript

/-!
Putting checks off without a clock. It fails, and nothing of it can be learned afterwards: the form shows, tells and
answers what it would have without the failed step (`failed_deferral_leaves_no_trace`). All that is left is a timer
that waits for nothing.
-/

set_option autoImplicit false
set_option relaxedAutoImplicit false

namespace DatasetForm

/-- The check has to wait: the longest quiet period of its rules is more than nothing. -/
def Pass.Waits (pass : Pass) (isImmediate : Bool) : Prop :=
  ∃ interval, Form.delayFor pass.rules isImmediate = .ok interval ∧
    interval.compares .lessOrEqual (.int 0) = .ok false

/-- The step asks for a check that has to wait. -/
def FormStep.PutsOff (step : FormStep) : Prop :=
  ∃ check ∈ step.checks, check.1.Waits check.2

namespace Form

section Unclocked

variable {form : Form} (inStep : form.InStep) (noClock : form.hasClock = false)
include inStep noClock

/-- Without a clock no check waits, so that there is none to strike out. -/
private theorem InStep.indistinct_of_struck {struck : Form} {field : String} (strikes : Struck field form struck) :
    Indistinct struck form := by
  have nothing : form.agenda.calls = [] := inStep.unclocked noClock
  apply (inStep.of_struck strikes).indistinct inStep strikes.fields (congrArg _ strikes.listeners) strikes.hasClock
  · rw [strikes.agenda]
    rfl
  · rw [strikes.agenda, agendaBeside, nothing, List.filter_nil]

private theorem InStep.validate_waits_unclocked {pass : Pass} {isImmediate : Bool} (waits : pass.Waits isImmediate) :
    ∃ struck, Struck pass.field form struck ∧
      form.validate pass isImmediate = (struck, [], .error .noClock) := by
  obtain ⟨interval, read, later⟩ := waits
  have strikes := inStep.struck_cancel pass.field
  refine ⟨_, strikes.assign_idle, ?_⟩
  simp only [Form.validate, read, later, strikes.defer_unclocked noClock, Except.map]

/-- All rows have to wait as long as the first one, which fails before any other is looked at. -/
private theorem InStep.validateTitles_waits_unclocked {stem : String} {settings : Settings} {rows : List TitleRow}
    {isImmediate : Bool} {pass : Pass} (member : pass ∈ titlePasses stem settings rows)
    (waits : pass.Waits isImmediate) :
    ∃ field struck, Struck field form struck ∧
      form.validateTitles stem settings rows isImmediate = (struck, [], .error .noClock) := by
  cases rows with
  | nil => cases member
  | cons row rows =>
    obtain ⟨⟨other, index⟩, -, rfl⟩ := List.mem_map.mp member
    have first : (rowPass stem settings (row :: rows) 0 row).Waits isImmediate := by
      cases isImmediate with
      | true => exact waits
      | false => exact waits
    obtain ⟨struck, strikes, fails⟩ := inStep.validate_waits_unclocked noClock first
    refine ⟨_, struck, strikes, ?_⟩
    simp only [Form.validateTitles, List.zipIdx_cons, List.map_cons, Form.validateAll, fails]

/-- A step that would put a check off fails, and strikes out at most what did not wait. -/
private theorem InStep.perform_putsOff {step : FormStep} (putsOff : step.PutsOff) :
    ∃ field struck, Struck field form struck ∧ form.perform step = (struck, [], .error .noClock) := by
  obtain ⟨⟨pass, isImmediate⟩, asked, waits⟩ := putsOff
  cases step with
  | validate own immediate =>
    cases List.mem_singleton.mp asked
    obtain ⟨struck, strikes, fails⟩ := inStep.validate_waits_unclocked noClock waits
    refine ⟨_, struck, strikes, ?_⟩
    simp only [Form.perform, fails, Except.map]
  | titles stem settings rows immediate =>
    obtain ⟨entry, there, same⟩ := List.mem_map.mp asked
    cases same
    obtain ⟨field, struck, strikes, fails⟩ :=
      inStep.validateTitles_waits_unclocked noClock (List.mem_map_of_mem there) waits
    refine ⟨field, struck, strikes, ?_⟩
    simp only [Form.perform, fails, Except.map]
  | _ => cases asked

end Unclocked

/-- Whatever was done with a form that has no clock, a step that would put a check off fails for want of one and tells
nobody. It leaves every field, the counts and the subscriptions as they were, and whatever is done afterwards gives
what it would have given without the step. -/
theorem failed_deferral_leaves_no_trace (now : Int) (before : List FormStep) (step : FormStep)
    (putsOff : step.PutsOff) :
    let form := (opened false now).run before
    let next := (form.perform step).1
    (form.perform step).2 = ([], .error .noClock) ∧
      (∀ field, next.state field = form.state field ∧ next.isPending field = form.isPending field) ∧
      next.sight = form.sight ∧ next.listeners = form.listeners ∧ next.LooksLike form := by
  intro form next
  have inStep : form.InStep := (opened_inStep false now).run before
  have noClock : form.hasClock = false := run_hasClock false now before
  obtain ⟨field, struck, strikes, fails⟩ := inStep.perform_putsOff noClock putsOff
  have left : next = struck := congrArg Prod.fst fails
  have same : Indistinct next form := by
    rw [left]
    exact inStep.indistinct_of_struck noClock strikes
  refine ⟨congrArg Prod.snd fails, ?_, same.sight_eq, ?_, same.looksLike⟩
  · intro name
    constructor
    · exact same.toSameEntries.state rfl
    · exact same.isPending same.inStep same.inStep' rfl
  · rw [left, strikes.listeners]

/-- A listener, and a main title that was left blank and visited. -/
private def leftBlank : List FormStep :=
  [.subscribe ⟨"log", .record⟩, .titles "titles" .default [⟨.text " ", .text "main-title"⟩] true,
    .touch "titles.0"]

private def filledIn : FormStep :=
  .titles "titles" .default [⟨.text "Ice", .text "main-title"⟩, ⟨.text "Snow", .text "subtitle"⟩] false

/-- The error of the blank title stays, and the second row is never known. -/
theorem failed_deferral_leaves_no_trace_blank :
    let form := (opened false 0).run leftBlank
    let next := (form.perform filledIn).1
    filledIn.PutsOff ∧ (form.perform filledIn).2 = ([], .error .noClock) ∧ next.LooksLike form ∧
      (next.state "titles.0").status = .invalid ∧ (next.state "titles.0").isTouched = true ∧
      (next.state "titles.1").status = .idle ∧ next.canSubmit = false := by
  intro form next
  have period : Settings.default.debounceMs = .int (300 : Nat) := rfl
  have putsOff : filledIn.PutsOff := by
    refine ⟨_, List.mem_cons_self, .int 300, ?_, ?_⟩
    · exact titleInterval_int period
    · rw [Value.compares_lessOrEqual_int]
      rfl
  obtain ⟨fails, states, sight, -, looks⟩ := failed_deferral_leaves_no_trace 0 leftBlank filledIn putsOff
  have blocked : next.canSubmit = form.canSubmit := congrArg Sight.canSubmit sight
  refine ⟨putsOff, fails, looks, ?_, ?_, ?_, ?_⟩
  · rw [(states "titles.0").1]
    decide +kernel
  · rw [(states "titles.0").1]
    decide +kernel
  · rw [(states "titles.1").1]
    decide +kernel
  · rw [blocked]
    decide +kernel

end Form

end DatasetForm
