import DatasetForm.Proofs.Form.Alone
import DatasetForm.Proofs.Form.Supersede

/-!
A check of all title rows, taken to pieces: it does what checks of the single rows do one after the other, up to
the first that fails, and then resets of the fields of rows that are gone (`run_singleSteps`). What holds of
runs without it thus holds of all runs.
-/

set_option autoImplicit false
set_option relaxedAutoImplicit false

namespace DatasetForm.Form

/-- The fields that a check of all title rows forgets, once all rows were checked. -/
def droppedRows (form : Form) (stem : String) (settings : Settings) (rows : List TitleRow) (isImmediate : Bool) :
    List String :=
  match form.validateAll isImmediate (titlePasses stem settings rows) with
  | (next, _, .ok _) => staleFields stem rows.length (next.fields.map (·.1))
  | _ => []

/-- The single steps that a step comes to. -/
def singleSteps (form : Form) : FormStep → List FormStep
  | .titles stem settings rows isImmediate =>
    ((requestsFor isImmediate form (titlePasses stem settings rows)).map fun request =>
      .validate request.pass request.isImmediate) ++
      (form.droppedRows stem settings rows isImmediate).map .reset
  | step => [step]

/-- A run in single steps. -/
def inSingleSteps : Form → List FormStep → List FormStep
  | _, [] => []
  | form, step :: steps => form.singleSteps step ++ inSingleSteps (form.perform step).1 steps

private theorem run_requestsFor (form : Form) (isImmediate : Bool) (passes : List Pass) :
    form.run ((requestsFor isImmediate form passes).map fun request =>
      .validate request.pass request.isImmediate) = (form.validateAll isImmediate passes).1 := by
  induction passes generalizing form with
  | nil => rfl
  | cons pass passes ih =>
    have first : (form.perform (.validate pass isImmediate)).1 = (form.validate pass isImmediate).1 := rfl
    obtain ⟨next, events, failure, result, all⟩ | ⟨next, events, outcome, result, all⟩ :=
      form.validateAll_cons_cases isImmediate pass passes
    · rw [all, requestsFor, result, List.map_cons, run, first, result]
      rfl
    · rw [all, requestsFor, result, List.map_cons, run, first, result, ih]

private theorem run_stale (form : Form) (stem : String) (count : Nat) (fields : List String) :
    form.run ((staleFields stem count fields).map .reset) = (sweep stem count form fields).1 := by
  induction fields generalizing form with
  | nil => rfl
  | cons field fields ih =>
    rw [staleFields, sweep]
    cases isStaleRow stem count field with
    | error failure => rfl
    | ok stale =>
      cases stale with
      | true => exact ih (form.reset field)
      | false => exact ih form

/-- The single steps do what the step does. -/
theorem run_singleSteps (form : Form) (step : FormStep) :
    form.run (form.singleSteps step) = (form.perform step).1 := by
  cases step with
  | titles stem settings rows isImmediate =>
    have rowsRun := run_requestsFor form isImmediate (titlePasses stem settings rows)
    rw [singleSteps, run_append, rowsRun, droppedRows, perform]
    obtain ⟨next, events, failure, result, titles⟩ | ⟨next, events, outcomes, result, titles⟩ :=
      form.validateTitles_cases stem settings rows isImmediate
    · rw [titles, result]
      rfl
    · rw [titles, result]
      exact run_stale next stem rows.length _
  | _ => rfl

theorem run_inSingleSteps (form : Form) (steps : List FormStep) :
    form.run (form.inSingleSteps steps) = form.run steps := by
  induction steps generalizing form with
  | nil => rfl
  | cons step steps ih => rw [inSingleSteps, run_append, run_singleSteps, ih, run]

/-- Single steps are plain, as long as no listener is subscribed that takes its own subscription out. -/
theorem isPlain_inSingleSteps (form : Form) {steps : List FormStep}
    (steady : ∀ listener, .subscribe listener ∈ steps → listener.reaction ≠ .unsubscribe) :
    ∀ step ∈ form.inSingleSteps steps, step.IsPlain := by
  induction steps generalizing form with
  | nil => nofun
  | cons step steps ih =>
    have rest := ih (form.perform step).1 fun listener member => steady listener (List.mem_cons_of_mem step member)
    intro single member
    rcases List.mem_append.mp member with now | later
    · cases step with
      | titles stem settings rows isImmediate =>
        rcases List.mem_append.mp now with check | drop
        · obtain ⟨request, -, rfl⟩ := List.mem_map.mp check
          exact trivial
        · obtain ⟨field, -, rfl⟩ := List.mem_map.mp drop
          exact trivial
      | subscribe listener =>
        rw [List.mem_singleton.mp now]
        exact steady listener (List.mem_cons_self ..)
      | _ =>
        rw [List.mem_singleton.mp now]
        exact trivial
    · exact rest single later

end DatasetForm.Form
