import DatasetForm.Proofs.Form.Alone

/-!
Fields do not interfere. Since a field fares in a run as it would alone, the checks, touches and resets of other
fields can be deleted from the run, and what is seen of the field stays the same (`shownOf_deleting_others`).
-/

set_option autoImplicit false
set_option relaxedAutoImplicit false

namespace DatasetForm.Form

private theorem arrive_listeners (lone : LoneField) (target : Int) :
    (lone.arrive target).listeners = lone.listeners := by
  unfold LoneField.arrive
  split
  · rfl
  · split <;> rfl

private theorem steady_perform {lone : LoneField} (steady : Steady lone.listeners) {step : FormStep}
    (plain : step.IsPlain) (name : String) : Steady (lone.perform name step).listeners := by
  cases step with
  | validate pass isImmediate =>
    rw [LoneField.perform]
    split
    · rwa [LoneField.validate_listeners]
    · exact steady
  | titles => exact plain.elim
  | touch field =>
    rw [LoneField.perform]
    split <;> exact steady
  | reset field =>
    rw [LoneField.perform]
    split <;> exact steady
  | subscribe listener =>
    intro other member
    rcases List.mem_append.mp member with old | new
    · exact steady other old
    · rw [List.mem_singleton.mp new]
      exact plain
  | unsubscribe id => exact fun listener member => steady listener (List.mem_of_mem_eraseP member)
  | exit => exact fun _ member => absurd member List.not_mem_nil
  | dispose => exact fun _ member => absurd member List.not_mem_nil
  | advance duration =>
    change Steady (lone.arrive _).listeners
    rwa [arrive_listeners]
  | _ => exact steady

theorem InStep.steady_perform {form : Form} (inStep : form.InStep) (steady : Steady form.listeners)
    {step : FormStep} (plain : step.IsPlain) : Steady (form.perform step).1.listeners := by
  have alone := inStep.alone_perform steady plain ""
  have kept : Steady ((form.alone "").perform "" step).listeners := Form.steady_perform steady plain ""
  rw [← alone] at kept
  exact kept

/-- What a field shows, and whether it waits, after each step of a run that concerns it. -/
def shownOf (field : String) : Form → List FormStep → List (FieldState × Bool)
  | _, [] => []
  | form, step :: steps =>
    let next := (form.perform step).1
    if step.concerns field then (next.state field, next.isPending field) :: shownOf field next steps
    else shownOf field next steps

/-- Two forms that agree on a field show the same of it, though one of them takes no steps about others. -/
private theorem shownOf_filter {form other : Form} (inStep : form.InStep) (inStep' : other.InStep)
    (steady : Steady form.listeners) {field : String} (same : other.alone field = form.alone field)
    {steps : List FormStep} (plain : ∀ step ∈ steps, step.IsPlain) :
    shownOf field other (steps.filter (·.concerns field)) = shownOf field form steps := by
  induction steps generalizing form other with
  | nil => rfl
  | cons step steps ih =>
    have first : step.IsPlain := plain step (List.mem_cons_self ..)
    have others : ∀ step ∈ steps, step.IsPlain := fun next member =>
      plain next (List.mem_cons_of_mem step member)
    have alone := inStep.alone_perform steady first field
    have next := inStep.perform step
    have steadyNext := inStep.steady_perform steady first
    cases own : step.concerns field with
    | false =>
      rw [LoneField.perform_eq_self own] at alone
      rw [List.filter_cons_of_neg (by simp [own]), shownOf, own]
      exact ih next inStep' steadyNext (same.trans alone.symm) others
    | true =>
      have steady' : Steady (other.alone field).listeners := by
        rw [same]
        exact steady
      have alone' := inStep'.alone_perform steady' first field
      rw [same, ← alone] at alone'
      have next' := inStep'.perform step
      rw [List.filter_cons_of_pos own, shownOf, shownOf, own]
      simp only [if_true, state_alone, next.isPending_alone, next'.isPending_alone, alone',
        ih next next' steadyNext alone' others]

/-- Fields do not interfere. Whatever was done with a form, deleting from the run the checks, touches and
resets of other fields changes nothing that is seen of a field after any of the steps that are left. -/
theorem shownOf_deleting_others (hasClock : Bool) (now : Int) (field : String) (steps : List FormStep)
    (plain : ∀ step ∈ steps, step.IsPlain) :
    shownOf field (opened hasClock now) (steps.filter (·.concerns field)) =
      shownOf field (opened hasClock now) steps := by
  have start := opened_inStep hasClock now
  refine shownOf_filter start start ?_ rfl plain
  intro listener member
  cases member

private def titleRule (interval : Int) : Rule :=
  { name := .text "title", debounce := .int interval, check := fun _ _ => .ok none }

private def typing (field title : String) (interval : Int) : FormStep :=
  .validate { field, value := .text title, rules := [titleRule interval], context := .null } false

/-- Two fields are typed into; a listener forgets each of them once it was checked. -/
private def twoFields : List FormStep :=
  [.subscribe ⟨"forgetful", .reset⟩, typing "b" "early" 100, typing "a" "first" 300, .touch "b",
    .advance 200000, typing "b" "late" 400, .touch "a", .reset "b", .advance 100000]

theorem shownOf_deleting_others_typing :
    (∀ step ∈ twoFields, step.IsPlain) ∧
      shownOf "a" (opened true 0) (twoFields.filter (·.concerns "a")) = shownOf "a" (opened true 0) twoFields ∧
      (shownOf "a" (opened true 0) twoFields).map (fun shown => (shown.1.status, shown.1.isTouched, shown.2)) =
        [(.idle, false, false), (.pending, false, true), (.pending, false, true), (.pending, true, true),
          (.idle, false, false)] := by
  have plain : ∀ step ∈ twoFields, step.IsPlain := by
    simp [twoFields, typing, FormStep.IsPlain]
  exact ⟨plain, shownOf_deleting_others true 0 "a" twoFields plain, by decide +kernel⟩

end DatasetForm.Form
