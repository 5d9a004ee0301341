import DatasetForm.Proofs.Form.History

/-!
The verdict that a field shows. Whenever a field shows one, it is what the rules of the last check that was
made or put off for the field find in the value of that check (`ShowsLast`); and a check that waits is the
last one of its field.
-/

set_option autoImplicit false
set_option relaxedAutoImplicit false

namespace DatasetForm.Form

/-- The checks that a step makes or puts off. -/
def answeredBy (form : Form) (step : FormStep) : List Pass :=
  ((form.requests step).filter CheckRequest.isAnswered).map (·.pass)

/-- The checks of a run that were made or put off. -/
def answered (form : Form) : List FormStep → List Pass
  | [] => []
  | step :: steps => form.answeredBy step ++ answered (form.perform step).1 steps

/-- The last check of a field. -/
def lastOf? (field : String) (passes : List Pass) : Option Pass :=
  passes.reverse.find? fun pass => pass.field == field

theorem lastOf?_concat (field : String) (passes : List Pass) (pass : Pass) :
    lastOf? field (passes ++ [pass]) = if field = pass.field then some pass else lastOf? field passes := by
  rw [lastOf?, List.reverse_append, List.reverse_singleton, List.singleton_append]
  by_cases own : field = pass.field
  · rw [if_pos own, List.find?_cons_of_pos (by simp [own])]
  · rw [if_neg own, List.find?_cons_of_neg (by simpa using Ne.symm own), lastOf?]

/-- Fields show verdicts of their last checks only, and wait for their last checks only. -/
structure ShowsLast (form : Form) (passes : List Pass) : Prop where
  verdict : ∀ field, (form.state field).status = .valid ∨ (form.state field).status = .invalid →
    ∃ pass, lastOf? field passes = some pass ∧ Shows (form.state field) pass
  waiting : ∀ call ∈ form.agenda.calls, lastOf? call.action.field passes = some call.action

namespace ShowsLast

variable {form struck done : Form} {passes more : List Pass} {pass : Pass}

private theorem of_struck (last : form.ShowsLast passes) (strikes : Struck pass.field form struck) :
    struck.ShowsLast passes where
  verdict field shown := by
    rw [strikes.state] at shown ⊢
    exact last.verdict field shown
  waiting call member := by
    rw [strikes.agenda] at member
    exact last.waiting call (List.mem_filter.mp member).1

/-- A blank field has no verdict. -/
private theorem not_blank {state : FieldState} (shown : state.status = .valid ∨ state.status = .invalid) :
    ¬ IsBlank state := by
  rintro ⟨status, -, -⟩
  simp [status] at shown

private theorem of_completed (last : form.ShowsLast passes) (strikes : Struck pass.field form struck)
    (completes : Completed pass struck done)
    (others : ∀ other, lastOf? other more = if other = pass.field then some pass else lastOf? other passes) :
    done.ShowsLast more where
  verdict field shown := by
    rw [others]
    by_cases own : field = pass.field
    · subst own
      exact ⟨pass, if_pos rfl, completes.shown.resolve_right (not_blank shown)⟩
    · rw [completes.others field own, strikes.state] at shown ⊢
      rw [if_neg own]
      exact last.verdict field shown
  waiting call member := by
    rw [completes.agenda, strikes.agenda] at member
    obtain ⟨old, beside⟩ := List.mem_filter.mp member
    rw [others, if_neg (bne_iff_ne.mp beside)]
    exact last.waiting call old

private theorem of_putOff (last : form.ShowsLast passes) (strikes : Struck pass.field form struck)
    (delay : Int) : (struck.putOff delay pass).ShowsLast (passes ++ [pass]) where
  verdict field shown := by
    rw [putOff_state] at shown ⊢
    by_cases own : field = pass.field
    · simp [own] at shown
    · rw [if_neg own, strikes.state] at shown ⊢
      rw [lastOf?_concat, if_neg own]
      exact last.verdict field shown
  waiting call member := by
    rw [lastOf?_concat]
    rcases Agenda.mem_insertCall.mp member with rfl | old
    · exact if_pos rfl
    · rw [strikes.agenda] at old
      obtain ⟨old, beside⟩ := List.mem_filter.mp old
      rw [if_neg (bne_iff_ne.mp beside)]
      exact last.waiting call old

private theorem validate (last : form.ShowsLast passes) (inStep : form.InStep) (pass : Pass)
    (isImmediate : Bool) :
    (form.validate pass isImmediate).1.ShowsLast
      (passes ++ if (form.validate pass isImmediate).2.2.toBool then [pass] else []) := by
  have outcome := inStep.validate_cases pass isImmediate
  generalize form.validate pass isImmediate = answer at outcome ⊢
  cases outcome with
  | unread => simpa [Except.toBool] using last
  | refused _ _ _ _ strikes => simpa [Except.toBool] using last.of_struck strikes
  | atOnce _ _ strikes =>
    exact last.of_completed strikes (complete_completed strikes.idle strikes.undisposed) fun other =>
      lastOf?_concat other passes pass
  | putOff _ _ _ _ strikes => exact last.of_putOff strikes _

private theorem validateAll (last : form.ShowsLast passes) (inStep : form.InStep) (isImmediate : Bool)
    (asked : List Pass) :
    (form.validateAll isImmediate asked).1.ShowsLast
      (passes ++ ((requestsFor isImmediate form asked).filter CheckRequest.isAnswered).map (·.pass)) := by
  induction asked generalizing form passes with
  | nil => simpa [Form.validateAll, requestsFor] using last
  | cons pass asked ih =>
    have first := last.validate inStep pass isImmediate
    have next := ih first (inStep.validate pass isImmediate)
    rw [requestsFor, List.filter_cons, CheckRequest.isAnswered]
    obtain ⟨after, events, failure, result, all⟩ | ⟨after, events, outcome, result, all⟩ :=
      form.validateAll_cons_cases isImmediate pass asked
    · rw [result] at first
      simpa [all, result, Except.toBool] using first
    · rw [result] at next
      simpa [all, result, Except.toBool] using next

end ShowsLast

private theorem keeps_showsLast (passes : List Pass) :
    Keeps (fun _ _ => False) fun form => form.InStep ∧ form.ShowsLast passes where
  validate _ never := never.elim
  fire := by
    rintro form target call agenda ⟨inStep, last⟩ taken
    refine ⟨inStep.fire taken, ?_⟩
    obtain ⟨struck, strikes, -, fires⟩ := inStep.fire_cases taken
    obtain ⟨rest, calls, -⟩ := Agenda.takeDue?_eq_some taken
    have rested : ({ form with agenda := form.agenda.rest call.due } : Form).ShowsLast passes :=
      ⟨last.verdict, last.waiting⟩
    have own := last.waiting call (calls ▸ List.mem_cons_self ..)
    rw [fires]
    refine rested.of_completed strikes (complete_completed strikes.idle strikes.undisposed) fun other => ?_
    split
    next same => rw [same, own]
    next => rfl
  rest target kept := ⟨kept.1.rest target, kept.2.verdict, kept.2.waiting⟩
  touch := by
    rintro form field ⟨inStep, last⟩
    refine ⟨keeps_inStep.touch field inStep, fun other shown => ?_, last.waiting⟩
    rw [touch, state_update] at shown ⊢
    split at shown
    next same =>
      subst same
      obtain ⟨pass, found, shows⟩ := last.verdict other shown
      rw [if_pos rfl]
      exact ⟨pass, found, shows.status, shows.outcome, shows.value⟩
    next differ =>
      rw [if_neg differ]
      exact last.verdict other shown
  reset := by
    rintro form field ⟨inStep, last⟩
    refine ⟨inStep.reset field, fun other shown => ?_, fun call member => ?_⟩
    · rw [reset_state] at shown ⊢
      split at shown
      · simp at shown
      next differ =>
        rw [if_neg differ]
        exact last.verdict other shown
    · rw [inStep.reset_agenda] at member
      exact last.waiting call (List.mem_filter.mp member).1
  resetAll := by
    rintro form ⟨inStep, last⟩
    refine ⟨inStep.resetAll, fun other shown => ?_, fun call member => ?_⟩
    · simp [state, resetAll] at shown
    · rw [inStep.resetAll_agenda] at member
      cases member
  listen _ kept := ⟨keeps_inStep.listen _ kept.1, kept.2.verdict, kept.2.waiting⟩

private theorem ShowsLast.titles {form : Form} {passes : List Pass} (last : form.ShowsLast passes)
    (inStep : form.InStep) (stem : String) (settings : Settings) (rows : List TitleRow)
    (isImmediate : Bool) :
    (form.validateTitles stem settings rows isImmediate).1.ShowsLast
      (passes ++ form.answeredBy (.titles stem settings rows isImmediate)) := by
  have all := last.validateAll inStep isImmediate (titlePasses stem settings rows)
  have kept := inStep.validateAll isImmediate (titlePasses stem settings rows)
  simp only [answeredBy, requests]
  obtain ⟨next, events, failure, result, titles⟩ | ⟨next, events, outcomes, result, titles⟩ :=
    form.validateTitles_cases stem settings rows isImmediate
  · rw [titles]
    rwa [result] at all
  · rw [titles]
    rw [result] at all kept
    exact ((keeps_showsLast _).sweep stem rows.length ⟨kept, all⟩).2

/-- The verdicts that a step leaves are those of the last checks, the ones of the step included. -/
theorem ShowsLast.perform {form : Form} {passes : List Pass} (last : form.ShowsLast passes)
    (inStep : form.InStep) (step : FormStep) :
    (form.perform step).1.ShowsLast (passes ++ form.answeredBy step) := by
  have quiet (none : form.answeredBy step = []) (checks : step.checks = []) :
      (form.perform step).1.ShowsLast (passes ++ form.answeredBy step) := by
    have kept := (keeps_showsLast passes).perform step ⟨inStep, last⟩ (by simp [checks])
    simpa [none] using kept.2
  cases step with
  | validate pass isImmediate =>
    have one := last.validate inStep pass isImmediate
    have answered : form.answeredBy (.validate pass isImmediate) =
        if (form.validate pass isImmediate).2.2.toBool then [pass] else [] := by
      rw [answeredBy, requests_validate, List.filter_cons, CheckRequest.isAnswered]
      split <;> rfl
    rwa [← answered] at one
  | titles stem settings rows isImmediate => exact last.titles inStep stem settings rows isImmediate
  | _ => exact quiet rfl rfl

theorem ShowsLast.run {form : Form} {passes : List Pass} (last : form.ShowsLast passes)
    (inStep : form.InStep) (steps : List FormStep) :
    (form.run steps).ShowsLast (passes ++ form.answered steps) := by
  induction steps generalizing form passes with
  | nil => simpa [Form.run, answered] using last
  | cons step steps ih =>
    have next := ih (last.perform inStep step) (inStep.perform step)
    rwa [List.append_assoc] at next

theorem opened_showsLast (hasClock : Bool) (now : Int) : (opened hasClock now).ShowsLast [] where
  verdict field shown := by simp [opened, state] at shown
  waiting call member := by cases member

end DatasetForm.Form
