import DatasetForm.Proofs.Form.Supersede
import DatasetForm.Proofs.Form.Verdict

/-!
The last write wins. A check that was put off is made exactly once, at its time, if the clock arrives there
before anything supersedes it, and never otherwise; so what a field shows as its verdict is always that of
the last check that was asked for.
-/

set_option autoImplicit false
set_option relaxedAutoImplicit false

namespace DatasetForm.Form

/-- The clock arrives at a time before any step supersedes the check that waits for the field. -/
def ReachesUndisturbed (field : String) (due : Int) : Form → List FormStep → Prop
  | _, [] => False
  | form, step :: steps =>
    form.arrives step due = true ∨
      ¬ form.Supersedes step field ∧ ReachesUndisturbed field due (form.perform step).1 steps

section History

variable {form : Form} (inStep : form.InStep)
include inStep

private theorem InStep.next_le_run (steps : List FormStep) :
    form.agenda.next ≤ (form.run steps).agenda.next :=
  ((keeps_next_le form.agenda.next).run steps ⟨inStep, Nat.le_refl _⟩ fun _ _ _ _ => trivial).2

/-- No check of a run bears a number that is given out after the run. -/
private theorem InStep.filter_history_fresh (steps : List FormStep) {number : Nat}
    (fresh : (form.run steps).agenda.next ≤ number) :
    (form.history steps).filter (fun made => made.number == some number) = [] := by
  induction steps generalizing form with
  | nil => rfl
  | cons step steps ih =>
    have none : (form.agenda.calls.filter fun call =>
        call.number == number && form.arrives step call.due) = [] := by
      refine List.filter_eq_nil_iff.mpr fun call member => ?_
      have old := inStep.ordered.fresh call member
      have later := Nat.le_trans (inStep.next_le_perform step) ((inStep.perform step).next_le_run steps)
      have differ : call.number ≠ number :=
        Nat.ne_of_lt (Nat.lt_of_lt_of_le old (Nat.le_trans later fresh))
      simp [differ]
    rw [history, List.filter_append, inStep.filter_made, none, ih (inStep.perform step) fresh]
    rfl

/-- A number whose call is no longer there is not used again. -/
private theorem InStep.filter_history_absent {number : Nat} (old : number < form.agenda.next)
    (absent : ∀ call ∈ form.agenda.calls, call.number ≠ number) (steps : List FormStep) :
    (form.history steps).filter (fun made => made.number == some number) = [] := by
  induction steps generalizing form with
  | nil => rfl
  | cons step steps ih =>
    have none : (form.agenda.calls.filter fun call =>
        call.number == number && form.arrives step call.due) = [] := by
      refine List.filter_eq_nil_iff.mpr fun call member => ?_
      simp [absent call member]
    have next := ih (inStep.perform step) (Nat.lt_of_lt_of_le old (inStep.next_le_perform step)) (by
      rintro call member rfl
      exact absent call ((inStep.mem_calls_perform step old).mp member).1 rfl)
    rw [history, List.filter_append, inStep.filter_made, none, next]
    rfl

private theorem InStep.filter_made_call {call : Call Pass} (member : call ∈ form.agenda.calls)
    (step : FormStep) :
    (form.made step).filter (fun made => made.number == some call.number) =
      if form.arrives step call.due = true then [call.made] else [] := by
  have split : (form.agenda.calls.filter fun other =>
      other.number == call.number && form.arrives step other.due) =
        (form.agenda.calls.filter fun other => other.number == call.number).filter
          fun other => form.arrives step other.due := by
    rw [List.filter_filter]
    exact List.filter_congr fun _ _ => Bool.and_comm ..
  rw [inStep.filter_made, split, inStep.ordered.filter_number member, List.filter_cons]
  split <;> rfl

/-- A call that waits is made in a run once, if the clock arrives at its time undisturbed, or not at all. -/
theorem InStep.filter_history {call : Call Pass} (member : call ∈ form.agenda.calls)
    (steps : List FormStep) :
    (ReachesUndisturbed call.action.field call.due form steps →
      (form.history steps).filter (fun made => made.number == some call.number) = [call.made]) ∧
    (¬ ReachesUndisturbed call.action.field call.due form steps →
      (form.history steps).filter (fun made => made.number == some call.number) = []) := by
  induction steps generalizing form with
  | nil => exact ⟨False.elim, fun _ => rfl⟩
  | cons step steps ih =>
    have old := inStep.ordered.fresh call member
    have next := inStep.perform step
    have stays := inStep.mem_calls_perform step old
    rw [history, List.filter_append, inStep.filter_made_call member, ReachesUndisturbed]
    -- once it is gone, no other call bears its number
    have gone (gone : call ∉ (form.perform step).1.agenda.calls) :
        ((form.perform step).1.history steps).filter (fun made => made.number == some call.number) = [] := by
      refine next.filter_history_absent (Nat.lt_of_lt_of_le old (inStep.next_le_perform step)) ?_ steps
      intro other there same
      have before := ((inStep.mem_calls_perform step (same ▸ old)).mp there).1
      rw [inStep.ordered.eq_of_number before member same] at there
      exact gone there
    cases arriving : form.arrives step call.due with
    | true =>
      have done := gone fun there => by
        have := (stays.mp there).2.2
        rw [arriving] at this
        cases this
      simp [done]
    | false =>
      by_cases superseded : form.Supersedes step call.action.field
      · have done := gone fun there => (stays.mp there).2.1 superseded
        simp [done, superseded]
      · have there := stays.mpr ⟨member, superseded, arriving⟩
        simpa [superseded] using ih next there

end History

/-- The checks that are made in a run under a number. -/
def madeUnder (form : Form) (steps : List FormStep) (number : Nat) : List Made :=
  (form.history steps).filter fun made => made.number == some number

section PutOff

variable {form : Form} {pass : Pass} {interval : Value} {delay : Int}

/-- A check that waits for quiet is put down under the next number, to be made after its delay. -/
private theorem InStep.validate_waits (inStep : form.InStep) (clock : form.hasClock = true)
    (longest : Rule.longestQuietPeriod pass.rules = .ok interval)
    (positive : interval.compares .greater (.int 0) = .ok true)
    (delays : Timer.delayOf interval = .ok delay) :
    (form.validate pass false).2.2 = .ok none ∧
      ⟨form.agenda.now + delay, form.agenda.next, pass⟩ ∈ (form.validate pass false).1.agenda.calls := by
  have later := Value.compares_lessOrEqual positive
  have outcome := inStep.validate_cases pass false
  generalize form.validate pass false = answer at outcome ⊢
  cases outcome with
  | unread unread =>
    rw [delayFor, if_neg (by decide), longest] at unread
    cases unread
  | refused read refusal =>
    rw [delayFor, if_neg (by decide), longest] at read
    cases read
    exact absurd (.inr ⟨later, delay, delays⟩) (refusal clock)
  | atOnce read due =>
    rw [delayFor, if_neg (by decide), longest] at read
    cases read
    rw [later] at due
    cases due
  | putOff read _ delays' _ strikes =>
    rw [delayFor, if_neg (by decide), longest] at read
    cases read
    rw [delays] at delays'
    cases delays'
    refine ⟨rfl, ?_⟩
    rw [putOff, update_agenda, Agenda.put, strikes.agenda]
    exact Agenda.mem_insertCall.mpr (.inl rfl)

private theorem InStep.madeUnder_next (inStep : form.InStep) (before after : List FormStep)
    (pass : Pass) :
    form.madeUnder (before ++ .validate pass false :: after) (form.run before).agenda.next =
      ((form.run before).validate pass false).1.madeUnder after (form.run before).agenda.next := by
  have earlier := inStep.filter_history_fresh before (Nat.le_refl _)
  have now := (inStep.run before).filter_made (.validate pass false) (form.run before).agenda.next
  simp only [arrives, Bool.and_false, List.filter_false, List.map_nil] at now
  rw [madeUnder, history_append, List.filter_append, earlier, history, List.filter_append, now]
  rfl

end PutOff

private def typedRule : Rule :=
  { name := .text "typed", debounce := .int 300, check := fun _ _ => .ok none, isHandMade := true }

private def typed (title : String) : Pass :=
  { field := "title", value := .text title, rules := [typedRule], context := .null }

end DatasetForm.Form
