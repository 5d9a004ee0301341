import DatasetForm.Proofs.Form.LastWrite
import DatasetForm.Proofs.Form.Telling
import DatasetForm.Proofs.Form.Transcript
import Mathlib.Logic.Function.Iterate

/-!
Who hears of which checks. Every check that a form makes, at once or when its time has come, is told to all who were
subscribed when it began (`heard`); those who take their subscriptions out when they are told are gone at the next
check (`staying`). A step is heard of through the checks that it makes and through nothing else
(`InStep.hears_perform`), so that a check which is put off, refused or struck out is not heard of.
-/

set_option autoImplicit false
set_option relaxedAutoImplicit false

namespace DatasetForm

/-- What a listener is told of a check. -/
def Pass.notice (pass : Pass) (listener : Listener) : FormEvent :=
  let outcome := Rule.evaluate pass.rules pass.value pass.context
  .listener listener.id pass.field (Form.statusOf outcome) outcome

namespace Form

/-- Who is left when listeners were told, and some of them took out the first of their subscriptions. -/
def leave (told listeners : List Listener) : List Listener :=
  told.foldl
    (fun left listener =>
      if listener.reaction = .unsubscribe then left.eraseP (·.id == listener.id) else left)
    listeners

/-- Who is still subscribed once all were told. -/
def staying (listeners : List Listener) : List Listener :=
  leave listeners listeners

/-- What is heard of checks that are made one after the other: the rules that each calls, and all who are subscribed
when it begins. -/
def heard : List Listener → List Made → List FormEvent
  | _, [] => []
  | listeners, made :: others =>
    ruleEvents made.pass ++ listeners.map made.pass.notice ++ heard (staying listeners) others

theorem heard_append (listeners : List Listener) (before after : List Made) :
    heard listeners (before ++ after) =
      heard listeners before ++ heard (staying^[before.length] listeners) after := by
  induction before generalizing listeners with
  | nil => rfl
  | cons made others ih =>
    rw [List.cons_append, heard, heard, ih, List.length_cons, Function.iterate_succ_apply]
    simp only [List.append_assoc]

/-- Where listeners of one name do the same, those who unsubscribe are told as often as they were subscribed, and
are gone then. -/
theorem staying_eq_filter {listeners : List Listener}
    (alike : ∀ listener ∈ listeners, ∀ other ∈ listeners, listener.id = other.id →
      listener.reaction = other.reaction) :
    staying listeners = listeners.filter (·.reaction ≠ .unsubscribe) := by
  -- those who were told already and stayed stand before those who are still to be told
  have rest (kept told : List Listener) (sub : ∀ listener ∈ kept ++ told, listener ∈ listeners)
      (stayed : ∀ listener ∈ kept, listener.reaction ≠ .unsubscribe) :
      leave told (kept ++ told) = kept ++ told.filter (·.reaction ≠ .unsubscribe) := by
    induction told generalizing kept with
    | nil => rfl
    | cons listener told ih =>
      rw [leave, List.foldl_cons]
      by_cases leaves : listener.reaction = .unsubscribe
      · have none : ∀ other ∈ kept, ¬(other.id == listener.id) = true := by
          intro other member same
          have reacts := alike other (sub other (List.mem_append_left _ member)) listener
            (sub listener (List.mem_append_right _ List.mem_cons_self)) (beq_iff_eq.mp same)
          exact stayed other member (reacts.trans leaves)
        have first : (listener :: told).eraseP (·.id == listener.id) = told :=
          List.eraseP_cons_of_pos (beq_self_eq_true listener.id)
        rw [if_pos leaves, List.eraseP_append_right _ none, first,
          List.filter_cons_of_neg (by simpa using leaves)]
        refine ih kept (fun other member => sub other ?_) stayed
        exact ((List.sublist_cons_self listener told).append_left kept).subset member
      · have next := ih (kept ++ [listener])
        rw [List.append_assoc, List.append_assoc] at next
        rw [if_neg leaves, List.filter_cons_of_pos (by simpa using leaves)]
        exact next sub (List.forall_mem_append.mpr ⟨stayed, List.forall_mem_singleton.mpr leaves⟩)
  exact rest [] listeners (fun _ member => member) fun _ member => nomatch member

/-- Steps that made some checks were heard of by those who were subscribed. -/
structure Hears (form next : Form) (events : List FormEvent) (made : List Made) : Prop where
  events : events = heard form.listeners made
  listeners : next.listeners = staying^[made.length] form.listeners

namespace Hears

variable {form next last : Form} {events others : List FormEvent} {made more : List Made}

theorem silent (same : next.listeners = form.listeners) : Hears form next [] [] :=
  ⟨rfl, same⟩

theorem trans (first : Hears form next events made) (second : Hears next last others more) :
    Hears form last (events ++ others) (made ++ more) where
  events := by rw [first.events, second.events, heard_append, first.listeners]
  listeners := by
    rw [second.listeners, first.listeners, List.length_append, Nat.add_comm, Function.iterate_add_apply]

end Hears

theorem notify_tells (field : String) (status : Status) (outcome : Option Outcome) (form : Form)
    (told : List Listener) :
    (notify field status outcome form told).1.listeners = leave told form.listeners ∧
      (notify field status outcome form told).2 =
        told.map fun listener => .listener listener.id field status outcome := by
  induction told generalizing form with
  | nil => exact ⟨rfl, rfl⟩
  | cons listener others ih =>
    obtain ⟨left, events⟩ := ih (form.react field listener)
    have reacts : (form.react field listener).listeners =
        if listener.reaction = .unsubscribe then form.listeners.eraseP (·.id == listener.id)
        else form.listeners := by
      rw [react]
      cases listener.reaction <;> rfl
    simp only [notify, left, events, reacts, leave, List.foldl_cons, List.map_cons]
    trivial

/-- A check that is made is told to all who were subscribed when it began. -/
theorem complete_hears (form : Form) (pass : Pass) :
    (form.complete pass).1.listeners = staying form.listeners ∧
      (form.complete pass).2.1 = ruleEvents pass ++ form.listeners.map pass.notice := by
  obtain ⟨left, events⟩ := notify_tells pass.field
    (statusOf (Rule.evaluate pass.rules pass.value pass.context))
    (Rule.evaluate pass.rules pass.value pass.context)
    (form.update pass.field fun state => { state with
      status := statusOf (Rule.evaluate pass.rules pass.value pass.context)
      outcome := Rule.evaluate pass.rules pass.value pass.context
      value := pass.value }) form.listeners
  exact ⟨left, congrArg (ruleEvents pass ++ ·) events⟩

/-- So is one that is made once what waited for its field was struck out. -/
theorem Struck.hears {field : String} {form struck : Form} (strikes : Struck field form struck) (pass : Pass)
    (number : Option Nat) (time : Int) :
    Hears form (struck.complete pass).1 (struck.complete pass).2.1 [⟨number, time, pass⟩] := by
  obtain ⟨left, events⟩ := struck.complete_hears pass
  rw [strikes.listeners] at left events
  refine ⟨?_, left⟩
  rw [events, heard, heard, List.append_nil]

section

variable {form : Form} (inStep : form.InStep)
include inStep

theorem InStep.hears_validate (pass : Pass) (isImmediate : Bool) :
    Hears form (form.validate pass isImmediate).1 (form.validate pass isImmediate).2.1
      (CheckRequest.made ⟨form, pass, isImmediate⟩) := by
  have outcome := inStep.validate_cases pass isImmediate
  generalize form.validate pass isImmediate = answer at outcome ⊢
  cases outcome with
  | unread unread =>
    rw [CheckRequest.made_unread unread]
    exact .silent rfl
  | refused read _ _ later strikes =>
    rw [CheckRequest.made_later read later]
    exact .silent strikes.listeners
  | atOnce read due strikes =>
    rw [CheckRequest.made_atOnce read due]
    exact strikes.hears pass none form.agenda.now
  | putOff read later _ _ strikes =>
    rw [CheckRequest.made_later read (by simp [later])]
    exact .silent strikes.listeners

theorem InStep.hears_validateAll (isImmediate : Bool) (passes : List Pass) :
    Hears form (form.validateAll isImmediate passes).1 (form.validateAll isImmediate passes).2.1
      ((requestsFor isImmediate form passes).flatMap CheckRequest.made) := by
  induction passes generalizing form with
  | nil => exact .silent rfl
  | cons pass passes ih =>
    have first := inStep.hears_validate pass isImmediate
    have next := ih (inStep.validate pass isImmediate)
    rw [requestsFor, List.flatMap_cons]
    obtain ⟨after, events, failure, result, all⟩ | ⟨after, events, outcome, result, all⟩ :=
      form.validateAll_cons_cases isImmediate pass passes
    · rw [result] at first
      rw [all, result]
      simpa using first
    · rw [result] at first next
      rw [all, result]
      exact first.trans next

theorem InStep.hears_drain (target : Int) (fuel : Nat) :
    Hears form (drain target fuel form).1 (drain target fuel form).2 (madeUntil target fuel form) := by
  induction fuel generalizing form with
  | zero => exact .silent rfl
  | succ fuel ih =>
    cases taken : form.agenda.takeDue? target with
    | none =>
      simp only [drain, madeUntil, taken]
      exact .silent rfl
    | some due =>
      obtain ⟨call, agenda⟩ := due
      obtain ⟨struck, strikes, -, fires⟩ := inStep.fire_cases taken
      have next := ih (inStep.fire taken)
      have told := strikes.hears call.action (some call.number) call.due
      have first : Hears form (struck.complete call.action).1 (struck.complete call.action).2.1 [call.made] :=
        ⟨told.events, told.listeners⟩
      simp only [drain, madeUntil, taken]
      rw [fires] at next ⊢
      exact first.trans next

end

private theorem sweep_listeners (stem : String) (count : Nat) (fields : List String) (form : Form) :
    (sweep stem count form fields).1.listeners = form.listeners := by
  induction fields generalizing form with
  | nil => rfl
  | cons field fields ih =>
    rw [sweep]
    split
    · rfl
    next stale _ =>
      cases stale with
      | true => exact ih (form.reset field)
      | false => exact ih form

theorem InStep.hears_validateTitles {form : Form} (inStep : form.InStep) (stem : String) (settings : Settings)
    (rows : List TitleRow) (isImmediate : Bool) :
    Hears form (form.validateTitles stem settings rows isImmediate).1
      (form.validateTitles stem settings rows isImmediate).2.1
      (form.made (.titles stem settings rows isImmediate)) := by
  have all := inStep.hears_validateAll isImmediate (titlePasses stem settings rows)
  obtain ⟨next, events, failure, result, titles⟩ | ⟨next, events, outcomes, result, titles⟩ :=
    form.validateTitles_cases stem settings rows isImmediate
  · rw [result] at all
    rw [titles]
    exact all
  · rw [result] at all
    rw [titles]
    exact ⟨all.events, (sweep_listeners ..).trans all.listeners⟩

/-- Who is subscribed after a step. -/
def listenersAfter (form : Form) : FormStep → List Listener
  | .subscribe listener => form.listeners ++ [listener]
  | .unsubscribe id => form.listeners.eraseP (·.id == id)
  | .exit | .dispose => []
  | step => staying^[(form.made step).length] form.listeners

/-- A step is heard of through the checks that it makes. -/
theorem InStep.hears_perform {form : Form} (inStep : form.InStep) (step : FormStep) :
    (form.perform step).2.1 = heard form.listeners (form.made step) ∧
      (form.perform step).1.listeners = form.listenersAfter step := by
  cases step with
  | validate pass isImmediate =>
    have told := inStep.hears_validate pass isImmediate
    rw [← made_validate] at told
    exact ⟨told.events, told.listeners⟩
  | titles stem settings rows isImmediate =>
    have told := inStep.hears_validateTitles stem settings rows isImmediate
    exact ⟨told.events, told.listeners⟩
  | advance duration =>
    have told := inStep.hears_drain (form.agenda.now + duration) form.agenda.calls.length
    exact ⟨told.events, told.listeners⟩
  | _ => exact ⟨rfl, rfl⟩

/-- A check that is asked for is made at once, with its outcome for an answer, or nothing is heard of it: then it was
put off, or refused. -/
theorem InStep.validate_heard {form : Form} (inStep : form.InStep) (pass : Pass) (isImmediate : Bool) :
    (form.made (.validate pass isImmediate) = [⟨none, form.agenda.now, pass⟩] ∧
      (form.validate pass isImmediate).2.2 = .ok (Rule.evaluate pass.rules pass.value pass.context)) ∨
    (form.made (.validate pass isImmediate) = [] ∧ (form.validate pass isImmediate).2.1 = [] ∧
      ((∃ due, ⟨due, form.agenda.next, pass⟩ ∈ (form.validate pass isImmediate).1.agenda.calls ∧
          (form.validate pass isImmediate).2.2 = .ok none) ∨
        ∃ failure, (form.validate pass isImmediate).2.2 = .error failure)) := by
  have outcome := inStep.validate_cases pass isImmediate
  rw [made_validate]
  generalize form.validate pass isImmediate = answer at outcome ⊢
  cases outcome with
  | unread unread => exact .inr ⟨CheckRequest.made_unread unread, rfl, .inr ⟨_, rfl⟩⟩
  | refused read _ _ later _ => exact .inr ⟨CheckRequest.made_later read later, rfl, .inr ⟨_, rfl⟩⟩
  | atOnce read due _ => exact .inl ⟨CheckRequest.made_atOnce read due, rfl⟩
  | @putOff struck interval delay read later _ _ strikes =>
    refine .inr ⟨CheckRequest.made_later read (by simp [later]), rfl, .inl ⟨form.agenda.now + delay, ?_, rfl⟩⟩
    rw [putOff, update_agenda, Agenda.put, strikes.agenda]
    exact Agenda.mem_insertCall.mpr (.inl rfl)

/-- Every check is heard of by all who are subscribed when it begins. Whatever they do when they are told, each is
told once for each of its subscriptions, in order, with the field of the check and the status and outcome that it
gave. A check that is put off or refused is not heard of, and one that waits is made, and heard of, only if the clock
arrives at its time before it is struck out. Nothing that is answered or heard depends on whether a listener raises. -/
theorem every_check_is_heard (hasClock : Bool) (now : Int) (steps : List FormStep) :
    let form := (opened hasClock now).run steps
    (∀ (raised : Listener → Failure) (begun : Form) (pass : Pass),
      begun.completeTelling raised pass = begun.complete pass ∧
        (begun.complete pass).2.1 = ruleEvents pass ++ begun.listeners.map pass.notice) ∧
    (∀ step, (form.perform step).2.1 = heard form.listeners (form.made step) ∧
      (form.perform step).1.listeners = form.listenersAfter step) ∧
    (∀ pass isImmediate,
      (form.made (.validate pass isImmediate) = [⟨none, form.agenda.now, pass⟩] ∧
        (form.validate pass isImmediate).2.2 = .ok (Rule.evaluate pass.rules pass.value pass.context)) ∨
      (form.made (.validate pass isImmediate) = [] ∧ (form.validate pass isImmediate).2.1 = [] ∧
        ((∃ due, ⟨due, form.agenda.next, pass⟩ ∈ (form.validate pass isImmediate).1.agenda.calls ∧
            (form.validate pass isImmediate).2.2 = .ok none) ∨
          ∃ failure, (form.validate pass isImmediate).2.2 = .error failure))) ∧
    (∀ call ∈ form.agenda.calls, ∀ later,
      (ReachesUndisturbed call.action.field call.due form later →
        (form.history later).filter (fun made => made.number == some call.number) = [call.made]) ∧
      (¬ ReachesUndisturbed call.action.field call.due form later →
        (form.history later).filter (fun made => made.number == some call.number) = [])) ∧
    ∀ step, (form.perform step).2 =
      (((opened hasClock now).run (steps.map .calmed)).perform step.calmed).2 := by
  intro form
  have start := opened_inStep hasClock now
  have inStep : form.InStep := start.run steps
  have calm : Indistinct form ((opened hasClock now).run (steps.map .calmed)) :=
    (start.indistinct start rfl rfl rfl rfl rfl).run_calmed steps
  refine ⟨?_, inStep.hears_perform, inStep.validate_heard, ?_, fun step => (calm.perform_calmed step).2⟩
  · intro raised begun pass
    exact ⟨completeTelling_eq raised begun pass, (begun.complete_hears pass).2⟩
  · intro call member later
    exact inStep.filter_history member later

private def depthRule : Rule :=
  { name := .text "depth", debounce := .int 300, check := fun _ _ => .ok none }

private def depth : Pass :=
  { field := "depth", value := .text "40", rules := [depthRule], context := .null }

/-- Some who raise, unsubscribe and forget the field, among others, two of whom are subscribed twice. -/
private def listening : List FormStep :=
  [.subscribe ⟨"snow", .record⟩, .subscribe ⟨"storm", .raise⟩, .subscribe ⟨"thaw", .unsubscribe⟩,
    .subscribe ⟨"thaw", .unsubscribe⟩, .subscribe ⟨"melt", .reset⟩, .subscribe ⟨"snow", .record⟩]

theorem every_check_is_heard_thaw :
    let form := (opened true 0).run listening
    let waiting := (opened true 0).run (listening ++ [.validate depth false])
    (form.perform (.validate depth true)).2.1 =
        ["snow", "storm", "thaw", "thaw", "melt", "snow"].map (.listener · "depth" .valid none) ∧
      (form.perform (.validate depth true)).1.listeners.map Listener.id = ["snow", "storm", "melt", "snow"] ∧
      (form.perform (.validate depth false)).2.1 = [] ∧
      ∃ call ∈ waiting.agenda.calls,
        ¬ ReachesUndisturbed "depth" call.due waiting [.reset "depth", .advance 300000] ∧
        (waiting.history [.reset "depth", .advance 300000]).filter
          (fun made => made.number == some call.number) = [] := by
  intro form waiting
  obtain ⟨-, hears, -, -, -⟩ := every_check_is_heard true 0 listening
  obtain ⟨told, left⟩ := hears (.validate depth true)
  obtain ⟨silent, -⟩ := hears (.validate depth false)
  obtain ⟨-, -, -, waits, -⟩ := every_check_is_heard true 0 (listening ++ [.validate depth false])
  have calls : waiting.agenda.calls = [⟨300000, 0, depth⟩] := rfl
  refine ⟨told, congrArg (List.map Listener.id) left, silent, ⟨300000, 0, depth⟩, by simp [calls], ?_⟩
  have forgotten : ¬ ReachesUndisturbed "depth" 300000 waiting [.reset "depth", .advance 300000] := by
    rintro (arrives | ⟨undisturbed, -⟩)
    · cases arrives
    · exact undisturbed (.inr rfl)
  exact ⟨forgotten, (waits _ (by simp [waiting, calls]) _).2 forgotten⟩

end Form

end DatasetForm
