import DatasetForm.Proofs.Form.Lookup

/-!
The walk over the listeners of a form, as it is made. Each of them is handed the state of the field, which the form
may drop, and make anew, while others are still to be told; one that raises is caught, and the next is told
(`tell`). Whatever they do, each of those who were subscribed at first is told once, in order, with the status and
the outcome that the check left (`run_tell`), so that making a check in this way is `complete`
(`completeTelling_eq`).
-/

set_option autoImplicit false
set_option relaxedAutoImplicit false

namespace DatasetForm

/-- The walk so far: the form, the state that was handed out if the form has dropped it since, and what was
heard. -/
structure Telling where
  form : Form
  dropped : Option FieldState := none
  heard : List FormEvent := []

namespace Telling

/-- The state that listeners are handed. As long as the form keeps it, it changes with the form. -/
def handed (telling : Telling) (field : String) : FieldState :=
  telling.dropped.getD (telling.form.state field)

/-- The listener is called, and reads the state that it is handed. -/
def note (telling : Telling) (field : String) (listener : Listener) : Telling :=
  let state := telling.handed field
  { telling with heard := telling.heard ++ [.listener listener.id field state.status state.outcome] }

/-- Forgetting the field drops its state; those who are handed it still see it as it was. -/
def reset (telling : Telling) (field : String) : Telling :=
  { telling with form := telling.form.reset field, dropped := some (telling.handed field) }

end Telling

namespace Form

/-- Call a listener, which does to the form what it does, or raises. -/
def listen (raised : Listener → Failure) (field : String) (listener : Listener) :
    ExceptT Failure (StateM Telling) Unit := do
  modify fun telling => telling.note field listener
  match listener.reaction with
  | .record => return
  | .raise => throw (raised listener)
  | .unsubscribe => modify fun telling => { telling with form := telling.form.unsubscribe listener.id }
  | .touch => modify fun telling => { telling with form := telling.form.touch field }
  | .reset => modify fun telling => telling.reset field

/-- Call listeners one after the other. What a listener raises is caught. -/
def tell (raised : Listener → Failure) (field : String) : List Listener → StateM Telling Unit
  | [] => return
  | listener :: others => do
    let _ ← (listen raised field listener).run
    tell raised field others

/-- Check a field now, and walk over those who are subscribed. -/
def completeTelling (raised : Listener → Failure) (form : Form) (pass : Pass) :
    Form × List FormEvent × Option Outcome :=
  let outcome := Rule.evaluate pass.rules pass.value pass.context
  let stored := form.update pass.field fun state =>
    { state with status := statusOf outcome, outcome, value := pass.value }
  let ((), telling) := (tell raised pass.field stored.listeners).run { form := stored }
  (telling.form, ruleEvents pass ++ telling.heard, outcome)

end Form

/-- The state that is handed out shows a status and an outcome. -/
structure Telling.Hands (telling : Telling) (field : String) (status : Status) (outcome : Option Outcome) :
    Prop where
  status : (telling.handed field).status = status
  outcome : (telling.handed field).outcome = outcome

namespace Telling.Hands

variable {telling : Telling} {field : String} {status : Status} {outcome : Option Outcome}
  (hands : telling.Hands field status outcome)
include hands

theorem note_eq (listener : Listener) :
    telling.note field listener =
      { telling with heard := telling.heard ++ [.listener listener.id field status outcome] } := by
  rw [note, hands.status, hands.outcome]

/-- A state that was dropped stays as it was, and one that the form keeps is only marked as visited. -/
theorem touch : Hands { telling with form := telling.form.touch field } field status outcome := by
  obtain ⟨form, dropped, heard⟩ := telling
  cases dropped with
  | none =>
    have kept : ({ form := form.touch field, heard : Telling }).handed field =
        { form.state field with isTouched := true } := by
      rw [handed, Option.getD_none, Form.touch, Form.state_update, if_pos rfl]
    exact ⟨kept ▸ hands.status, kept ▸ hands.outcome⟩
  | some state => exact ⟨hands.status, hands.outcome⟩

theorem reset : (telling.reset field).Hands field status outcome :=
  ⟨hands.status, hands.outcome⟩

theorem unsubscribe (id : String) :
    Hands { telling with form := telling.form.unsubscribe id } field status outcome :=
  ⟨hands.status, hands.outcome⟩

end Telling.Hands

namespace Form

variable {field : String} {status : Status} {outcome : Option Outcome} {telling : Telling}

/-- What a listener leaves behind, whether it raises or not: it was told, it did to the form what it does, and the
state that is handed out shows what it showed. -/
theorem run_listen (raised : Listener → Failure) (listener : Listener)
    (hands : telling.Hands field status outcome) :
    ∃ answer after, (listen raised field listener).run.run telling = (answer, after) ∧
      after.form = telling.form.react field listener ∧
      after.heard = telling.heard ++ [.listener listener.id field status outcome] ∧
      after.Hands field status outcome := by
  obtain ⟨id, reaction⟩ := listener
  have noted := hands.note_eq ⟨id, reaction⟩
  have told : (telling.note field ⟨id, reaction⟩).Hands field status outcome := ⟨hands.status, hands.outcome⟩
  have heard := congrArg Telling.heard noted
  cases reaction with
  | record => exact ⟨_, _, rfl, rfl, heard, told⟩
  | raise => exact ⟨_, _, rfl, rfl, heard, told⟩
  | unsubscribe => exact ⟨_, _, rfl, rfl, heard, told.unsubscribe id⟩
  | touch => exact ⟨_, _, rfl, rfl, heard, told.touch⟩
  | reset => exact ⟨_, _, rfl, rfl, heard, told.reset⟩

/-- The walk tells all listeners and does to the form what they do, as `notify` has it. -/
theorem run_tell (raised : Listener → Failure) (listeners : List Listener)
    (hands : telling.Hands field status outcome) :
    ((tell raised field listeners).run telling).2.form = (notify field status outcome telling.form listeners).1 ∧
      ((tell raised field listeners).run telling).2.heard =
        telling.heard ++ (notify field status outcome telling.form listeners).2 := by
  induction listeners generalizing telling with
  | nil => exact ⟨rfl, (List.append_nil _).symm⟩
  | cons listener others ih =>
    obtain ⟨answer, after, called, form, heard, still⟩ := run_listen raised listener hands
    obtain ⟨forms, others'⟩ := ih still
    have rest : (tell raised field (listener :: others)).run telling = (tell raised field others).run after := by
      rw [tell, StateT.run_bind, called]
      rfl
    rw [rest, forms, others', form, heard, notify, List.append_assoc]
    exact ⟨rfl, rfl⟩

/-- Making a check with a walk over the listeners is making it, whatever they raise. -/
theorem completeTelling_eq (raised : Listener → Failure) (form : Form) (pass : Pass) :
    form.completeTelling raised pass = form.complete pass := by
  have hands : Telling.Hands
      { form := form.update pass.field fun state => { state with
          status := statusOf (Rule.evaluate pass.rules pass.value pass.context)
          outcome := Rule.evaluate pass.rules pass.value pass.context
          value := pass.value } }
      pass.field (statusOf (Rule.evaluate pass.rules pass.value pass.context))
      (Rule.evaluate pass.rules pass.value pass.context) := by
    constructor <;> simp [Telling.handed]
  obtain ⟨forms, heard⟩ := run_tell raised form.listeners hands
  rw [List.nil_append] at heard
  exact Prod.ext forms (Prod.ext (congrArg (ruleEvents pass ++ ·) heard) rfl)

end Form

end DatasetForm
