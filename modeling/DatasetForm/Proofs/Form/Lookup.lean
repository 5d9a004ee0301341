import DatasetForm.Form.Run

/-!
What a form keeps under the name of a field, and what each change of the form leaves there. `waiting?` is
the one question about timers that the rest of the theory asks.
-/

set_option autoImplicit false
set_option relaxedAutoImplicit false

namespace DatasetForm.Form

section Entries

variable {α : Type} (name other : String)

private theorem lookup_cons_ite (a : α) (rest : List (String × α)) :
    ((name, a) :: rest).lookup other = if other = name then some a else rest.lookup other := by
  by_cases same : other = name
  · simp [same]
  · have differ : (other == name) = false := by simpa using same
    simp only [List.lookup_cons, differ, same, ↓reduceIte]

@[simp] theorem lookup_assign (a : α) (entries : List (String × α)) :
    (assign name a entries).lookup other = if other = name then some a else entries.lookup other := by
  induction entries with
  | nil => exact lookup_cons_ite name other a []
  | cons entry rest ih =>
    obtain ⟨key, b⟩ := entry
    rw [assign]
    by_cases found : key = name
    · subst found
      simp only [beq_self_eq_true, ↓reduceIte, lookup_cons_ite]
      split <;> rfl
    · have differ : (key == name) = false := by simpa using found
      simp only [differ, Bool.false_eq_true, ↓reduceIte, lookup_cons_ite, ih]
      by_cases same : other = key
      · simp [same, found]
      · simp [same]

@[simp] theorem lookup_erase (entries : List (String × α)) :
    (erase name entries).lookup other = if other = name then none else entries.lookup other := by
  induction entries with
  | nil => exact (ite_self none).symm
  | cons entry rest ih =>
    obtain ⟨key, b⟩ := entry
    rw [erase] at ih ⊢
    by_cases found : key = name
    · subst found
      simp only [List.filter_cons, bne_self_eq_false, Bool.false_eq_true, ↓reduceIte, ih,
        lookup_cons_ite]
      split <;> rfl
    · have differ : (key != name) = true := by simpa using found
      simp only [List.filter_cons, differ, ↓reduceIte, lookup_cons_ite, ih]
      by_cases same : other = key
      · simp [same, found]
      · simp [same]

end Entries

theorem mem_names_iff (form : Form) (field : String) :
    field ∈ form.fields.map (·.1) ↔ form.fields.lookup field ≠ none := by
  rw [Ne, List.lookup_eq_none_iff]
  simp only [List.mem_map, Classical.not_forall, bne_iff_ne, ne_eq, Classical.not_not]
  constructor
  · rintro ⟨entry, member, rfl⟩
    exact ⟨entry, member, rfl⟩
  · rintro ⟨entry, member, same⟩
    exact ⟨entry, member, same.symm⟩

/-- The number of the call that waits for a field, if there is one. -/
def waiting? (form : Form) (field : String) : Option Nat :=
  (form.timers.lookup field).bind (·.waiting)

/-- No timer that the form keeps was disposed of. -/
def Undisposed (form : Form) : Prop :=
  ∀ field timer, form.timers.lookup field = some timer → timer.isDisposed = false

theorem isPending_eq (form : Form) (field : String) :
    form.isPending field = (form.waiting? field).isSome := by
  rw [isPending, waiting?]
  cases form.timers.lookup field <;> rfl

variable (form : Form) (field other : String)

@[simp] theorem state_update (change : FieldState → FieldState) :
    (form.update field change).state other =
      if other = field then change (form.state field) else form.state other := by
  simp only [update, state, lookup_assign]
  split <;> rfl

@[simp] theorem update_hasClock (change : FieldState → FieldState) :
    (form.update field change).hasClock = form.hasClock := rfl

@[simp] theorem update_agenda (change : FieldState → FieldState) :
    (form.update field change).agenda = form.agenda := rfl

@[simp] theorem update_timers (change : FieldState → FieldState) :
    (form.update field change).timers = form.timers := rfl

@[simp] theorem update_waiting? (change : FieldState → FieldState) :
    (form.update field change).waiting? other = form.waiting? other := rfl

@[simp] theorem reset_waiting? :
    (form.reset field).waiting? other = if other = field then none else form.waiting? other := by
  simp only [waiting?, reset, lookup_erase]
  split <;> rfl

@[simp] theorem reset_state :
    (form.reset field).state other = if other = field then {} else form.state other := by
  simp only [state, reset, lookup_erase]
  split <;> rfl

theorem Undisposed.reset {form : Form} (live : form.Undisposed) : (form.reset field).Undisposed := by
  intro other timer found
  simp only [Form.reset, lookup_erase] at found
  split at found
  · cases found
  · exact live other timer found

/-- Whatever listeners do to a form is done by touching and resetting the field they were told of, and by
taking subscriptions out. -/
theorem notify_preserves {P : Form → Prop} {field : String} (touch : ∀ form, P form → P (form.touch field))
    (reset : ∀ form, P form → P (form.reset field))
    (unsubscribe : ∀ form id, P form → P (form.unsubscribe id)) (status : Status)
    (outcome : Option Outcome) (listeners : List Listener) {form : Form} (holds : P form) :
    P (notify field status outcome form listeners).1 := by
  induction listeners generalizing form with
  | nil => exact holds
  | cons listener others ih =>
    rw [notify]
    refine ih ?_
    rw [react]
    split
    · exact holds
    · exact holds
    · exact unsubscribe form listener.id holds
    · exact touch form holds
    · exact reset form holds

end DatasetForm.Form
