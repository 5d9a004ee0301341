import DatasetForm.Proofs.Form.Alone

/-!
Forms that nobody can tell apart. What a form does hangs on its clock, its listeners, its fields and the checks
that wait, in their order, but not on the numbers of their calls, not on timers that wait for nothing, and not
on whether a listener raises. `Alike` compares two forms in this way, on the fields that are kept; checks of
other fields, which one of the forms makes and the other does not, leave them alike.
-/

set_option autoImplicit false
set_option relaxedAutoImplicit false

namespace DatasetForm

/-- The listener, one that raises made one that records. -/
def Listener.calmed (listener : Listener) : Listener :=
  if listener.reaction = .raise then { listener with reaction := .record } else listener

@[simp] theorem Listener.calmed_id (listener : Listener) : listener.calmed.id = listener.id := by
  rw [calmed]
  split <;> rfl

/-- The call without the number under which it was put down. -/
def Call.unnumbered (call : Call Pass) : Call Pass :=
  { call with number := 0 }

theorem Call.unnumbered_inj {a b : Call Pass} :
    a.unnumbered = b.unnumbered ↔ a.due = b.due ∧ a.action = b.action := by
  simp [unnumbered]

namespace Form

section Entries

variable {α : Type} (keep : String → Bool) (name : String)

private theorem filter_assign (a : α) (entries : List (String × α)) :
    (assign name a entries).filter (keep ·.1) =
      if keep name then assign name a (entries.filter (keep ·.1)) else entries.filter (keep ·.1) := by
  induction entries with
  | nil => cases kept : keep name <;> simp [assign, kept]
  | cons entry rest ih =>
    obtain ⟨key, b⟩ := entry
    rw [assign]
    by_cases found : key = name
    · subst found
      cases kept : keep key <;> simp [assign, kept]
    · cases kept : keep key <;> cases own : keep name <;> simp_all [assign]

private theorem filter_erase (entries : List (String × α)) :
    (erase name entries).filter (keep ·.1) = erase name (entries.filter (keep ·.1)) := by
  simp only [erase, List.filter_filter, Bool.and_comm]

private theorem erase_filter (dropped : keep name = false) (entries : List (String × α)) :
    erase name (entries.filter (keep ·.1)) = entries.filter (keep ·.1) := by
  refine List.filter_eq_self.mpr fun entry member => bne_iff_ne.mpr ?_
  rintro rfl
  have kept := (List.mem_filter.mp member).2
  rw [dropped] at kept
  cases kept

private theorem lookup_filter (kept : keep name = true) (entries : List (String × α)) :
    (entries.filter (keep ·.1)).lookup name = entries.lookup name := by
  induction entries with
  | nil => rfl
  | cons entry rest ih =>
    obtain ⟨key, b⟩ := entry
    by_cases found : key = name
    · subst found
      simp [kept]
    · have apart : (name == key) = false := by simpa using Ne.symm found
      cases other : keep key with
      | true => simp only [List.filter_cons, other, if_true, List.lookup_cons, apart, ih]
      | false => simp only [List.filter_cons, other, Bool.false_eq_true, if_false, List.lookup_cons, apart, ih]

end Entries

/-- The forms have the same entries of the kept fields and, but for raising, the same listeners. -/
structure SameEntries (keep : String → Bool) (form other : Form) : Prop where
  fields : form.fields.filter (keep ·.1) = other.fields.filter (keep ·.1)
  listeners : form.listeners.map Listener.calmed = other.listeners.map Listener.calmed

private theorem react_calmed (form : Form) (field : String) (listener : Listener) :
    form.react field listener.calmed = form.react field listener := by
  obtain ⟨id, reaction⟩ := listener
  cases reaction <;> rfl

namespace SameEntries

variable {keep : String → Bool} {form other : Form} (same : SameEntries keep form other) {field : String}
include same

theorem state (kept : keep field = true) : form.state field = other.state field := by
  rw [Form.state, Form.state, ← lookup_filter keep field kept form.fields, same.fields,
    lookup_filter keep field kept]

theorem update (kept : keep field = true) (change : FieldState → FieldState) :
    SameEntries keep (form.update field change) (other.update field change) := by
  refine ⟨?_, same.listeners⟩
  simp only [Form.update, filter_assign, kept, if_true, same.fields, same.state kept]

theorem update_left (dropped : keep field = false) (change : FieldState → FieldState) :
    SameEntries keep (form.update field change) other := by
  refine ⟨?_, same.listeners⟩
  simp only [Form.update, filter_assign, dropped, Bool.false_eq_true, if_false, same.fields]

theorem reset (field : String) : SameEntries keep (form.reset field) (other.reset field) := by
  refine ⟨?_, same.listeners⟩
  simp only [Form.reset, filter_erase, same.fields]

theorem reset_left (dropped : keep field = false) : SameEntries keep (form.reset field) other := by
  refine ⟨?_, same.listeners⟩
  simp only [Form.reset, filter_erase, erase_filter keep field dropped, same.fields]

theorem unsubscribe (id : String) : SameEntries keep (form.unsubscribe id) (other.unsubscribe id) := by
  refine ⟨same.fields, ?_⟩
  have calm (listeners : List Listener) :
      (listeners.eraseP fun listener => listener.id == id).map Listener.calmed =
        (listeners.map Listener.calmed).eraseP fun listener => listener.id == id := by
    rw [List.eraseP_map]
    simp only [Function.comp_def, Listener.calmed_id]
  rw [Form.unsubscribe, Form.unsubscribe, calm, calm, same.listeners]

theorem react (kept : keep field = true) (listener : Listener) :
    SameEntries keep (form.react field listener) (other.react field listener) := by
  rw [Form.react, Form.react]
  cases listener.reaction with
  | record => exact same
  | raise => exact same
  | unsubscribe => exact same.unsubscribe listener.id
  | touch => exact same.update kept _
  | reset => exact same.reset field

theorem notify (kept : keep field = true) (status : Status) (outcome : Option Outcome)
    {listeners listeners' : List Listener}
    (alike : listeners.map Listener.calmed = listeners'.map Listener.calmed) :
    SameEntries keep (Form.notify field status outcome form listeners).1
        (Form.notify field status outcome other listeners').1 ∧
      (Form.notify field status outcome form listeners).2 =
        (Form.notify field status outcome other listeners').2 := by
  induction listeners generalizing form other listeners' with
  | nil =>
    cases listeners' with
    | nil => exact ⟨same, rfl⟩
    | cons => cases alike
  | cons listener listeners ih =>
    cases listeners' with
    | nil => cases alike
    | cons listener' listeners' =>
      obtain ⟨first, rest⟩ := List.cons.inj alike
      have reacted := same.react kept listener'
      rw [← react_calmed form, ← first, react_calmed form] at reacted
      obtain ⟨forms, events⟩ := ih reacted rest
      have ids : listener.id = listener'.id := by
        rw [← listener.calmed_id, first, listener'.calmed_id]
      rw [Form.notify, Form.notify]
      refine ⟨forms, ?_⟩
      simp only [events, ids]

/-- A listener that keeps its subscription touches and forgets the field only. -/
theorem notify_left (dropped : keep field = false) (status : Status) (outcome : Option Outcome)
    {listeners : List Listener} (steady : Steady listeners) :
    SameEntries keep (Form.notify field status outcome form listeners).1 other := by
  -- one form changes and the other does not, so the induction keeps the second fixed
  induction listeners generalizing form with
  | nil => exact same
  | cons listener listeners ih =>
    obtain ⟨first, rest⟩ := List.forall_mem_cons.mp steady
    rw [Form.notify]
    refine ih ?_ rest
    rw [Form.react]
    cases reaction : listener.reaction with
    | record => exact same
    | raise => exact same
    | unsubscribe => exact absurd reaction first
    | touch => exact same.update_left dropped _
    | reset => exact same.reset_left dropped

theorem complete {pass : Pass} (kept : keep pass.field = true) :
    SameEntries keep (form.complete pass).1 (other.complete pass).1 ∧
      (form.complete pass).2 = (other.complete pass).2 := by
  obtain ⟨forms, events⟩ := (same.update kept _).notify kept _ _ same.listeners
  have answer : (form.complete pass).2 = (other.complete pass).2 :=
    congrArg (fun heard => (ruleEvents pass ++ heard, Rule.evaluate pass.rules pass.value pass.context)) events
  exact ⟨forms, answer⟩

theorem complete_left {pass : Pass} (dropped : keep pass.field = false) (steady : Steady form.listeners) :
    SameEntries keep (form.complete pass).1 other :=
  (same.update_left dropped _).notify_left dropped _ _ steady

end SameEntries

/-- The checks that wait for kept fields, soonest first, without the numbers of their calls. -/
def plan (keep : String → Bool) (form : Form) : List (Call Pass) :=
  (form.agenda.calls.filter (keep ·.action.field)).map Call.unnumbered

section Plan

variable (keep : String → Bool)

private theorem insertCall_late {call : Call Pass} {calls : List (Call Pass)}
    (late : ∀ other ∈ calls, call.due < other.due) : Agenda.insertCall call calls = call :: calls := by
  cases calls with
  | nil => rfl
  | cons other rest =>
    have first := late other (List.mem_cons_self ..)
    rw [Agenda.insertCall, if_neg (by omega)]

/-- A call keeps its place among the kept ones. -/
private theorem filter_insertCall (call : Call Pass) {calls : List (Call Pass)}
    (sorted : calls.Pairwise fun a b => a.due ≤ b.due) :
    (Agenda.insertCall call calls).filter (keep ·.action.field) =
      if keep call.action.field then Agenda.insertCall call (calls.filter (keep ·.action.field))
      else calls.filter (keep ·.action.field) := by
  induction calls with
  | nil => cases kept : keep call.action.field <;> simp [Agenda.insertCall, kept]
  | cons other rest ih =>
    obtain ⟨first, sorted'⟩ := List.pairwise_cons.mp sorted
    have next := ih sorted'
    rw [Agenda.insertCall]
    split
    next early =>
      rw [List.filter_cons, List.filter_cons, next]
      cases kept : keep call.action.field <;> cases keep other.action.field <;>
        simp [Agenda.insertCall, early]
    next after =>
      -- the call is put before all others, and so before the kept ones
      have late : ∀ later ∈ (other :: rest).filter (keep ·.action.field), call.due < later.due := by
        intro later member
        rcases List.mem_cons.mp (List.mem_filter.mp member).1 with rfl | old
        · omega
        · have := first later old
          omega
      rw [insertCall_late late, List.filter_cons]

private theorem map_insertCall (call : Call Pass) (calls : List (Call Pass)) :
    (Agenda.insertCall call calls).map Call.unnumbered =
      Agenda.insertCall call.unnumbered (calls.map Call.unnumbered) := by
  induction calls with
  | nil => rfl
  | cons other rest ih =>
    have dues : other.unnumbered.due ≤ call.unnumbered.due ↔ other.due ≤ call.due := Iff.rfl
    simp only [Agenda.insertCall, List.map_cons, dues]
    split
    · rw [List.map_cons, ih]
    · rfl

variable {keep} {form struck : Form} {field : String}

private theorem plan_putOff (ordered : form.agenda.IsOrdered) (delay : Int) (pass : Pass) :
    (form.putOff delay pass).plan keep =
      if keep pass.field then Agenda.insertCall ⟨form.agenda.now + delay, 0, pass⟩ (form.plan keep)
      else form.plan keep := by
  have filtered := filter_insertCall keep ⟨form.agenda.now + delay, form.agenda.next, pass⟩ ordered.sorted
  rw [plan, putOff, update_agenda, Agenda.put, filtered]
  split
  · exact map_insertCall _ _
  · rfl

private theorem plan_beside (left : struck.agenda = form.agendaBeside field) :
    struck.plan keep = (form.plan keep).filter fun call => call.action.field != field := by
  rw [plan, plan, left, agendaBeside, List.filter_map]
  simp only [List.filter_filter, Bool.and_comm]
  rfl

private theorem plan_beside_dropped (dropped : keep field = false)
    (left : struck.agenda = form.agendaBeside field) : struck.plan keep = form.plan keep := by
  rw [plan_beside left]
  refine List.filter_eq_self.mpr fun call member => bne_iff_ne.mpr ?_
  rintro rfl
  obtain ⟨numbered, kept, rfl⟩ := List.mem_map.mp member
  have kept := (List.mem_filter.mp kept).2
  rw [show keep numbered.action.field = false from dropped] at kept
  cases kept

theorem InStep.isPending_iff (inStep : form.InStep) (kept : keep field = true) :
    form.isPending field = true ↔ ∃ call ∈ form.plan keep, call.action.field = field := by
  rw [isPending_eq, Option.isSome_iff_exists]
  constructor
  · rintro ⟨number, waiting⟩
    obtain ⟨call, member, -, rfl⟩ := (inStep.waits field number).mp waiting
    exact ⟨_, List.mem_map_of_mem (List.mem_filter.mpr ⟨member, kept⟩), rfl⟩
  · rintro ⟨call, member, rfl⟩
    obtain ⟨numbered, there, rfl⟩ := List.mem_map.mp member
    exact ⟨numbered.number, (inStep.waits _ _).mpr ⟨numbered, (List.mem_filter.mp there).1, rfl, rfl⟩⟩

end Plan

/-- Forms that cannot be told apart by the kept fields, whatever their clocks show. -/
structure Alike (keep : String → Bool) (form other : Form) : Prop extends SameEntries keep form other where
  hasClock : form.hasClock = other.hasClock
  plan : form.plan keep = other.plan keep

namespace Alike

variable {keep : String → Bool} {form other struck struck' : Form} (alike : Alike keep form other)
include alike

theorem of_struck {field : String} (strikes : Struck field form struck) (strikes' : Struck field other struck') :
    Alike keep struck struck' where
  fields := by rw [strikes.fields, strikes'.fields, alike.fields]
  listeners := by rw [strikes.listeners, strikes'.listeners, alike.listeners]
  hasClock := by rw [strikes.hasClock, strikes'.hasClock, alike.hasClock]
  plan := by rw [plan_beside strikes.agenda, plan_beside strikes'.agenda, alike.plan]

theorem of_struck_left {field : String} (dropped : keep field = false) (strikes : Struck field form struck) :
    Alike keep struck other where
  fields := by rw [strikes.fields, alike.fields]
  listeners := by rw [strikes.listeners, alike.listeners]
  hasClock := by rw [strikes.hasClock, alike.hasClock]
  plan := by rw [plan_beside_dropped dropped strikes.agenda, alike.plan]

variable {pass : Pass}

theorem complete (kept : keep pass.field = true) (idle : form.waiting? pass.field = none) (live : form.Undisposed)
    (idle' : other.waiting? pass.field = none) (live' : other.Undisposed) :
    Alike keep (form.complete pass).1 (other.complete pass).1 ∧
      (form.complete pass).2 = (other.complete pass).2 := by
  have completes := complete_completed idle live
  have completes' := complete_completed idle' live'
  obtain ⟨entries, events⟩ := alike.toSameEntries.complete kept
  refine ⟨⟨entries, ?_, ?_⟩, events⟩
  · rw [completes.hasClock, completes'.hasClock, alike.hasClock]
  · rw [Form.plan, Form.plan, completes.agenda, completes'.agenda]
    exact alike.plan

theorem complete_left (dropped : keep pass.field = false) (idle : form.waiting? pass.field = none)
    (live : form.Undisposed) (steady : Steady form.listeners) : Alike keep (form.complete pass).1 other := by
  have completes := complete_completed idle live
  refine ⟨alike.toSameEntries.complete_left dropped steady, ?_, ?_⟩
  · rw [completes.hasClock, alike.hasClock]
  · rw [Form.plan, completes.agenda]
    exact alike.plan

theorem putOff (kept : keep pass.field = true) (ordered : form.agenda.IsOrdered)
    (ordered' : other.agenda.IsOrdered) (now : form.agenda.now = other.agenda.now) (delay : Int) :
    Alike keep (form.putOff delay pass) (other.putOff delay pass) := by
  obtain ⟨fields, listeners⟩ := alike.toSameEntries.update kept fun state =>
    { state with status := .pending, value := pass.value }
  refine ⟨⟨fields, listeners⟩, alike.hasClock, ?_⟩
  rw [plan_putOff ordered, plan_putOff ordered', now, alike.plan]

theorem putOff_left (dropped : keep pass.field = false) (ordered : form.agenda.IsOrdered) (delay : Int) :
    Alike keep (form.putOff delay pass) other := by
  obtain ⟨fields, listeners⟩ := alike.toSameEntries.update_left dropped fun state =>
    { state with status := .pending, value := pass.value }
  refine ⟨⟨fields, listeners⟩, alike.hasClock, ?_⟩
  rw [plan_putOff ordered, dropped, ← alike.plan]
  rfl

/-- A request for a check of a kept field is answered alike by both forms. -/
theorem validate (inStep : form.InStep) (inStep' : other.InStep) (now : form.agenda.now = other.agenda.now)
    (kept : keep pass.field = true) (isImmediate : Bool) :
    Alike keep (form.validate pass isImmediate).1 (other.validate pass isImmediate).1 ∧
      (form.validate pass isImmediate).2 = (other.validate pass isImmediate).2 := by
  have strikes := inStep.struck_cancel pass.field
  have strikes' := inStep'.struck_cancel pass.field
  have cancelled := alike.of_struck strikes strikes'
  rw [Form.validate, Form.validate]
  cases delayFor pass.rules isImmediate with
  | error failure => exact ⟨alike, rfl⟩
  | ok interval =>
    cases comparing : interval.compares .lessOrEqual (.int 0) with
    | error failure =>
      simp only [comparing]
      exact ⟨cancelled, trivial⟩
    | ok due =>
      cases due with
      | true =>
        obtain ⟨done, heard⟩ := cancelled.complete kept strikes.idle strikes.undisposed strikes'.idle
          strikes'.undisposed
        simp only [comparing, heard]
        exact ⟨done, trivial⟩
      | false =>
        simp only [comparing]
        cases clock : form.hasClock with
        | false =>
          rw [strikes.defer_unclocked clock, strikes'.defer_unclocked (alike.hasClock ▸ clock)]
          exact ⟨alike.of_struck strikes.assign_idle strikes'.assign_idle, rfl⟩
        | true =>
          have clock' : other.hasClock = true := alike.hasClock ▸ clock
          cases delays : Timer.delayOf interval with
          | error failure =>
            rw [strikes.defer_refused clock delays, strikes'.defer_refused clock' delays]
            exact ⟨alike.of_struck strikes.assign_idle strikes'.assign_idle, rfl⟩
          | ok delay =>
            rw [strikes.defer_ok clock delays, strikes'.defer_ok clock' delays]
            have ordered := (inStep.of_struck strikes).ordered
            have ordered' := (inStep'.of_struck strikes').ordered
            refine ⟨cancelled.putOff kept ordered ordered' ?_ delay, rfl⟩
            rw [strikes.agenda, strikes'.agenda]
            exact now

/-- A check of a field that is not kept leaves the forms alike. -/
theorem validate_left (inStep : form.InStep) (steady : Steady form.listeners)
    (dropped : keep pass.field = false) (isImmediate : Bool) :
    Alike keep (form.validate pass isImmediate).1 other := by
  have outcome := inStep.validate_cases pass isImmediate
  generalize form.validate pass isImmediate = answer at outcome ⊢
  cases outcome with
  | unread => exact alike
  | refused _ _ _ _ strikes => exact alike.of_struck_left dropped strikes
  | atOnce _ _ strikes =>
    have steady' : Steady _ := strikes.listeners ▸ steady
    exact (alike.of_struck_left dropped strikes).complete_left dropped strikes.idle strikes.undisposed steady'
  | putOff _ _ _ _ strikes =>
    exact (alike.of_struck_left dropped strikes).putOff_left dropped (inStep.of_struck strikes).ordered _

/-- The clocks of alike forms may show different times. -/
theorem rest_both (time time' : Int) :
    Alike keep { form with agenda := form.agenda.rest time } { other with agenda := other.agenda.rest time' } :=
  ⟨⟨alike.fields, alike.listeners⟩, alike.hasClock, alike.plan⟩

theorem reset (inStep : form.InStep) (inStep' : other.InStep) (field : String) :
    Alike keep (form.reset field) (other.reset field) where
  toSameEntries := alike.toSameEntries.reset field
  hasClock := alike.hasClock
  plan := by rw [plan_beside (inStep.reset_agenda field), plan_beside (inStep'.reset_agenda field), alike.plan]

theorem reset_left (inStep : form.InStep) {field : String} (dropped : keep field = false) :
    Alike keep (form.reset field) other where
  toSameEntries := alike.toSameEntries.reset_left dropped
  hasClock := alike.hasClock
  plan := by rw [plan_beside_dropped dropped (inStep.reset_agenda field), alike.plan]

section Fire

variable {target : Int} {call call' : Call Pass} {agenda agenda' : Agenda Pass}

theorem fire (inStep : form.InStep) (inStep' : other.InStep)
    (taken : form.agenda.takeDue? target = some (call, agenda))
    (taken' : other.agenda.takeDue? target = some (call', agenda')) (same : call.action = call'.action)
    (kept : keep call.action.field = true) :
    Alike keep (form.fire call.action agenda).1 (other.fire call'.action agenda').1 ∧
      (form.fire call.action agenda).2 = (other.fire call'.action agenda').2 := by
  obtain ⟨struck, strikes, -, fires⟩ := inStep.fire_cases taken
  obtain ⟨struck', strikes', -, fires'⟩ := inStep'.fire_cases taken'
  rw [fires, fires', ← same]
  rw [← same] at strikes'
  obtain ⟨done, heard⟩ := ((alike.rest_both call.due call'.due).of_struck strikes strikes').complete kept
    strikes.idle strikes.undisposed strikes'.idle strikes'.undisposed
  exact ⟨done, congrArg Prod.fst heard⟩

theorem fire_left (inStep : form.InStep) (steady : Steady form.listeners)
    (taken : form.agenda.takeDue? target = some (call, agenda)) (dropped : keep call.action.field = false) :
    Alike keep (form.fire call.action agenda).1 other := by
  obtain ⟨struck, strikes, -, fires⟩ := inStep.fire_cases taken
  have steady' : Steady struck.listeners := strikes.listeners ▸ steady
  rw [fires]
  exact ((alike.rest_both call.due other.agenda.now).of_struck_left dropped strikes).complete_left dropped
    strikes.idle strikes.undisposed steady'

end Fire

end Alike

end Form

end DatasetForm
