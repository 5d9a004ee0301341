import DatasetForm.Proofs.Form.Log
import DatasetForm.Proofs.Form.Transcript
import Mathlib.Data.Finset.Card

/-!
The gate of a form. It is shut exactly by those fields whose last completed check, with nothing forgotten since,
ended with an error (`gate_follows_log`); nothing but completed checks and forgotten fields moves it.
-/

set_option autoImplicit false
set_option relaxedAutoImplicit false

namespace DatasetForm

/-- The last that is said of the field is that a check of it ended with an error. -/
def Blocks (log : List Mark) (field : String) : Prop :=
  ∃ outcome, lastMark? field log = some (.checked field (some outcome)) ∧ outcome.severity = .error

/-- What is said when warnings are passed over. -/
def Mark.errorsOnly : Mark → Mark
  | .checked field outcome => .checked field (outcome.filter Outcome.blocks)
  | mark => mark

theorem blocks_errorsOnly (log : List Mark) (field : String) :
    Blocks (log.map Mark.errorsOnly) field ↔ Blocks log field := by
  have concerns : Mark.concerns field ∘ Mark.errorsOnly = Mark.concerns field := by
    funext mark
    cases mark <;> rfl
  have last : lastMark? field (log.map Mark.errorsOnly) = (lastMark? field log).map Mark.errorsOnly := by
    rw [lastMark?, lastMark?, ← List.map_reverse, List.find?_map]
    rw [concerns]
  rw [Blocks, Blocks, last]
  cases lastMark? field log with
  | none => simp
  | some mark =>
    cases mark with
    | checked other outcome =>
      cases outcome with
      | none => simp [Mark.errorsOnly]
      | some found =>
        obtain ⟨severity, complaint⟩ := found
        cases severity <;> simp [Mark.errorsOnly, Outcome.blocks, Option.filter]
    | forgotten other => simp [Mark.errorsOnly]
    | cleared => simp [Mark.errorsOnly]

namespace Form

section Names

variable {α : Type} (name : String)

private theorem map_fst_assign (a : α) (entries : List (String × α)) :
    (assign name a entries).map (·.1) =
      if name ∈ entries.map (·.1) then entries.map (·.1) else entries.map (·.1) ++ [name] := by
  induction entries with
  | nil => rfl
  | cons entry rest ih =>
    obtain ⟨key, b⟩ := entry
    rw [assign]
    by_cases found : key = name
    · simp [found]
    · have apart : (key == name) = false := beq_eq_false_iff_ne.mpr found
      simp only [apart, Bool.false_eq_true, if_false, List.map_cons, ih, List.mem_cons, Ne.symm found, false_or]
      split <;> rfl

/-- No field is kept twice. -/
def HasDistinctNames (form : Form) : Prop :=
  (form.fields.map (·.1)).Nodup

private theorem HasDistinctNames.update {form : Form} (distinct : form.HasDistinctNames)
    (change : FieldState → FieldState) : (form.update name change).HasDistinctNames := by
  rw [HasDistinctNames, Form.update, map_fst_assign]
  split
  · exact distinct
  next fresh =>
    refine List.nodup_append.mpr ⟨distinct, List.nodup_singleton name, ?_⟩
    intro other member last isLast same
    rw [same, List.mem_singleton.mp isLast] at member
    exact fresh member

private theorem HasDistinctNames.reset {form : Form} (distinct : form.HasDistinctNames) :
    (form.reset name).HasDistinctNames :=
  distinct.sublist (List.filter_sublist.map _)

private theorem HasDistinctNames.complete {form : Form} (distinct : form.HasDistinctNames) (pass : Pass) :
    (form.complete pass).1.HasDistinctNames :=
  notify_preserves (fun _ kept => kept.update _ _) (fun _ kept => kept.reset _) (fun _ _ kept => kept) _ _ _
    (distinct.update _ _)

private theorem distinctNames_parts : KeepsParts HasDistinctNames where
  struck strikes distinct := by rwa [HasDistinctNames, strikes.fields]
  complete _ _ distinct := distinct.complete _
  putOff {_ pass} _ distinct :=
    distinct.update pass.field fun state => { state with status := .pending, value := pass.value }
  rest _ distinct := distinct
  touch field distinct := distinct.update field _
  reset field _ distinct := distinct.reset field
  resetAll _ _ := List.nodup_nil
  listen _ distinct := distinct

end Names

/-- The fields with an error. -/
def blocked (form : Form) : Finset String :=
  ((form.fields.map (·.1)).filter form.hasError).toFinset

theorem mem_blocked_iff (form : Form) (field : String) : field ∈ form.blocked ↔ form.hasError field = true := by
  rw [blocked, List.mem_toFinset, List.mem_filter, mem_names_iff]
  constructor
  · exact fun both => both.2
  · intro error
    refine ⟨fun unused => ?_, error⟩
    rw [hasError, state, unused] at error
    cases error

theorem HasDistinctNames.invalidCount_eq {form : Form} (distinct : form.HasDistinctNames) :
    form.invalidCount = form.blocked.card := by
  have counted : form.invalidCount = (form.fields.map (·.1)).countP form.hasError := by
    rw [List.countP_map]
    rfl
  rw [counted, List.countP_eq_length_filter, blocked, List.toFinset_card_of_nodup (distinct.filter _)]

/-- What decides on submission: how many fields have an error, and whether there are none. -/
def gate (form : Form) : Nat × Bool :=
  (form.invalidCount, form.canSubmit)

/-- Nothing is completed in the step and nothing forgotten: fields are touched or looked at, subscriptions change,
checks are refused or put off, or time passes and nothing is due. -/
def IsQuiet (form : Form) (step : FormStep) : Prop :=
  match step with
  | .touch _ | .look _ | .subscribe _ | .unsubscribe _ | .enter => True
  | .validate .. | .advance _ => form.made step = []
  | .titles stem settings rows isImmediate =>
    form.made step = [] ∧ form.droppedRows stem settings rows isImmediate = []
  | .reset _ | .resetAll | .exit | .dispose => False

private theorem marks_of_none {request : CheckRequest} (none : request.made = []) : request.marks = [] := by
  rw [CheckRequest.marks, none, List.flatMap_nil]

theorem marks_of_quiet {form : Form} {step : FormStep} (quiet : form.IsQuiet step) : form.marks step = [] := by
  cases step with
  | validate pass isImmediate =>
    have none : (form.requests (.validate pass isImmediate)).flatMap CheckRequest.made = [] := quiet
    rw [requests_validate, List.flatMap_singleton] at none
    exact marks_of_none none
  | titles stem settings rows isImmediate =>
    obtain ⟨none, noRow⟩ := quiet
    have each := List.flatMap_eq_nil_iff.mp none
    rw [marks, noRow, List.map_nil, List.append_nil]
    exact List.flatMap_eq_nil_iff.mpr fun request member => marks_of_none (each request member)
  | advance duration =>
    have none : madeUntil (form.agenda.now + duration) form.agenda.calls.length form = [] := quiet
    rw [marks]
    generalize form.agenda.calls.length = fuel at none ⊢
    cases fuel with
    | zero => rfl
    | succ fuel =>
      rw [marksUntil]
      rw [madeUntil] at none
      cases taken : form.agenda.takeDue? (form.agenda.now + duration) with
      | none => rfl
      | some entry =>
        rw [taken] at none
        cases none
  | reset => exact quiet.elim
  | resetAll => exact quiet.elim
  | exit => exact quiet.elim
  | dispose => exact quiet.elim
  | _ => rfl

section Runs

variable (hasClock : Bool) (now : Int) (steps : List FormStep)

theorem hasError_run_iff (field : String) :
    ((opened hasClock now).run steps).hasError field = true ↔ Blocks ((opened hasClock now).log steps) field := by
  have outcome := (opened_inStep hasClock now).outcome_run field steps
  rw [foldl_after] at outcome
  rw [hasError, FieldState.blocks, outcome, Blocks]
  cases last : lastMark? field ((opened hasClock now).log steps) with
  | none => simp [opened, state]
  | some mark =>
    -- a check that is found by the name of the field is one of the field
    have own : mark.concerns field = true := List.find?_some last
    cases mark with
    | checked other outcome =>
      have same : other = field := beq_iff_eq.mp own
      cases outcome <;> simp [same, Mark.outcome, Outcome.blocks]
    | forgotten other => simp [Mark.outcome]
    | cleared => simp [Mark.outcome]

private theorem run_distinctNames : ((opened hasClock now).run steps).HasDistinctNames :=
  (distinctNames_parts.keeps.run steps ⟨opened_inStep hasClock now, List.nodup_nil⟩ fun _ _ _ _ => trivial).2

theorem mem_blocked_run_iff (field : String) :
    field ∈ ((opened hasClock now).run steps).blocked ↔ Blocks ((opened hasClock now).log steps) field := by
  rw [mem_blocked_iff, hasError_run_iff]

theorem canSubmit_run_iff :
    ((opened hasClock now).run steps).canSubmit = false ↔
      ∃ field, Blocks ((opened hasClock now).log steps) field := by
  have count := (run_distinctNames hasClock now steps).invalidCount_eq
  simp only [canSubmit, count, ← mem_blocked_run_iff]
  rw [beq_eq_false_iff_ne, Ne, Finset.card_eq_zero, ← Ne, ← Finset.nonempty_iff_ne_empty]
  rfl

/-- Runs whose logs tell of the same errors leave the same gate. -/
theorem gate_congr {hasClock' : Bool} {now' : Int} {steps' : List FormStep}
    (same : ((opened hasClock' now').log steps').map Mark.errorsOnly =
      ((opened hasClock now).log steps).map Mark.errorsOnly) :
    ((opened hasClock' now').run steps').gate = ((opened hasClock now).run steps).gate := by
  have blocked : ((opened hasClock' now').run steps').blocked = ((opened hasClock now).run steps).blocked := by
    ext field
    rw [mem_blocked_run_iff, mem_blocked_run_iff, ← blocks_errorsOnly, same, blocks_errorsOnly]
  have count := (run_distinctNames hasClock now steps).invalidCount_eq
  have count' := (run_distinctNames hasClock' now' steps').invalidCount_eq
  rw [gate, gate, canSubmit, canSubmit, count, count', blocked]

end Runs

/-- In every state, the gate is shut exactly by those fields whose last completed check ended with an error, unless
they were forgotten since. Warnings, quiet steps and listeners that raise do not move it. -/
theorem gate_follows_log (hasClock : Bool) (now : Int) (steps : List FormStep) :
    let start := opened hasClock now
    let form := start.run steps
    let log := start.log steps
    log.filterMap Mark.verdict? = (start.history steps).map Made.verdict ∧
    (form.canSubmit = false ↔ ∃ field, Blocks log field) ∧
    (∃ blocked : Finset String, (∀ field, field ∈ blocked ↔ Blocks log field) ∧
      form.invalidCount = blocked.card) ∧
    (∀ hasClock' now' steps',
      ((opened hasClock' now').log steps').map Mark.errorsOnly = log.map Mark.errorsOnly →
        ((opened hasClock' now').run steps').gate = form.gate) ∧
    (∀ step, form.IsQuiet step → (form.perform step).1.gate = form.gate) ∧
    (start.run (steps.map .calmed)).gate = form.gate := by
  intro start form log
  refine ⟨verdicts_log start steps, canSubmit_run_iff hasClock now steps, ?_, ?_, ?_, ?_⟩
  · exact ⟨form.blocked, mem_blocked_run_iff hasClock now steps,
      (run_distinctNames hasClock now steps).invalidCount_eq⟩
  · exact fun hasClock' now' steps' same => gate_congr hasClock now steps same
  · intro step quiet
    -- a quiet step adds nothing to the log of the run
    have more : start.log (steps ++ [step]) = start.log steps := by
      rw [log_append, Form.log, marks_of_quiet quiet]
      exact List.append_nil _
    have next : (form.perform step).1 = start.run (steps ++ [step]) := (run_append start steps [step]).symm
    rw [next]
    exact gate_congr hasClock now steps (congrArg (List.map Mark.errorsOnly) more)
  · have fresh : start.InStep := opened_inStep hasClock now
    have same := (fresh.indistinct fresh rfl rfl rfl rfl rfl).run_calmed steps
    have sights := same.sight_eq
    exact congrArg (fun sight => (sight.invalidCount, sight.canSubmit)) sights.symm

private def judged (field : String) (outcome : Option Outcome) : FormStep :=
  .validate
    { field
      value := .text "draft"
      rules := [{ name := .text "judged", check := fun _ _ => .ok outcome }]
      context := .null }
    false

/-- Two fields have an error, and a listener forgets one of them; of a third, there is at most a hint. -/
private def judgements (hint : Option Outcome) : List FormStep :=
  [.subscribe ⟨"broken", .raise⟩, judged "a" hint, judged "b" (some (.error .version)),
    .subscribe ⟨"forgetful", .reset⟩, judged "c" (some (.error .doi))]

theorem gate_follows_log_judgements :
    let start := opened true 0
    let hinted := judgements (some (.warning .yearForm))
    (start.log (judgements none)).map Mark.errorsOnly = (start.log hinted).map Mark.errorsOnly ∧
      (start.run (judgements none)).gate = (start.run hinted).gate ∧
      (start.run hinted).IsQuiet (.touch "b") ∧
      ((start.run hinted).perform (.touch "b")).1.gate = (start.run hinted).gate ∧
      (start.run hinted).gate = (1, false) := by
  intro start hinted
  have follows := gate_follows_log true 0 hinted
  have same : (start.log (judgements none)).map Mark.errorsOnly = (start.log hinted).map Mark.errorsOnly := by
    rfl
  exact ⟨same, follows.2.2.2.1 true 0 (judgements none) same, trivial,
    follows.2.2.2.2.1 (.touch "b") trivial, by decide +kernel⟩

end Form

end DatasetForm
