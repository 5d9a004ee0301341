import DatasetForm.Proofs.Form.TitleRows

/-!
A check of all title rows cleans up: it forgets the rows that are gone, keeps those that are there, and leaves
all other fields (`validateTitles_tidies`). It comes to its end only when every name that looks like that of a
row can be read; a superscript two looks like a digit and is none (`validateTitles_superscript`).
-/

set_option autoImplicit false
set_option relaxedAutoImplicit false

namespace DatasetForm.Form

/-- Only the rows that are there are left of all rows, and other fields are as before. -/
structure Tidied (stem : String) (rows : List TitleRow) (form next : Form) : Prop where
  gone : ∀ field number, NamesRow stem field number → rows.length ≤ number →
    next.fields.lookup field = none ∧ next.isPending field = false
  kept : ∀ index row, rows[index]? = some row →
    ∃ state, next.fields.lookup (rowField stem index) = some state ∧ state.value = row.title
  others : ∀ field, (∀ number, NamesRow stem field number → number < rows.length) →
    (∀ index < rows.length, field ≠ rowField stem index) → next.alone field = form.alone field

section Tidied

variable {form : Form} (inStep : form.InStep) (records : Records form.listeners)
  (clock : form.hasClock = true) {stem : String} {settings : Settings} {rows : List TitleRow}
  {isImmediate : Bool}
include inStep records clock

theorem InStep.tidied (known : form.Known) {outcomes : List (Option Outcome)}
    (ok : (form.validateTitles stem settings rows isImmediate).2.2 = .ok outcomes) :
    Tidied stem rows form (form.validateTitles stem settings rows isImmediate).1 := by
  have rechecked := inStep.rechecked records.steady known ok
  have inStep' : (form.validateTitles stem settings rows isImmediate).1.InStep :=
    inStep.perform (.titles stem settings rows isImmediate)
  obtain ⟨accepts, -, -⟩ := (inStep.validateTitles_ok_iff records clock).mp ⟨outcomes, ok⟩
  constructor
  · intro field number names late
    have forgotten := rechecked.gone field number names late
    constructor
    · exact congrArg LoneField.entry forgotten
    · rw [inStep'.isPending_alone, forgotten]
      rfl
  · intro index row found
    have filled : rows ≠ [] := by
      rintro rfl
      cases found
    have accepted : (rowPass stem settings rows index row).IsAccepted isImmediate :=
      (rowPass_isAccepted_iff ..).mpr (accepts.resolve_left filled)
    obtain ⟨state, used, value⟩ := used_of_accepted records clock accepted
    have own := rechecked.own index row found
    exact ⟨state, (congrArg LoneField.entry own).trans used, value⟩
  · exact rechecked.others

end Tidied

/-- Whatever was done with a form whose listeners only listen, a check of all title rows comes to its end exactly
when a clock accepts the quiet period and the names of the fields in use can be read; the form is tidy then. -/
theorem validateTitles_tidies (now : Int) (before : List FormStep) (stem : String) (settings : Settings)
    (rows : List TitleRow) (isImmediate : Bool)
    (records : Records ((opened true now).run before).listeners) :
    let form := (opened true now).run before
    let answer := form.validateTitles stem settings rows isImmediate
    ((∃ outcomes, answer.2.2 = .ok outcomes) ↔
        (rows = [] ∨ settings.AcceptsTitles isImmediate) ∧ rows.length ≤ 10 ^ Failure.digitLimit ∧
          ∀ field, form.fields.lookup field ≠ none → IsReadable stem field) ∧
      (∀ n : Nat, n ≤ 10 ^ 12 → settings.debounceMs = .int n → settings.AcceptsTitles isImmediate) ∧
      ∀ outcomes, answer.2.2 = .ok outcomes → Tidied stem rows form answer.1 := by
  intro form answer
  have inStep : form.InStep := (opened_inStep true now).run before
  have known : form.Known := run_known true now before
  have clock : form.hasClock = true := run_hasClock true now before
  refine ⟨inStep.validateTitles_ok_iff records clock, ?_, ?_⟩
  · intro n small whole
    exact acceptsTitles_int small whole isImmediate
  · intro outcomes ok
    exact inStep.tidied records clock known ok

private def threeRows : List TitleRow :=
  [⟨.text "Ice", .text "main-title"⟩, ⟨.text "Snow", .text "subtitle"⟩, ⟨.text "Firn", .text "subtitle"⟩]

/-- A listener, five rows that wait, and two fields whose names only begin like that of a row. -/
private def fiveRows : List FormStep :=
  [.subscribe ⟨"log", .record⟩, .touch "titles.x", .touch "titles.01",
    .titles "titles" .default (threeRows ++ threeRows.take 2) false]

private def refilled : Form :=
  (opened true 0).run fiveRows

theorem validateTitles_tidies_shrinking :
    Records refilled.listeners ∧
      (∃ outcomes, (refilled.validateTitles "titles" .default threeRows false).2.2 = .ok outcomes) ∧
      Tidied "titles" threeRows refilled (refilled.validateTitles "titles" .default threeRows false).1 ∧
      refilled.isPending "titles.4" = true ∧
      (refilled.validateTitles "titles" .default threeRows false).1.fields.map (·.1) =
        ["titles.x", "titles.01", "titles.0", "titles.1", "titles.2"] := by
  have records : Records refilled.listeners := by
    have only : refilled.listeners = [⟨"log", .record⟩] := by decide +kernel
    intro listener member
    rw [only, List.mem_singleton] at member
    rw [member]
  have tidies := (validateTitles_tidies 0 fiveRows "titles" .default threeRows false records).2.2
  have ends : (refilled.validateTitles "titles" .default threeRows false).2.2.toBool = true := by
    decide +kernel
  cases ok : (refilled.validateTitles "titles" .default threeRows false).2.2 with
  | error failure =>
    rw [ok] at ends
    cases ends
  | ok outcomes =>
    exact ⟨records, ⟨outcomes, rfl⟩, tidies outcomes ok, by decide +kernel, by decide +kernel⟩

/-- A field named by the beginning, a dot and a superscript two stops the check of the rows, after all of them
were checked or put off. -/
theorem validateTitles_superscript :
    let form := (opened true 0).run [.touch "titles.²"]
    let answer := form.validateTitles "titles" .default threeRows false
    Records form.listeners ∧ answer.2.2 = .error (.notWhole "²") ∧
      answer.1.fields.map (fun field => (field.1, answer.1.isPending field.1)) =
        [("titles.²", false), ("titles.0", true), ("titles.1", true), ("titles.2", true)] := by
  intro form answer
  refine ⟨fun listener member => absurd member List.not_mem_nil, ?_, by decide +kernel⟩
  rfl

end DatasetForm.Form
