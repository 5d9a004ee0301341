import DatasetForm.Proofs.Rule.Dates
import DatasetForm.Proofs.Rule.Titles

/-!
No warning hides an error. In each list of rules that a field has, only the last rule may warn
(`IsFieldList.onlyLastWarns`). Hence the list finds an error exactly when one of its rules by itself finds one or
fails, and where it warns no other rule has anything to say (`evaluate_hides_nothing`).
-/

set_option autoImplicit false
set_option relaxedAutoImplicit false

namespace DatasetForm

theorem Outcome.isBlocking_iff {outcome : Option Outcome} :
    Outcome.isBlocking outcome = true ↔ ∃ complaint, outcome = some (.error complaint) := by
  constructor
  · intro blocks
    cases outcome with
    | none => cases blocks
    | some outcome =>
      obtain ⟨severity, complaint⟩ := outcome
      cases severity with
      | error => exact ⟨complaint, rfl⟩
      | warning => cases blocks
  · rintro ⟨complaint, rfl⟩
    rfl

namespace Rule

variable {rule : Rule} {rules : List Rule} {value context : Value}

/-- By itself, the rule finds an error in a value, or it fails on it. -/
def Refuses (rule : Rule) (value context : Value) : Prop :=
  (∃ complaint, rule.check value context = .ok (some (.error complaint))) ∨
    ∃ failure, rule.check value context = .error failure

theorem refuses_iff : rule.Refuses value context ↔ Outcome.isBlocking (rule.judge value context) = true := by
  rw [Refuses, Outcome.isBlocking_iff, judge]
  cases rule.check value context with
  | ok outcome => simp
  | error failure => simp

theorem judge_eq_warning_iff {complaint : Complaint} :
    rule.judge value context = some (.warning complaint) ↔
      rule.check value context = .ok (some (.warning complaint)) := by
  rw [judge]
  cases rule.check value context with
  | ok outcome => simp
  | error failure => simp [Outcome.error, Outcome.warning]

/-- Of the rules of a list, no rule but the last may warn. -/
def OnlyLastWarns (rules : List Rule) : Prop :=
  ∀ rule ∈ rules.dropLast, rule.NeverWarns

theorem OnlyLastWarns.head {next : Rule} (last : OnlyLastWarns (rule :: next :: rules)) : rule.NeverWarns :=
  last rule (by simp)

theorem OnlyLastWarns.tail {next : Rule} (last : OnlyLastWarns (rule :: next :: rules)) :
    OnlyLastWarns (next :: rules) :=
  fun other member => last other (List.mem_cons_of_mem rule member)

theorem onlyLastWarns_singleton : OnlyLastWarns [rule] :=
  List.forall_mem_nil _

theorem onlyLastWarns_cons (never : rule.NeverWarns) (last : OnlyLastWarns rules) :
    OnlyLastWarns (rule :: rules) := by
  cases rules with
  | nil => exact onlyLastWarns_singleton
  | cons next rules =>
    rintro other (_ | ⟨_, member⟩)
    · exact never
    · exact last other member

/-- Where only the last rule may warn, an error of any rule is an error of the list. -/
theorem OnlyLastWarns.isBlocking_evaluate (last : OnlyLastWarns rules) :
    Outcome.isBlocking (evaluate rules value context) =
      rules.any fun rule => Outcome.isBlocking (rule.judge value context) := by
  induction rules with
  | nil => rfl
  | cons rule rules ih =>
    cases rules with
    | nil => rw [isBlocking_evaluate_singleton, List.any_cons, List.any_nil, Bool.or_false]
    | cons next rules => rw [List.any_cons, isBlocking_evaluate_cons last.head, ih last.tail]

/-- Where only the last rule may warn, a warning of the list comes from it, after all others had nothing to say. -/
theorem OnlyLastWarns.of_warning (last : OnlyLastWarns rules) {complaint : Complaint}
    (warned : evaluate rules value context = some (.warning complaint)) :
    ∃ others rule, rules = others ++ [rule] ∧ rule.judge value context = some (.warning complaint) ∧
      ∀ other ∈ others, other.judge value context = none := by
  induction rules with
  | nil => cases warned
  | cons rule rules ih =>
    rw [evaluate_cons] at warned
    rcases Option.or_eq_some_iff.mp warned with first | ⟨silent, later⟩
    · cases rules with
      | nil => exact ⟨[], rule, rfl, first, List.forall_mem_nil _⟩
      | cons next rules => cases last.head value context _ first
    · cases rules with
      | nil => cases later
      | cons next rules =>
        obtain ⟨others, final, same, warns, nothing⟩ := ih last.tail later
        refine ⟨rule :: others, final, ?_, warns, List.forall_mem_cons.mpr ⟨silent, nothing⟩⟩
        rw [same, List.cons_append]

/-! ## The lists of the fields -/

/-- The list of rules of some field, whatever its settings. -/
inductive IsFieldList (today : Date) : List Rule → Prop
  | required (field : String) : IsFieldList today (requiredRules field)
  | year (settings : Settings) : IsFieldList today (yearRules settings today)
  | doi (settings : Settings) : IsFieldList today (doiRules settings)
  | version : IsFieldList today versionRules
  | url (field : String) (isRequired : Bool) : IsFieldList today (urlRules field isRequired)
  | orcid : IsFieldList today orcidRules
  | email (isRequired : Bool) : IsFieldList today (emailRules isRequired)
  | abstract (settings : Settings) : IsFieldList today (abstractRules settings)
  | title (index : Int) (kind : Value) (siblings : List TitleRow) (settings : Settings) :
      IsFieldList today (titleRules index kind siblings settings)
  | dates {kind : Value} {rules : List Rule} : dateRules kind today = .ok rules → IsFieldList today rules

/-- A field that may have to be filled in, and is checked by a rule. -/
private theorem onlyLastWarns_asked (field : String) (isRequired : Bool) :
    OnlyLastWarns ((if isRequired then [required field] else []) ++ [rule]) := by
  cases isRequired with
  | true => exact onlyLastWarns_cons (neverWarns_required field) onlyLastWarns_singleton
  | false => exact onlyLastWarns_singleton

theorem IsFieldList.onlyLastWarns {today : Date} (list : IsFieldList today rules) : OnlyLastWarns rules := by
  cases list with
  | required field => exact onlyLastWarns_singleton
  | year settings => exact onlyLastWarns_cons (neverWarns_required _) onlyLastWarns_singleton
  | doi settings => exact onlyLastWarns_singleton
  | version => exact onlyLastWarns_singleton
  | url field isRequired => exact onlyLastWarns_asked field isRequired
  | orcid => exact onlyLastWarns_singleton
  | email isRequired => exact onlyLastWarns_asked "Email" isRequired
  | abstract settings =>
    refine onlyLastWarns_cons (neverWarns_required _) ?_
    exact onlyLastWarns_cons (neverWarns_maxLength _ _) onlyLastWarns_singleton
  | title index kind siblings settings =>
    refine onlyLastWarns_cons (neverWarns_mainRequired _) ?_
    refine onlyLastWarns_cons (neverWarns_maxLength _ _) ?_
    refine onlyLastWarns_cons (neverWarns_uniqueTitle _ _ _) ?_
    exact onlyLastWarns_cons (neverWarns_singleMain _ _) onlyLastWarns_singleton
  | @dates kind rules made =>
    rw [dateRules] at made
    cases hashed : kind.checkHashable with
    | error failure =>
      rw [hashed] at made
      cases made
    | ok _ =>
      rw [hashed] at made
      cases made
      refine onlyLastWarns_cons (neverWarns_of_check ?_) onlyLastWarns_singleton
      exact fun _ _ _ => blocks_of_dateParts

/-- The list of a field finds an error exactly when one of its rules by itself finds one or fails, and where it
warns, it is the warning of one rule, and all others find nothing. -/
theorem evaluate_hides_nothing {today : Date} (list : IsFieldList today rules) (value context : Value) :
    ((∃ complaint, evaluate rules value context = some (.error complaint)) ↔
        ∃ rule ∈ rules, rule.Refuses value context) ∧
      ∀ complaint, evaluate rules value context = some (.warning complaint) →
        ∃ before rule after, rules = before ++ rule :: after ∧
          rule.check value context = .ok (some (.warning complaint)) ∧
            ∀ other ∈ before ++ after, other.check value context = .ok none := by
  have last := list.onlyLastWarns
  constructor
  · simp only [← Outcome.isBlocking_iff, last.isBlocking_evaluate, List.any_eq_true, refuses_iff]
  · intro complaint warned
    obtain ⟨others, rule, same, warns, nothing⟩ := last.of_warning warned
    refine ⟨others, rule, [], same, judge_eq_warning_iff.mp warns, ?_⟩
    intro other member
    rw [List.append_nil] at member
    exact judge_eq_none_iff.mp (nothing other member)

/-- The rules of the second of two titles, of which ten characters are the most. -/
private def snowRules : List Rule :=
  titleRules 1 (.text "subtitle")
    [⟨.text "Ice cores", .text "main-title"⟩, ⟨.text "Snow depth", .text "subtitle"⟩]
    { titleMaxLength := 10 : Limits }.settings

/-- A title of ten characters is warned of, and no other rule has anything to say about it; a longer one is an error. -/
theorem evaluate_hides_nothing_snowRules :
    IsFieldList ⟨2024, 6, 15, by decide⟩ snowRules ∧
      evaluate snowRules (.text "Snow depth") .null = some (.warning (.nearLimit "Title" 10 (.int 10))) ∧
      (∃ before rule after, snowRules = before ++ rule :: after ∧
        rule.check (.text "Snow depth") .null = .ok (some (.warning (.nearLimit "Title" 10 (.int 10)))) ∧
          ∀ other ∈ before ++ after, other.check (.text "Snow depth") .null = .ok none) ∧
      ∃ rule ∈ snowRules, rule.Refuses (.text "Snow depths") .null := by
  have list : IsFieldList ⟨2024, 6, 15, by decide⟩ snowRules := .title ..
  have warned : evaluate snowRules (.text "Snow depth") .null =
      some (.warning (.nearLimit "Title" 10 (.int 10))) := rfl
  refine ⟨list, warned, (evaluate_hides_nothing list _ _).2 _ warned, ?_⟩
  exact (evaluate_hides_nothing list _ _).1.mp ⟨.tooLong "Title" (.int 10) 11, rfl⟩

end Rule

end DatasetForm
