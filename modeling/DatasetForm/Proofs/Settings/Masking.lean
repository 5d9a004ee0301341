import DatasetForm.Proofs.Settings.Faults
import DatasetForm.Proofs.Settings.Precedence

/-!
What becomes of a file of the wrong shape. Shapes are looked at in two places: each file by itself, once values that
count as empty have become empty mappings, and the section of the settings when all sources have been laid over each
other. So a wrong value that counts as empty goes unnoticed, and a wrong section does when a section or variables of
a later source take its place.
-/

set_option autoImplicit false
set_option relaxedAutoImplicit false

namespace DatasetForm

namespace Config

open Entries (IsObject IsNested overlay overlayAll overlayValue)

variable {disk : Disk} {env : Environment} {path : String} {paths_ : List String} {v : Value} {values : List Value}

/-- The value of a file is neither null nor a mapping, or it is a mapping whose section is none. -/
inductive IsMisshapen : Value → Prop
  | other {v : Value} (present : v ≠ .null) (plain : ∀ entries, v ≠ .mapping entries) : IsMisshapen v
  | inner {entries : Entries} {v : Value} (own : entries.get? sectionKey = some v)
      (plain : ∀ fields, v ≠ .mapping fields) : IsMisshapen (.mapping entries)

/-! ## The sections that stand -/

/-- The configuration that is made of the value of a file. -/
def configOf (v : Value) : Entries :=
  sectioned (entriesIn v)

/-- The sections that stand once another file is laid over them: a section is laid over those before it, and what is
no section takes the place of all of them. -/
def stack (standing : List Entries) (v : Value) : List Entries :=
  match sectionIn (entriesIn v) with
  | .mapping fields => standing ++ [fields]
  | _ => []

/-- The sections that stand when the files with these values are laid over each other. -/
def standing (values : List Value) : List Entries :=
  values.foldl stack []

theorem standing_append_singleton (values : List Value) (v : Value) :
    standing (values ++ [v]) = stack (standing values) v :=
  List.foldl_append

/-- What a configuration has for a section, given the sections that stand in it. -/
inductive Stands : Option Value → List Entries → Prop
  | nothing : Stands none []
  | wrong {v : Value} (plain : ∀ fields, v ≠ .mapping fields) : Stands (some v) []
  | sections {standing : List Entries} (filled : standing ≠ []) :
      Stands (some (.mapping (overlayAll standing))) standing

theorem Stands.overlay {held : Option Value} {standing : List Entries} (stands : Stands held standing)
    {fields : Entries} (object : IsObject fields) :
    Stands (some (overlayValue held (.mapping fields))) (standing ++ [fields]) := by
  have alone : overlayAll [fields] = fields := by
    rw [overlayAll, List.foldl_cons, Entries.overlay_nil object, List.foldl_nil]
  have filled : standing ++ [fields] ≠ [] := by simp
  have laid : overlayValue held (.mapping fields) = .mapping (overlayAll (standing ++ [fields])) := by
    cases stands with
    | nothing => rw [List.nil_append, alone, Entries.overlayValue_none]
    | @wrong v plain =>
      rw [List.nil_append, alone, overlayValue]
      intro entries same
      exact plain entries (Option.some.inj same)
    | sections => rw [Entries.overlayAll_append_singleton, overlayValue]
  rw [laid]
  exact .sections filled

theorem isNested_entriesIn (parses : Parses disk path v) : IsNested (entriesIn v) := by
  obtain ⟨bytes, cs, -, -, read⟩ := parses
  cases v with
  | mapping entries => exact Json.isNested_of_readScalars read
  | _ => exact Entries.isNested_nil

theorem get?_configOf (v : Value) : (configOf v).get? sectionKey = some (sectionIn (entriesIn v)) := by
  rw [configOf, sectioned, sectionIn]
  cases own : (entriesIn v).get? sectionKey with
  | some inner => exact own
  | none => simp [Entries.get?, sectionKey, Value.same]

theorem isObject_configOf (object : IsObject (entriesIn v)) : IsObject (configOf v) := by
  rw [configOf, sectioned]
  split
  · exact object
  · exact ⟨by simp [sectionKey], List.nodup_singleton _⟩

theorem get?_overlay_section (base : Entries) {top : Entries} (object : IsObject top)
    (own : top.get? sectionKey = some v) :
    Entries.get? (overlay base top) sectionKey = some (overlayValue (base.get? sectionKey) v) := by
  have laid := Entries.get?_overlay base object "validation"
  rw [← sectionKey, own] at laid
  exact laid

/-- Laid over each other, configurations have for a section what stands of their sections. -/
theorem stands_overlayAll (nested : ∀ v ∈ values, IsNested (entriesIn v)) :
    Stands ((overlayAll (values.map configOf)).get? sectionKey) (standing values) := by
  induction values using List.reverseRecOn with
  | nil => exact .nothing
  | append_singleton values v ih =>
    rw [List.forall_mem_append, List.forall_mem_singleton] at nested
    rw [List.map_append, List.map_singleton, Entries.overlayAll_append_singleton,
      get?_overlay_section _ (isObject_configOf nested.2.object) (get?_configOf v), standing_append_singleton, stack]
    cases inSection : sectionIn (entriesIn v) with
    | mapping fields => exact (ih nested.1).overlay (isObject_of_sectionIn nested.2 inSection)
    | _ =>
      rw [Entries.overlayValue_of_ne (by simp)]
      exact .wrong (by simp)

/-- The variables are one more section, if there are any. -/
theorem stands_ofEnvironment (nested : ∀ v ∈ values, IsNested (entriesIn v)) (env : Environment) :
    Stands ((overlayAll (values.map configOf ++ [ofEnvironment env])).get? sectionKey)
      (if overrides env = [] then standing values else standing values ++ [overrides env]) := by
  have below := stands_overlayAll nested
  rw [ofEnvironment_eq]
  by_cases unset : overrides env = []
  · rwa [if_pos unset, unset, List.isEmpty_nil, if_pos rfl, Entries.overlayAll_append_nil]
  · have object := (isSection_overrides env).object
    have single := carries_single object
    rw [if_neg unset, if_neg (by rwa [List.isEmpty_iff]), Entries.overlayAll_append_singleton,
      get?_overlay_section _ single.whole single.holds]
    exact below.overlay object

/-- If there is a file at all, the configuration of all sources has something for a section. -/
private theorem get?_section_ne_none (nested : ∀ v ∈ values, IsNested (entriesIn v)) (some : values ≠ [])
    (env : Environment) :
    (overlayAll (values.map configOf ++ [ofEnvironment env])).get? sectionKey ≠ none := by
  obtain ⟨front, v, rfl⟩ := List.eq_nil_or_concat' values |>.resolve_left some
  rw [List.forall_mem_append, List.forall_mem_singleton] at nested
  have last := get?_overlay_section (overlayAll (front.map configOf)) (isObject_configOf nested.2.object)
    (get?_configOf v)
  rw [← Entries.overlayAll_append_singleton, ← List.map_singleton, ← List.map_append] at last
  rw [ofEnvironment_eq]
  split
  · rw [Entries.overlayAll_append_nil, last]
    exact nofun
  · have single := carries_single (isSection_overrides env).object
    rw [Entries.overlayAll_append_singleton, get?_overlay_section _ single.whole single.holds]
    exact nofun

/-- The settings are read from the sections that stand and the variables; if there are none, what is no section stands
in their place, and that is reported. -/
theorem limitsOf_standing (nested : ∀ v ∈ values, IsNested (entriesIn v)) (some : values ≠ []) (env : Environment) :
    limitsOf (.mapping (overlayAll (values.map configOf ++ [ofEnvironment env]))) =
      if standing values = [] ∧ overrides env = [] then .error .sectionNotMapping
      else (Limits.ofSection (overlayAll (standing values ++ [overrides env]))).mapError .invalid := by
  have stands := stands_ofEnvironment nested env
  have present := get?_section_ne_none nested some env
  have same : overlayAll (standing values ++ [overrides env]) =
      overlayAll (if overrides env = [] then standing values else standing values ++ [overrides env]) := by
    by_cases unset : overrides env = []
    · rw [if_pos unset, unset, Entries.overlayAll_append_nil]
    · rw [if_neg unset]
  have none_left : (standing values = [] ∧ overrides env = []) ↔
      (if overrides env = [] then standing values else standing values ++ [overrides env]) = [] := by
    by_cases unset : overrides env = [] <;> simp [unset]
  rw [same]
  simp only [none_left]
  generalize (if overrides env = [] then standing values else standing values ++ [overrides env]) = top at stands ⊢
  generalize overlayAll (values.map configOf ++ [ofEnvironment env]) = config at stands present ⊢
  cases held : config.get? sectionKey with
  | none => exact absurd held present
  | some v =>
    rw [held] at stands
    cases stands with
    | wrong plain =>
      rw [if_pos rfl, limitsOf, held, Option.getD_some]
      cases v with
      | mapping fields => exact absurd rfl (plain fields)
      | _ => rfl
    | sections filled =>
      rw [if_neg filled]
      exact limitsOf_mapping (by rw [sectionIn, held, Option.getD_some])

/-! ## The files -/

/-- What the path leads to passes, with the value of the file if there is one. -/
inductive Gives (disk : Disk) (path : String) : Option Value → Prop
  | missing (absent : disk path = .missing) : Gives disk path none
  | file {v : Value} (parses : Parses disk path v) (fits : v.isTruthy = false ∨ ∃ entries, v = .mapping entries) :
      Gives disk path (some v)

theorem exists_gives_of_ofFile? {config? : Option Entries} (read : ofFile? disk path = .ok config?) :
    ∃ value?, Gives disk path value? := by
  have passes : Passes disk path := by
    by_contra stops
    by_cases escapes : Escapes disk path
    · obtain ⟨fault, failed, -⟩ := ofFile?_of_escapes escapes
      rw [failed] at read
      cases read
    · obtain ⟨fault, failed, -⟩ := ofFile?_of_neither stops escapes
      rw [failed] at read
      cases read
  cases passes with
  | missing absent => exact ⟨none, .missing absent⟩
  | file parses fits => exact ⟨_, .file parses fits⟩

theorem ofFiles_of_gives {contents : List (Option Value)} (given : List.Forall₂ (Gives disk) paths_ contents) :
    ofFiles disk paths_ = .ok (contents.reduceOption.map configOf) := by
  induction given with
  | nil => rfl
  | cons first _ ih =>
    cases first with
    | missing absent =>
      rw [ofFiles, ofFile?_of_missing absent, ih]
      rfl
    | file parses fits =>
      rw [ofFiles, ofFile?_of_parses parses fits, ih]
      rfl

theorem exists_gives_of_ofFiles {configs : List Entries} (read : ofFiles disk paths_ = .ok configs) :
    ∃ contents, List.Forall₂ (Gives disk) paths_ contents := by
  induction paths_ generalizing configs with
  | nil => exact ⟨[], .nil⟩
  | cons path others ih =>
    rw [ofFiles] at read
    cases first : ofFile? disk path with
    | error fault =>
      rw [first] at read
      cases read
    | ok config? =>
      cases rest : ofFiles disk others with
      | error fault =>
        rw [first, rest] at read
        cases read
      | ok later =>
        obtain ⟨value?, gives⟩ := exists_gives_of_ofFile? first
        obtain ⟨contents, given⟩ := ih rest
        exact ⟨value? :: contents, .cons gives given⟩

theorem isNested_of_gives {contents : List (Option Value)} (given : List.Forall₂ (Gives disk) paths_ contents) :
    ∀ v ∈ contents.reduceOption, IsNested (entriesIn v) := by
  induction given with
  | nil => exact nofun
  | cons first _ ih =>
    cases first with
    | missing absent => exact ih
    | file parses fits => exact List.forall_mem_cons.mpr ⟨isNested_entriesIn parses, ih⟩

/-- All files pass, a section or a variable stands on top of what is no section, and what stands can be read. -/
def Masked (disk : Disk) (env : Environment) (paths_ : List String) : Prop :=
  ∃ contents, List.Forall₂ (Gives disk) paths_ contents ∧
    ¬ (standing contents.reduceOption = [] ∧ overrides env = []) ∧
    ∃ limits, Limits.ofSection (overlayAll (standing contents.reduceOption ++ [overrides env])) = .ok limits

theorem Gives.eq_some {value? : Option Value} (gives : Gives disk path value?) (parses : Parses disk path v) :
    value? = some v := by
  obtain ⟨bytes, cs, found, decoded, read⟩ := parses
  cases gives with
  | missing absent =>
    rw [absent] at found
    cases found
  | file other _ =>
    obtain ⟨bytes', cs', found', decoded', read'⟩ := other
    cases found.symm.trans found'
    cases decoded.symm.trans decoded'
    cases read.symm.trans read'
    rfl

/-- What a path in the middle leads to, and what those after it lead to. -/
private theorem exists_split {before after : List String} {contents : List (Option Value)}
    (given : List.Forall₂ (Gives disk) (before ++ path :: after) contents) (parses : Parses disk path v) :
    ∃ front back, contents = front ++ some v :: back ∧ Gives disk path (some v) ∧
      List.Forall₂ (Gives disk) after back := by
  induction before generalizing contents with
  | nil =>
    cases given with
    | cons first rest =>
      obtain rfl := first.eq_some parses
      exact ⟨[], _, rfl, first, rest⟩
  | cons other before ih =>
    cases given with
    | cons first rest =>
      obtain ⟨front, back, rfl, here, later⟩ := ih rest
      exact ⟨_ :: front, back, rfl, here, later⟩

theorem exists_parses_of_mem {contents : List (Option Value)} (given : List.Forall₂ (Gives disk) paths_ contents) :
    ∀ v ∈ contents.reduceOption, ∃ path ∈ paths_, Parses disk path v := by
  induction given with
  | nil => exact nofun
  | @cons path content others _ first _ ih =>
    have widen (v : Value) (later : ∃ other ∈ others, Parses disk other v) :
        ∃ other ∈ path :: others, Parses disk other v :=
      later.imp fun _ => And.imp_left (List.mem_cons_of_mem _)
    cases first with
    | missing absent => exact fun v member => widen v (ih v member)
    | file parses fits =>
      exact List.forall_mem_cons.mpr ⟨⟨_, List.mem_cons_self, parses⟩, fun v member => widen v (ih v member)⟩

/-- If any section stands, the last file has one. -/
theorem exists_section_of_standing (some : standing values ≠ []) :
    ∃ v ∈ values, ∃ fields, sectionIn (entriesIn v) = .mapping fields := by
  obtain ⟨front, v, rfl⟩ := List.eq_nil_or_concat' values |>.resolve_left (by rintro rfl; exact some rfl)
  refine ⟨v, List.mem_append_right _ List.mem_cons_self, ?_⟩
  rw [standing_append_singleton, stack] at some
  split at some
  next fields inSection => exact ⟨fields, inSection⟩
  · exact absurd rfl some

/-- Under a wrong section nothing stands. -/
theorem standing_of_inner {front back : List Value} {entries : Entries} (own : entries.get? sectionKey = some v)
    (plain : ∀ fields, v ≠ .mapping fields) :
    standing (front ++ .mapping entries :: back) = standing back := by
  have cleared : stack (standing front) (.mapping entries) = [] := by
    rw [stack, entriesIn, sectionIn, own, Option.getD_some]
    cases v with
    | mapping fields => exact absurd rfl (plain fields)
    | _ => rfl
  rw [standing, List.foldl_append, List.foldl_cons, ← standing, cleared, standing]

/-- With a file at all that passes, loading the settings reads what stands. -/
theorem loadLimits_of_gives {path? : Option String} {contents : List (Option Value)}
    (given : List.Forall₂ (Gives disk) (paths env path?) contents) (some : contents.reduceOption ≠ []) :
    loadLimits disk env path? =
      if standing contents.reduceOption = [] ∧ overrides env = [] then .error .sectionNotMapping
      else (Limits.ofSection (overlayAll (standing contents.reduceOption ++ [overrides env]))).mapError .invalid := by
  rcases consulted_cases disk env path? with same | ⟨path, rfl, absent, -⟩
  · rw [loadLimits, load, same, ofFiles_of_gives given, Except.map, Except.bind]
    exact limitsOf_standing (isNested_of_gives given) some env
  · rw [paths] at given
    cases given with
    | cons first rest =>
      cases rest
      cases first with
      | missing => exact absurd rfl some
      | file parses _ =>
        obtain ⟨bytes, cs, found, -⟩ := parses
        rw [absent] at found
        cases found

def switchedOffText : String :=
  "\x7b\"validation\":\"off\"\x7d"

/-- A file whose section is a text, and no others. -/
def switchedOff : Disk :=
  Disk.ofFiles [(".dcform.yaml", switchedOffText.toList.map Char.toNat)]

private theorem switchedOff_paths (env : Environment) (home : env.lookup "XDG_CONFIG_HOME" = some "conf") :
    paths env none = ["conf/dcform/config.yaml"] ++ ".dcform.yaml" :: ["dcform.yaml"] := by
  rw [paths, defaultPaths, folderOf, home, Option.getD_some]
  decide +kernel

private theorem switchedOff_parses :
    Parses switchedOff ".dcform.yaml" (.mapping [(sectionKey, .text "off")]) := by
  refine ⟨switchedOffText.toList.map Char.toNat, switchedOffText.toList, by decide +kernel, rfl, ?_⟩
  cbv

private theorem switchedOff_isMisshapen : IsMisshapen (.mapping [(sectionKey, .text "off")]) :=
  .inner (v := .text "off") rfl nofun

private theorem switchedOff_gives :
    List.Forall₂ (Gives switchedOff) (["conf/dcform/config.yaml"] ++ ".dcform.yaml" :: ["dcform.yaml"])
      [none, some (.mapping [(sectionKey, .text "off")]), none] :=
  .cons (.missing (by decide +kernel)) (.cons (.file switchedOff_parses (.inr ⟨_, rfl⟩))
    (.cons (.missing (by decide +kernel)) .nil))

end Config

end DatasetForm
