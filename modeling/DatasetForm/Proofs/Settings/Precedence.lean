import DatasetForm.Proofs.Json.Objects
import DatasetForm.Proofs.Settings.Section
import DatasetForm.Settings.Load
import Mathlib.Data.List.Forall2
import Mathlib.Data.List.ReduceOption

/-!
Which source decides on a setting. Of the configuration files, some with a section for the settings and some
without, the last one that holds a setting decides on it, unless an environment variable does. Loading the
settings is reading the mapping that these choices make up.
-/

set_option autoImplicit false
set_option relaxedAutoImplicit false

namespace DatasetForm

namespace Config

open Entries (IsObject IsSection IsNested overlay overlayAll named setting? settings ofSettings)

variable {disk : Disk} {env : Environment} {path : String} {bytes : List Nat} {config fields : Entries}
variable {configs sections : List Entries} {name : SettingName}

/-! ## The sections of configurations -/

/-- The section of a configuration or, when it has none, the whole configuration. -/
def sectionIn (config : Entries) : Value :=
  (config.get? sectionKey).getD (.mapping config)

theorem limitsOf_mapping (inSection : sectionIn config = .mapping fields) :
    limitsOf (.mapping config) = (Limits.ofSection fields).mapError .invalid := by
  rw [sectionIn] at inSection
  rw [limitsOf, inSection]
  dsimp only
  cases Limits.ofSection fields <;> rfl

/-- The configuration has its settings in a section of their own. -/
structure Carries (config fields : Entries) : Prop where
  whole : IsObject config
  inner : IsObject fields
  holds : config.get? sectionKey = some (.mapping fields)

theorem carries_single (object : IsObject fields) : Carries [(sectionKey, .mapping fields)] fields :=
  ⟨⟨by simp [sectionKey], List.nodup_singleton _⟩, object, by simp [Entries.get?, sectionKey, Value.same]⟩

theorem Carries.overlay {base below top above : Entries} (low : Carries base below) (high : Carries top above) :
    Carries (overlay base top) (overlay below above) := by
  refine ⟨low.whole.overlay high.whole, low.inner.overlay high.inner, ?_⟩
  rw [sectionKey, Entries.get?_overlay base high.whole, ← sectionKey, high.holds, low.holds]
  rfl

/-- With configurations, their sections are laid over each other. -/
theorem sectionIn_overlayAll (carried : List.Forall₂ Carries configs sections) :
    sectionIn (overlayAll configs) = .mapping (overlayAll sections) := by
  cases carried with
  | nil => rfl
  | @cons config fields configs sections first others =>
    -- The first one is laid over nothing, which leaves it as it is; from then on both sides have a section.
    suffices general : ∀ base below, Carries base below →
        Carries (configs.foldl overlay base) (sections.foldl overlay below) by
      have all := general config fields first
      rw [overlayAll, overlayAll, List.foldl_cons, List.foldl_cons, Entries.overlay_nil first.whole,
        Entries.overlay_nil first.inner, sectionIn, all.holds, Option.getD_some]
    clear first
    induction others with
    | nil => exact fun base below low => low
    | cons high _ ih => exact fun base below low => ih _ _ (low.overlay high)

/-! ## The files -/

/-- What stands at a path: no file, or a file with settings, be it that they have a section of their own or that the
whole file is one. No setting is a mapping. -/
inductive Holds (disk : Disk) (path : String) : Option Entries → Prop
  | missing (absent : disk path = .missing) : Holds disk path none
  | file {bytes : List Nat} {config fields : Entries} (found : disk path = .file bytes)
      (read : ofBytes path bytes = .ok config) (inSection : sectionIn config = .mapping fields)
      (plain : ∀ name entries, setting? fields name ≠ some (.mapping entries)) : Holds disk path (some fields)

theorem isNested_of_ofBytes (read : ofBytes path bytes = .ok config) : IsNested config := by
  rw [ofBytes] at read
  split at read
  · cases read
  · split at read
    · cases read
    next scalars =>
      split at read
      · cases read
        exact Entries.isNested_nil
      · split at read
        · cases read
          exact Json.isNested_of_readScalars scalars
        · cases read

theorem isObject_of_sectionIn (nested : IsNested config) (inSection : sectionIn config = .mapping fields) :
    IsObject fields := by
  rw [sectionIn] at inSection
  cases own : config.get? sectionKey with
  | none =>
    rw [own, Option.getD_none] at inSection
    exact Value.mapping.inj inSection ▸ nested.object
  | some v =>
    rw [own, Option.getD_some] at inSection
    exact nested.inner _ (nested.object.get?_eq_some_iff.mp own) fields inSection

theorem Holds.isSection (held : Holds disk path (some fields)) : IsSection fields := by
  cases held with
  | file _ read inSection plain => exact ⟨isObject_of_sectionIn (isNested_of_ofBytes read) inSection, plain⟩

/-- The configuration in bytes is given a section when it has none. -/
theorem carries_sectioned (nested : IsNested config) (inSection : sectionIn config = .mapping fields) :
    Carries (sectioned config) fields := by
  have object := isObject_of_sectionIn nested inSection
  rw [sectionIn] at inSection
  cases own : config.get? sectionKey with
  | none =>
    rw [own, Option.getD_none] at inSection
    rw [sectioned, own, Value.mapping.inj inSection]
    exact carries_single object
  | some v =>
    rw [own, Option.getD_some] at inSection
    rw [sectioned, own]
    exact ⟨nested.object, object, own.trans (congrArg some inSection)⟩

theorem ofFile?_of_missing (absent : disk path = .missing) : ofFile? disk path = .ok none := by
  rw [ofFile?, absent]

theorem ofFile?_of_file (found : disk path = .file bytes) (read : ofBytes path bytes = .ok config) :
    ofFile? disk path = .ok (some (sectioned config)) := by
  rw [ofFile?, found]
  dsimp only
  rw [read, Except.map]

/-- The files that exist are read, and each gives a configuration that has a section. -/
theorem exists_ofFiles {paths : List String} {contents : List (Option Entries)}
    (held : List.Forall₂ (Holds disk) paths contents) :
    ∃ configs, ofFiles disk paths = .ok configs ∧ List.Forall₂ Carries configs contents.reduceOption := by
  induction held with
  | nil => exact ⟨[], rfl, .nil⟩
  | @cons path content paths contents first _ ih =>
    obtain ⟨configs, readOthers, carried⟩ := ih
    cases first with
    | missing absent =>
      refine ⟨configs, ?_, carried⟩
      rw [ofFiles, ofFile?_of_missing absent, readOthers]
      rfl
    | @file _ config _ found read inSection _ =>
      refine ⟨sectioned config :: configs, ?_, .cons (carries_sectioned (isNested_of_ofBytes read) inSection) carried⟩
      rw [ofFiles, ofFile?_of_file found read, readOthers]
      rfl

theorem isSection_of_holds {paths : List String} {contents : List (Option Entries)}
    (held : List.Forall₂ (Holds disk) paths contents) : ∀ fields ∈ contents.reduceOption, IsSection fields := by
  induction held with
  | nil => exact nofun
  | @cons path content paths contents first _ ih =>
    cases content with
    | none => exact ih
    | some fields => exact List.forall_mem_cons.mpr ⟨first.isSection, ih⟩

/-! ## The environment variables -/

/-- The settings in environment variables. -/
def overrides (env : Environment) : Entries :=
  ofSettings SettingName.all fun name => (env.lookup name.environmentName).map Value.text

theorem ofEnvironment_eq (env : Environment) :
    ofEnvironment env = if (overrides env).isEmpty then [] else [(sectionKey, .mapping (overrides env))] := by
  have same : overrides env = SettingName.all.filterMap fun name =>
      (env.lookup name.environmentName).map fun s => (Value.text name.key, Value.text s) := by
    simp only [overrides, ofSettings, Option.map_map, Function.comp_def]
  rw [ofEnvironment, same]

theorem setting?_overrides (env : Environment) (name : SettingName) :
    setting? (overrides env) name = (env.lookup name.environmentName).map Value.text :=
  Entries.setting?_ofSettings SettingName.nodup_all (SettingName.mem_all name)

theorem isSection_overrides (env : Environment) : IsSection (overrides env) := by
  refine ⟨Entries.isObject_ofSettings SettingName.nodup_all, fun name entries found => ?_⟩
  rw [setting?_overrides, Option.map_eq_some_iff] at found
  obtain ⟨_, -, same⟩ := found
  cases same

/-- The variables come last; without any, nothing is laid over the files. -/
theorem sectionIn_overlayAll_ofEnvironment (carried : List.Forall₂ Carries configs sections) :
    sectionIn (overlayAll (configs ++ [ofEnvironment env])) =
      .mapping (overlayAll (sections ++ [overrides env])) := by
  rw [ofEnvironment_eq]
  by_cases unset : overrides env = []
  · rw [unset, List.isEmpty_nil, if_pos rfl, Entries.overlayAll_append_nil, Entries.overlayAll_append_nil]
    exact sectionIn_overlayAll carried
  · rw [if_neg (by rwa [List.isEmpty_iff])]
    have last := carries_single (isSection_overrides env).object
    exact sectionIn_overlayAll (List.rel_append carried (.cons last .nil))

/-! ## The choice between the sources -/

/-- The value of a setting: the text of its environment variable if that is set, and otherwise what the last section
that holds the setting has for it. -/
def chosen? (env : Environment) (sections : List Entries) (name : SettingName) : Option Value :=
  ((env.lookup name.environmentName).map Value.text).or
    (sections.reverse.findSome? fun fields => fields.get? (.text name.key))

/-- The settings that have a value; those that sections name come first, in the order in which they are named. -/
def chosen (env : Environment) (sections : List Entries) : Entries :=
  ofSettings (sections.flatMap named ++ SettingName.all).eraseDups (chosen? env sections)

theorem get?_chosen : (chosen env sections).get? (.text name.key) = chosen? env sections name := by
  rw [chosen, ← setting?]
  refine Entries.setting?_ofSettings (nodup_eraseDups _) ?_
  rw [List.mem_eraseDups, List.mem_append]
  exact .inr (SettingName.mem_all name)

/-- No setting has the key of the section, so that what is chosen is a section itself. -/
theorem sectionIn_chosen : sectionIn (chosen env sections) = .mapping (chosen env sections) := by
  have unnamed : (chosen env sections).get? sectionKey = none := by
    rw [sectionKey, Entries.get?_eq_none_iff]
    intro member
    obtain ⟨entry, inChosen, key⟩ := List.mem_map.mp member
    obtain ⟨name, -, -, key'⟩ := Entries.mem_ofSettings_iff.mp inChosen
    have apart : "validation" ≠ name.key := by cases name <;> decide
    exact apart (Value.text.inj (key.symm.trans key'))
  rw [sectionIn, unnamed, Option.getD_none]

theorem findSome?_setting?_of_unnamed (unnamed : name ∉ sections.flatMap named) :
    sections.reverse.findSome? (setting? · name) = none := by
  rw [List.findSome?_eq_none_iff]
  intro fields member
  rw [setting?, Entries.get?_eq_none_iff, ← Entries.mem_named_iff]
  exact fun inSection => unnamed (List.mem_flatMap.mpr ⟨fields, List.mem_reverse.mp member, inSection⟩)

/-- The variables over the sections have the chosen settings, in the same order. -/
theorem settings_chosen (all : ∀ fields ∈ sections, IsSection fields) :
    settings (overlayAll (sections ++ [overrides env])) = settings (chosen env sections) := by
  have both : ∀ fields ∈ sections ++ [overrides env], IsSection fields := by
    rw [List.forall_mem_append, List.forall_mem_singleton]
    exact ⟨all, isSection_overrides env⟩
  have value : ∀ name, (sections ++ [overrides env]).reverse.findSome? (setting? · name) =
      chosen? env sections name := by
    intro name
    rw [List.reverse_append, List.reverse_singleton, List.singleton_append, List.findSome?_cons,
      setting?_overrides, chosen?]
    cases env.lookup name.environmentName <;> rfl
  rw [Entries.settings_overlayAll both, chosen, Entries.settings_ofSettings]
  simp only [value]
  -- On the left only the variables that are set are named last, on the right all settings are.
  rw [List.flatMap_append, List.flatMap_singleton, overrides, Entries.named_ofSettings]
  refine Entries.filterMap_eraseDups_append_filter SettingName.nodup_all fun name unnamed unset => ?_
  rw [Option.isSome_eq_false_iff, Option.isNone_iff_eq_none] at unset
  rw [chosen?, unset, Option.none_or]
  exact congrArg _ (findSome?_setting?_of_unnamed unnamed)

def sectionedText : String :=
  "\x7b\"max_dates\":\"1\",\"validation\":\x7b\"max_titles\":\"7\",\"min_year\":\"1850\"\x7d\x7d"

def wholeText : String :=
  "\x7b\"colour\":\"red\",\"max_titles\":\"8\"\x7d"

/-- A file with a section, a file without one, and no third file. -/
def layeredFiles : Disk :=
  Disk.ofFiles
    [("conf/dcform/config.yaml", sectionedText.toList.map Char.toNat),
      (".dcform.yaml", wholeText.toList.map Char.toNat)]

def layeredContents : List (Option Entries) :=
  [some [(.text "max_titles", .text "7"), (.text "min_year", .text "1850")],
    some [(.text "colour", .text "red"), (.text "max_titles", .text "8")], none]

def layeredVariables : Environment :=
  [("XDG_CONFIG_HOME", "conf"), ("DCFORM_MIN_YEAR", "1900"), ("DCFORM_DEBOUNCE_MS", "0")]

end Config

end DatasetForm
