import DatasetForm.Proofs.Distinct
import DatasetForm.Proofs.Value.Mapping
import DatasetForm.Settings.Conversion

/-!
Sections of settings laid over each other: which settings the result names, in which order, and what it holds for
each. Reading settings from a section depends on these alone.
-/

set_option autoImplicit false
set_option relaxedAutoImplicit false

namespace DatasetForm

namespace SettingName

theorem mem_all (name : SettingName) : name ∈ all := by
  cases name <;> decide

theorem nodup_all : all.Nodup := by
  decide

theorem ofKey?_key (name : SettingName) : ofKey? (.text name.key) = some name := by
  cases name <;> rfl

theorem ofKey?_eq_some_iff {key : Value} {name : SettingName} :
    ofKey? key = some name ↔ key = .text name.key := by
  constructor
  · intro found
    have matched := List.find?_some found
    exact (Value.same_text_iff _ _).mp matched
  · rintro rfl
    exact ofKey?_key name

theorem key_injective : Function.Injective key := by
  intro a b same
  have := ofKey?_key a
  rw [same, ofKey?_key b] at this
  exact (Option.some.inj this).symm

end SettingName

namespace Entries

variable {fields base top : Entries} {sections : List Entries} {name : SettingName}
variable {names : List SettingName} {value? : SettingName → Option Value}

/-- The settings that a section names, in order. -/
def named (fields : Entries) : List SettingName :=
  (fields.map Prod.fst).filterMap SettingName.ofKey?

/-- What a section holds for a setting. -/
def setting? (fields : Entries) (name : SettingName) : Option Value :=
  fields.get? (.text name.key)

/-- The settings of a section with their values. -/
def settings (fields : Entries) : List (SettingName × Value) :=
  fields.filterMap fun entry => (SettingName.ofKey? entry.1).map (·, entry.2)

/-- The keys are texts, each there once, and no setting is a mapping. -/
structure IsSection (fields : Entries) : Prop where
  object : IsObject fields
  plain : ∀ name entries, fields.setting? name ≠ some (.mapping entries)

theorem mem_named_iff : name ∈ named fields ↔ Value.text name.key ∈ fields.map Prod.fst := by
  simp only [named, List.mem_filterMap, SettingName.ofKey?_eq_some_iff, exists_eq_right]

theorem IsObject.nodup_named (object : IsObject fields) : (named fields).Nodup := by
  refine object.distinct.filterMap fun key key' name found found' => ?_
  rw [SettingName.ofKey?_eq_some_iff.mp found, SettingName.ofKey?_eq_some_iff.mp found']

theorem IsObject.settings_eq (object : IsObject fields) :
    settings fields = (named fields).filterMap fun name => (fields.setting? name).map (name, ·) := by
  rw [settings, named, List.filterMap_map, List.filterMap_filterMap]
  refine List.filterMap_congr fun entry member => ?_
  rw [Function.comp_apply]
  cases found : SettingName.ofKey? entry.1 with
  | none => rfl
  | some name =>
    have key := SettingName.ofKey?_eq_some_iff.mp found
    have value : fields.setting? name = some entry.2 :=
      object.get?_eq_some_iff.mpr (key ▸ member)
    rw [Option.bind_some, value]
    rfl

/-! ## The section of given settings -/

/-- The settings with some names that have a value, as a section. -/
def ofSettings (names : List SettingName) (value? : SettingName → Option Value) : Entries :=
  names.filterMap fun name => (value? name).map (Value.text name.key, ·)

theorem mem_ofSettings_iff {entry : Value × Value} :
    entry ∈ ofSettings names value? ↔ ∃ name ∈ names, value? name = some entry.2 ∧ entry.1 = .text name.key := by
  simp only [ofSettings, List.mem_filterMap, Option.map_eq_some_iff]
  constructor
  · rintro ⟨name, member, v, held, rfl⟩
    exact ⟨name, member, held, rfl⟩
  · rintro ⟨name, member, held, key⟩
    exact ⟨name, member, entry.2, held, Prod.ext key.symm rfl⟩

theorem settings_ofSettings :
    settings (ofSettings names value?) = names.filterMap fun name => (value? name).map (name, ·) := by
  rw [settings, ofSettings, List.filterMap_filterMap]
  refine List.filterMap_congr fun name _ => ?_
  cases value? name with
  | none => rfl
  | some v => rw [Option.map_some, Option.bind_some, SettingName.ofKey?_key]; rfl

theorem named_ofSettings : named (ofSettings names value?) = names.filter fun name => (value? name).isSome := by
  rw [named, ofSettings, List.map_filterMap, List.filterMap_filterMap, ← List.filterMap_eq_filter]
  refine List.filterMap_congr fun name _ => ?_
  cases held : value? name with
  | none => simp [Option.guard, held]
  | some v => simp [Option.guard, held, SettingName.ofKey?_key]

theorem isObject_ofSettings (distinct : names.Nodup) : IsObject (ofSettings names value?) := by
  constructor
  · intro entry member
    obtain ⟨name, -, -, key⟩ := mem_ofSettings_iff.mp member
    exact ⟨name.key, key⟩
  · rw [ofSettings, List.map_filterMap]
    refine distinct.filterMap fun name other key found found' => ?_
    simp only [Option.map_map, Option.mem_def, Option.map_eq_some_iff] at found found'
    obtain ⟨_, -, rfl⟩ := found
    obtain ⟨_, -, same⟩ := found'
    exact SettingName.key_injective (Value.text.inj same).symm

theorem setting?_ofSettings (distinct : names.Nodup) (member : name ∈ names) :
    setting? (ofSettings names value?) name = value? name := by
  refine Option.ext fun v => ?_
  rw [setting?, (isObject_ofSettings distinct).get?_eq_some_iff, mem_ofSettings_iff]
  constructor
  · rintro ⟨other, -, held, key⟩
    rwa [SettingName.key_injective (Value.text.inj key)]
  · exact fun held => ⟨name, member, held, rfl⟩

/-! ## A section over another -/

private theorem named_cons (key v : Value) (fields : Entries) :
    named ((key, v) :: fields) = (SettingName.ofKey? key).toList ++ named fields := by
  cases found : SettingName.ofKey? key <;> simp [named, found]

private theorem named_append (fields more : Entries) : named (fields ++ more) = named fields ++ named more := by
  simp [named]

private theorem named_insert (s : String) (v : Value) :
    named (insert fields (.text s) v) =
      named fields ++ (SettingName.ofKey? (.text s)).toList.filter (· ∉ named fields) := by
  have known : ∀ name ∈ (SettingName.ofKey? (.text s)).toList,
      (name ∈ named fields ↔ Value.text s ∈ fields.map Prod.fst) := by
    intro name member
    rw [Option.mem_toList, SettingName.ofKey?_eq_some_iff] at member
    rw [mem_named_iff, member]
  by_cases present : Value.text s ∈ fields.map Prod.fst
  · have nothing : (SettingName.ofKey? (.text s)).toList.filter (· ∉ named fields) = [] :=
      List.filter_eq_nil_iff.mpr fun name member => by simpa using (known name member).mpr present
    rw [nothing, List.append_nil, named, map_fst_insert_of_mem present, named]
  · have all : (SettingName.ofKey? (.text s)).toList.filter (· ∉ named fields) =
        (SettingName.ofKey? (.text s)).toList :=
      List.filter_eq_self.mpr fun name member => by simpa using mt (known name member).mp present
    rw [all, insert_of_not_mem present, named_append, named_cons]
    exact congrArg _ (List.append_nil _)

/-- What is laid over a section adds the settings to it that it does not name. -/
theorem named_overlay (base : Entries) (object : IsObject top) :
    named (overlay base top) = named base ++ (named top).filter (· ∉ named base) := by
  induction top generalizing base with
  | nil => simp [overlay, named]
  | cons entry top ih =>
    obtain ⟨key, v⟩ := entry
    obtain ⟨s, rfl⟩ : ∃ s, key = .text s := object.texts _ List.mem_cons_self
    obtain ⟨fresh, -⟩ := List.nodup_cons.mp object.distinct
    -- A later entry names another setting than this one, so that it is added to both or to neither.
    have later : ∀ name ∈ named top, name ∉ (SettingName.ofKey? (.text s)).toList := by
      intro name member here
      rw [Option.mem_toList, SettingName.ofKey?_eq_some_iff] at here
      exact fresh (here ▸ mem_named_iff.mp member)
    rw [overlay_cons, ih _ object.tail, named_insert, named_cons, List.filter_append, List.append_assoc]
    congr 2
    refine List.filter_congr fun name member => ?_
    simp [later name member]

theorem setting?_overlay (base : Entries) (above : IsSection top) (name : SettingName) :
    setting? (overlay base top) name = (setting? top name).or (setting? base name) := by
  rw [setting?, get?_overlay base above.object, ← setting?, ← setting?]
  cases found : setting? top name with
  | none => rfl
  | some v =>
    have plain : ∀ fields, v ≠ .mapping fields := fun fields same => above.plain name fields (same ▸ found)
    rw [Option.map_some, overlayValue_of_ne plain]

/-! ## Any number of sections -/

/-- Names that are added may be left out if nothing is made of them. -/
theorem filterMap_eraseDups_append_filter {α : Type} {others : List SettingName} (distinct : others.Nodup)
    {keep : SettingName → Bool} {f : SettingName → Option α}
    (nothing : ∀ name ∉ names, keep name = false → f name = none) :
    (names ++ others.filter keep).eraseDups.filterMap f = (names ++ others).eraseDups.filterMap f := by
  rw [List.eraseDups_append, List.eraseDups_append, List.filterMap_append, List.filterMap_append, List.removeAll,
    List.removeAll, eraseDups_of_nodup ((distinct.filter _).filter _), eraseDups_of_nodup (distinct.filter _),
    List.filterMap_filter, List.filterMap_filter, List.filterMap_filter]
  refine congrArg _ (List.filterMap_congr fun name _ => ?_)
  by_cases fresh : name ∈ names
  · simp [fresh]
  · cases kept : keep name with
    | true => simp
    | false => simp [nothing name fresh kept]

/-- Sections laid over each other name each setting in the place where one of them first names it. -/
theorem named_overlayAll (objects : ∀ fields ∈ sections, IsObject fields) :
    named (overlayAll sections) = (sections.flatMap named).eraseDups := by
  -- What has been laid over each other so far stands for all the names met so far.
  suffices general : ∀ base names, named base = names.eraseDups →
      named (sections.foldl overlay base) = (names ++ sections.flatMap named).eraseDups from
    general [] [] rfl
  induction sections with
  | nil =>
    intro base names below
    rw [List.foldl_nil, below, List.flatMap_nil, List.append_nil]
  | cons top sections ih =>
    rw [List.forall_mem_cons] at objects
    intro base names below
    have added : (named top).filter (· ∉ named base) = ((named top).removeAll names).eraseDups := by
      rw [List.removeAll, eraseDups_of_nodup (objects.1.nodup_named.filter _)]
      refine List.filter_congr fun name _ => ?_
      simp [below]
    rw [List.foldl_cons, List.flatMap_cons, ← List.append_assoc]
    apply ih objects.2
    rw [named_overlay base objects.1, added, below, List.eraseDups_append]

/-- Of sections laid over each other, the last one that holds a setting decides on it. -/
theorem setting?_overlayAll (all : ∀ fields ∈ sections, IsSection fields) (name : SettingName) :
    setting? (overlayAll sections) name = sections.reverse.findSome? (setting? · name) := by
  suffices general : ∀ base, setting? (sections.foldl overlay base) name =
      (sections.reverse.findSome? (setting? · name)).or (setting? base name) from
    (general []).trans Option.or_none
  induction sections with
  | nil => exact fun base => rfl
  | cons top sections ih =>
    intro base
    rw [List.forall_mem_cons] at all
    rw [List.foldl_cons, ih all.2, setting?_overlay base all.1, List.reverse_cons, List.findSome?_append,
      List.findSome?_singleton, Option.or_assoc]

/-- The settings of sections laid over each other, each with its value in the last section that holds it. -/
theorem settings_overlayAll (all : ∀ fields ∈ sections, IsSection fields) :
    settings (overlayAll sections) = (sections.flatMap named).eraseDups.filterMap fun name =>
      (sections.reverse.findSome? (setting? · name)).map (name, ·) := by
  have objects : ∀ fields ∈ sections, IsObject fields := fun fields member => (all fields member).object
  rw [(isObject_overlayAll objects).settings_eq, named_overlayAll objects]
  exact List.filterMap_congr fun name _ => by rw [setting?_overlayAll all]

end Entries

namespace Limits

/-- Reading a section reads its settings and nothing else. -/
theorem readSection_eq_foldlM_settings (l : Limits) (fields : Entries) :
    readSection l fields = fields.settings.foldlM (fun l entry => readSetting l entry.1 entry.2) l := by
  rw [readSection, Entries.settings, List.foldlM_filterMap]
  congr 1
  funext l entry
  cases SettingName.ofKey? entry.1 <;> rfl

theorem ofSection_congr {fields others : Entries} (same : fields.settings = others.settings) :
    ofSection fields = ofSection others := by
  rw [ofSection, ofSection, readSection_eq_foldlM_settings, same, ← readSection_eq_foldlM_settings]

end Limits

end DatasetForm
