import DatasetForm.Proofs.Value.Paths

/-!
What configurations laid over each other hold at a path of keys, however many they are and however deep
(`overlayAll_by_paths`). The last one that decides on the path decides for all of them, but for the keys of a mapping:
there are those of all configurations since one put a mapping where there was none.
-/

set_option autoImplicit false
set_option relaxedAutoImplicit false

namespace DatasetForm

namespace Entries

open Value (at? Decides IsTidy)

variable {configs : List Entries} {config top fields : Entries} {path keys : List Value} {v : Value}

/-- The configuration has a mapping at the path. -/
def HasMapping (path : List Value) (config : Entries) : Prop :=
  ∃ fields, at? path (.mapping config) = some (.mapping fields)

/-- Of the configurations, this is the last one that decides on the path. -/
def IsLastToDecide (configs : List Entries) (path : List Value) (config : Entries) : Prop :=
  ∃ before after, configs = before ++ config :: after ∧ Decides path (.mapping config) ∧
    ∀ later ∈ after, ¬Decides path (.mapping later)

/-- Before these configurations no mapping was at the path, and one is there from the first of them on. At the root
there always is one. -/
structure MappingSince (path : List Value) (before since : List Entries) : Prop where
  began : before = [] ∨ ¬HasMapping path (overlayAll before)
  lasted : ∀ front rest, since = front ++ rest → front ≠ [] → HasMapping path (overlayAll (before ++ front))

/-- The keys of the mapping that a configuration has at the path, if it has one. -/
def keysAt (path : List Value) (config : Entries) : List Value :=
  match at? path (.mapping config) with
  | some (.mapping fields) => fields.map Prod.fst
  | _ => []

/-- The keys are those of the configurations since there last was no mapping at the path, in the order in which they
first appeared. -/
def InOrderSince (path : List Value) (configs : List Entries) (keys : List Value) : Prop :=
  ∃ before since, configs = before ++ since ∧ MappingSince path before since ∧
    keys = firstAppearances (since.flatMap (keysAt path))

/-! ## Which configuration decides -/

theorem isLastToDecide_append_of_decides (decides : Decides path (.mapping top)) :
    IsLastToDecide (configs ++ [top]) path config ↔ config = top := by
  constructor
  · rintro ⟨before, after, split, -, silent⟩
    rcases List.eq_nil_or_concat after with rfl | ⟨after, last, rfl⟩
    · exact (List.append_singleton_inj.mp split).2.symm
    · rw [List.concat_eq_append] at split silent
      rw [← List.cons_append, ← List.append_assoc] at split
      have same := (List.append_singleton_inj.mp split).2
      exact absurd (same ▸ decides) (silent last List.mem_concat_self)
  · rintro rfl
    exact ⟨configs, [], rfl, decides, nofun⟩

theorem isLastToDecide_append_of_not_decides (silent : ¬Decides path (.mapping top)) :
    IsLastToDecide (configs ++ [top]) path config ↔ IsLastToDecide configs path config := by
  constructor
  · rintro ⟨before, after, split, decides, others⟩
    rcases List.eq_nil_or_concat after with rfl | ⟨after, last, rfl⟩
    · have same := (List.append_singleton_inj.mp split).2
      exact absurd (same ▸ decides) silent
    · rw [List.concat_eq_append] at split others
      rw [← List.cons_append, ← List.append_assoc] at split
      obtain ⟨rfl, rfl⟩ := List.append_singleton_inj.mp split
      exact ⟨before, after, rfl, decides, fun later member => others later (List.mem_append_left _ member)⟩
  · rintro ⟨before, after, rfl, decides, others⟩
    refine ⟨before, after ++ [top], by simp, decides, ?_⟩
    rw [List.forall_mem_append, List.forall_mem_singleton]
    exact ⟨others, silent⟩

/-- The value itself, unless it is a mapping. -/
def plain? : Value → Option Value
  | .mapping _ => none
  | v => some v

theorem plain?_overlayValue (below : Option Value) (v : Value) : plain? (overlayValue below v) = plain? v := by
  by_cases mapping : ∃ fields, v = .mapping fields
  · obtain ⟨fields, rfl⟩ := mapping
    by_cases both : ∃ base, below = some (.mapping base)
    · obtain ⟨base, rfl⟩ := both
      rw [overlayValue]
      rfl
    · rw [overlayValue_mapping_of_ne (not_exists.mp both)]
  · rw [overlayValue_of_ne (not_exists.mp mapping)]

theorem plain?_eq_none_iff : plain? v = none ↔ ∃ fields, v = .mapping fields := by
  cases v <;> simp [plain?]

theorem plain?_eq_some_iff (held : Value) : plain? v = some held ↔ v = held ∧ ∀ fields, held ≠ .mapping fields := by
  cases v <;> cases held <;> simp [plain?]

/-- At a path, the configurations laid over each other hold what the last one that decides on it holds, as far as it is
no mapping. -/
theorem plain?_overlayAll (tidy : ∀ config ∈ configs, IsTidy (.mapping config)) (some : path ≠ [])
    (held : Option Value) :
    (at? path (.mapping (overlayAll configs))).map plain? = .some held ↔
      ∃ config, IsLastToDecide configs path config ∧ (at? path (.mapping config)).map plain? = .some held := by
  induction configs using List.reverseRecOn with
  | nil =>
    obtain ⟨key, path, rfl⟩ := List.exists_cons_of_ne_nil some
    constructor
    · rintro ⟨⟩
    · rintro ⟨config, ⟨before, after, split, -, -⟩, -⟩
      cases before <;> cases split
  | append_singleton configs top ih =>
    obtain ⟨lower, above⟩ := List.forall_mem_append.mp tidy
    have merged := Value.isTidy_overlayAll lower
    have tidyTop := above top List.mem_cons_self
    rw [overlayAll_append_singleton]
    by_cases decides : Decides path (.mapping top)
    · have erased (below : Option Value) : plain? ∘ overlayValue below = plain? := funext (plain?_overlayValue below)
      simp only [isLastToDecide_append_of_decides decides, exists_eq_left]
      rw [Value.at?_overlay_of_decides merged tidyTop decides, Option.map_map, erased]
    · simp only [isLastToDecide_append_of_not_decides decides]
      rw [Value.at?_overlay_of_not_decides merged tidyTop decides, ih lower]

/-! ## Since when there is a mapping -/

theorem InOrderSince.append (ordered : InOrderSince path configs keys)
    (still : HasMapping path (overlayAll (configs ++ [top]))) :
    InOrderSince path (configs ++ [top]) ((keysAt path top).foldl addKey keys) := by
  obtain ⟨before, since, rfl, mappings, rfl⟩ := ordered
  refine ⟨before, since ++ [top], List.append_assoc _ _ _, ⟨mappings.began, fun front rest split filled => ?_⟩, ?_⟩
  · rcases List.eq_nil_or_concat rest with rfl | ⟨rest, last, rfl⟩
    · rw [List.append_nil] at split
      rwa [← split, ← List.append_assoc]
    · rw [List.concat_eq_append, ← List.append_assoc] at split
      exact mappings.lasted front rest (List.append_singleton_inj.mp split).1 filled
  · rw [List.flatMap_append, List.flatMap_singleton, firstAppearances_append]

theorem inOrderSince_start (none : ¬HasMapping path (overlayAll configs))
    (now : HasMapping path (overlayAll (configs ++ [top]))) (isKeys : IsKeys (keysAt path top)) :
    InOrderSince path (configs ++ [top]) (keysAt path top) := by
  refine ⟨configs, [top], rfl, ⟨.inr none, fun front rest split filled => ?_⟩, ?_⟩
  · rcases List.singleton_eq_append_iff.mp split with ⟨rfl, -⟩ | ⟨rfl, -⟩
    · exact absurd rfl filled
    · exact now
  · rw [List.flatMap_singleton, isKeys.firstAppearances]

theorem inOrderSince_nil (found : at? path (.mapping []) = some (.mapping fields)) :
    InOrderSince path [] (fields.map Prod.fst) := by
  refine ⟨[], [], rfl, ⟨.inl rfl, fun front rest split filled => ?_⟩, ?_⟩
  · exact absurd (List.append_eq_nil_iff.mp split.symm).1 filled
  · cases path with
    | nil => exact congrArg _ (Value.mapping.inj (Option.some.inj found)).symm
    | cons key path => cases found

theorem keysAt_of_not_decides (silent : ¬Decides path (.mapping config)) : keysAt path config = [] := by
  rw [keysAt]
  split
  next reached => exact absurd (.inl ⟨_, reached⟩) silent
  · rfl

theorem inOrderSince_overlayAll (tidy : ∀ config ∈ configs, IsTidy (.mapping config))
    (found : at? path (.mapping (overlayAll configs)) = some (.mapping fields)) :
    InOrderSince path configs (fields.map Prod.fst) := by
  induction configs using List.reverseRecOn generalizing fields with
  | nil => exact inOrderSince_nil found
  | append_singleton configs top ih =>
    obtain ⟨lower, above⟩ := List.forall_mem_append.mp tidy
    have merged := Value.isTidy_overlayAll lower
    have tidyTop := above top List.mem_cons_self
    have now : HasMapping path (overlayAll (configs ++ [top])) := ⟨fields, found⟩
    rw [overlayAll_append_singleton] at found
    by_cases decides : Decides path (.mapping top)
    · rw [Value.at?_overlay_of_decides merged tidyTop decides, Option.map_eq_some_iff] at found
      obtain ⟨held, reached, laid⟩ := found
      have mapping : plain? held = none := by
        rw [← plain?_overlayValue, laid]
        rfl
      obtain ⟨inner, rfl⟩ := plain?_eq_none_iff.mp mapping
      have own : keysAt path top = inner.map Prod.fst := by
        rw [keysAt, reached]
      by_cases earlier : HasMapping path (overlayAll configs)
      · obtain ⟨base, found⟩ := earlier
        rw [found, overlayValue] at laid
        rw [← Value.mapping.inj laid, map_fst_overlay, ← own]
        exact (ih lower found).append now
      · rw [overlayValue_mapping_of_ne (not_exists.mp earlier)] at laid
        rw [← Value.mapping.inj laid, ← own]
        exact inOrderSince_start earlier now (own ▸ (tidyTop.at? reached).keys)
    · rw [Value.at?_overlay_of_not_decides merged tidyTop decides] at found
      have still := (ih lower found).append now
      rwa [keysAt_of_not_decides decides] at still

/-! ## All of it -/

/-- At a path, the last configuration that decides on it says whether there is a mapping or another value, and which.
The keys of a mapping stand in the order in which they first appeared since it last became one. -/
theorem overlayAll_by_paths (configs : List Entries) (tidy : ∀ config ∈ configs, IsTidy (.mapping config)) :
    (∀ path, path ≠ [] →
      (∀ v, (∀ fields, v ≠ .mapping fields) →
        (at? path (.mapping (overlayAll configs)) = some v ↔
          ∃ config, IsLastToDecide configs path config ∧ at? path (.mapping config) = some v)) ∧
      (HasMapping path (overlayAll configs) ↔
        ∃ config, IsLastToDecide configs path config ∧ HasMapping path config)) ∧
    ∀ path fields, at? path (.mapping (overlayAll configs)) = some (.mapping fields) →
      InOrderSince path configs (fields.map Prod.fst) := by
  refine ⟨fun path filled => ⟨fun v plain => ?_, ?_⟩, fun path fields found => inOrderSince_overlayAll tidy found⟩
  · have decided := plain?_overlayAll tidy filled (some v)
    have exactly (config : Entries) :
        (at? path (.mapping config)).map plain? = some (some v) ↔ at? path (.mapping config) = some v := by
      rw [Option.map_eq_some_iff]
      simp only [plain?_eq_some_iff]
      exact ⟨fun ⟨held, found, same, _⟩ => same ▸ found, fun found => ⟨v, found, rfl, plain⟩⟩
    simpa only [exactly] using decided
  · have decided := plain?_overlayAll tidy filled none
    have mapping (config : Entries) :
        (at? path (.mapping config)).map plain? = some none ↔ HasMapping path config := by
      rw [Option.map_eq_some_iff]
      simp only [plain?_eq_none_iff]
      exact ⟨fun ⟨held, found, fields, same⟩ => ⟨fields, same ▸ found⟩, fun ⟨fields, found⟩ => ⟨_, found, fields, rfl⟩⟩
    simpa only [mapping] using decided

/-- A mapping that is switched off, put there again and laid over; `1` and the truth value are one key. -/
private def switched : List Entries :=
  [[(.text "rules", .mapping [(.text "doi", .int 1), (.text "url", .int 2)]), (.int 1, .text "one")],
    [(.text "rules", .text "off")],
    [(.text "rules", .mapping [(.text "url", .int 3)]), (.bool true, .mapping [(.text "one", .null)])],
    [(.text "rules", .mapping [(.text "doi", .int 4)])]]

private theorem isTidy_switched : ∀ config ∈ switched, IsTidy (.mapping config) := by
  have text (s : String) : IsTidy (.text s) := .plain nofun
  have single (s : String) (v : Value) (tidy : IsTidy v) : IsTidy (.mapping [(.text s, v)]) :=
    .mapping ⟨by simp [Value.unhashable?], List.pairwise_singleton _ _⟩ (by simpa using tidy)
  simp only [switched, List.forall_mem_cons]
  refine ⟨.mapping (by decide +kernel) ?_, single _ _ (text "off"), .mapping (by decide +kernel) ?_,
    single _ _ (single _ _ (.plain nofun)), nofun⟩
  · simp only [List.forall_mem_cons]
    refine ⟨.mapping (by decide +kernel) ?_, text "one", nofun⟩
    simp only [List.forall_mem_cons]
    exact ⟨.plain nofun, .plain nofun, nofun⟩
  · simp only [List.forall_mem_cons]
    exact ⟨single _ _ (.plain nofun), single _ _ (.plain nofun), nofun⟩

theorem overlayAll_by_paths_switched :
    (∀ config ∈ switched, IsTidy (.mapping config)) ∧
      at? [.int 1, .text "one"] (.mapping (overlayAll switched)) = some .null ∧
      InOrderSince [.text "rules"] switched [.text "url", .text "doi"] := by
  obtain ⟨paths, order⟩ := overlayAll_by_paths switched isTidy_switched
  obtain ⟨plain, -⟩ := paths [.int 1, .text "one"] (List.cons_ne_nil _ _)
  have rules : at? [.text "rules"] (.mapping (overlayAll switched)) =
      some (.mapping [(.text "url", .int 3), (.text "doi", .int 4)]) := rfl
  refine ⟨isTidy_switched, (plain .null nofun).mpr ?_, order _ _ rules⟩
  refine ⟨_, ⟨switched.take 2, switched.drop 3, rfl, .inl ⟨.null, rfl⟩, fun later member decides => ?_⟩, rfl⟩
  have silent := List.mem_singleton.mp member ▸ decides
  obtain ⟨held, here, -⟩ := silent.of_cons
  cases here

end Entries

end DatasetForm
