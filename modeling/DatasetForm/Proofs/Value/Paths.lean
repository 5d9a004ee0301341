import DatasetForm.Proofs.Value.Mapping
import DatasetForm.Proofs.Value.Sameness
import Mathlib.Data.List.Find

/-!
Paths of keys through nested mappings, and what is found at them after one value was laid over another: where the
upper one decides on a path it is as if there were only that one, but for the mappings that it shares with the lower
one; elsewhere it is as if there were only the lower one.
-/

set_option autoImplicit false
set_option relaxedAutoImplicit false

namespace DatasetForm

namespace Entries

variable {entries base top : Entries} {keys : List Value} {key key' v : Value}

/-! ## The keys of a mapping -/

/-- The keys can be looked up, and no two of them are the same. -/
structure IsKeys (keys : List Value) : Prop where
  hashable : ∀ key ∈ keys, key.unhashable? = none
  apart : keys.Pairwise fun earlier later => earlier.same later = false

instance (keys : List Value) : Decidable (IsKeys keys) :=
  decidable_of_iff
    ((∀ key ∈ keys, key.unhashable? = none) ∧ keys.Pairwise fun earlier later => earlier.same later = false)
    ⟨fun ⟨hashable, apart⟩ => ⟨hashable, apart⟩, fun ⟨hashable, apart⟩ => ⟨hashable, apart⟩⟩

theorem isKeys_nil : IsKeys [] :=
  ⟨by simp, .nil⟩

theorem IsKeys.tail (isKeys : IsKeys (key :: keys)) : IsKeys keys :=
  ⟨fun other member => isKeys.hashable other (List.mem_cons_of_mem _ member), isKeys.apart.of_cons⟩

theorem IsKeys.addKey (isKeys : IsKeys keys) (hashable : key.unhashable? = none) : IsKeys (addKey keys key) := by
  rw [Entries.addKey]
  split
  · exact isKeys
  next fresh =>
    constructor
    · rw [List.forall_mem_append, List.forall_mem_singleton]
      exact ⟨isKeys.hashable, hashable⟩
    · rw [List.pairwise_append]
      refine ⟨isKeys.apart, List.pairwise_singleton _ _, ?_⟩
      intro seen member last same
      rw [List.mem_singleton.mp same]
      simpa using List.any_eq_false.mp (Bool.eq_false_iff.mpr fresh) seen member

/-- The first of all keys that are the same, in order. -/
def firstAppearances (keys : List Value) : List Value :=
  keys.foldl addKey []

theorem firstAppearances_append (keys others : List Value) :
    firstAppearances (keys ++ others) = others.foldl addKey (firstAppearances keys) :=
  List.foldl_append

/-- Keys that are apart all appear for the first time. -/
theorem IsKeys.firstAppearances (isKeys : IsKeys keys) : Entries.firstAppearances keys = keys := by
  induction keys using List.reverseRecOn with
  | nil => rfl
  | append_singleton keys key ih =>
    obtain ⟨before, -, fresh⟩ := List.pairwise_append.mp isKeys.apart
    have hashable : ∀ seen ∈ keys, seen.unhashable? = none := fun seen member =>
      isKeys.hashable seen (List.mem_append_left _ member)
    have unseen : keys.any (·.same key) = false := by
      rw [List.any_eq_false]
      intro seen member
      rw [fresh seen member key List.mem_cons_self]
      exact Bool.false_ne_true
    rw [firstAppearances_append, ih ⟨hashable, before⟩, List.foldl_cons, List.foldl_nil, Entries.addKey, unseen]
    rfl

/-- Over the keys of a mapping, those of another one are put in where they are new. -/
theorem map_fst_overlay (base top : Entries) :
    (overlay base top).map Prod.fst = (top.map Prod.fst).foldl addKey (base.map Prod.fst) := by
  induction top generalizing base with
  | nil => rw [overlay, List.map_nil, List.foldl_nil]
  | cons entry top ih =>
    obtain ⟨key, v⟩ := entry
    rw [overlay_cons, ih, map_fst_insert, List.map_cons, List.foldl_cons]

theorem mem_of_get?_eq_some (found : get? entries key = some v) : ∃ entry ∈ entries, entry.2 = v := by
  obtain ⟨entry, matched, same⟩ := Option.map_eq_some_iff.mp found
  exact ⟨entry, List.mem_of_find?_eq_some matched, same⟩

/-- A key finds what any other finds that is the same. -/
theorem IsKeys.get?_congr (isKeys : IsKeys (entries.map Prod.fst)) (hashable : key.unhashable? = none)
    (same : key.same key' = true) : get? entries key = get? entries key' := by
  rw [get?, get?]
  refine congrArg _ (List.find?_congr fun entry member => ?_)
  exact Value.same_congr_right (isKeys.hashable _ (List.mem_map_of_mem member)) hashable same

theorem IsKeys.get?_insert (isKeys : IsKeys (entries.map Prod.fst)) (hashable : key.unhashable? = none)
    (key' v : Value) : get? (insert entries key v) key' = if key.same key' then some v else get? entries key' := by
  have stored {entry : Value × Value} (member : entry ∈ entries) : entry.1.unhashable? = none :=
    isKeys.hashable entry.1 (List.mem_map_of_mem member)
  apply get?_insert_of_agree
  · intro entry member same
    exact Value.same_congr_left (stored member) hashable same
  · intro entry member matched same
    rwa [Value.same_congr_right (stored member) hashable same]

theorem get?_cons (key v : Value) (entries : Entries) (key' : Value) :
    get? ((key, v) :: entries) key' = if key.same key' then some v else get? entries key' := by
  by_cases same : key.same key' = true <;> simp [get?, same]

theorem IsKeys.get?_eq_none (isKeys : IsKeys (key :: entries.map Prod.fst)) (same : key.same key' = true) :
    get? entries key' = none := by
  have hashable := isKeys.hashable key List.mem_cons_self
  rw [get?, Option.map_eq_none_iff, List.find?_eq_none]
  intro entry member matched
  have stored := List.mem_map_of_mem (f := Prod.fst) member
  have apart : key.same entry.1 = false := List.rel_of_pairwise_cons isKeys.apart stored
  have backwards := Value.same_symm (isKeys.hashable _ (List.mem_cons_of_mem _ stored)) matched
  exact Bool.false_ne_true (apart.symm.trans (Value.same_trans hashable same backwards))

/-- A mapping laid over another hides what that one holds under its keys, though of two mappings under one key the
former is laid over the latter. -/
theorem IsKeys.get?_overlay (below : IsKeys (base.map Prod.fst)) (above : IsKeys (top.map Prod.fst)) (key : Value) :
    get? (overlay base top) key = ((get? top key).map (overlayValue (get? base key))).or (get? base key) := by
  induction top generalizing base with
  | nil => rw [overlay]; rfl
  | cons entry top ih =>
    obtain ⟨first, v⟩ := entry
    have hashable : first.unhashable? = none := above.hashable first List.mem_cons_self
    have inserted : IsKeys ((insert base first (overlayValue (get? base first) v)).map Prod.fst) :=
      map_fst_insert base first _ ▸ below.addKey hashable
    rw [overlay_cons, ih inserted above.tail, below.get?_insert hashable, get?_cons]
    by_cases same : first.same key = true
    · rw [if_pos same, if_pos same, above.get?_eq_none same, below.get?_congr hashable same]
      rfl
    · rw [if_neg same, if_neg same]

end Entries

namespace Value

open Entries (IsKeys overlay overlayValue overlayAll)

variable {key v held : Value} {below : Option Value} {path : List Value} {entries base top : Entries}

/-! ## Values of configurations -/

/-- In every mapping of the value, however deep, the keys can be looked up and are apart. -/
inductive IsTidy : Value → Prop
  | plain {v : Value} (plain : ∀ fields, v ≠ .mapping fields) : IsTidy v
  | mapping {entries : Entries} (keys : IsKeys (entries.map Prod.fst))
      (inner : ∀ entry ∈ entries, IsTidy entry.2) : IsTidy (.mapping entries)

theorem IsTidy.keys (tidy : IsTidy (.mapping entries)) : IsKeys (entries.map Prod.fst) := by
  cases tidy with
  | plain plain => exact absurd rfl (plain entries)
  | mapping keys _ => exact keys

theorem IsTidy.inner (tidy : IsTidy (.mapping entries)) : ∀ entry ∈ entries, IsTidy entry.2 := by
  cases tidy with
  | plain plain => exact absurd rfl (plain entries)
  | mapping _ inner => exact inner

theorem IsTidy.get? (tidy : IsTidy (.mapping entries)) (found : entries.get? key = some v) : IsTidy v := by
  obtain ⟨entry, member, same⟩ := Entries.mem_of_get?_eq_some found
  exact same ▸ tidy.inner entry member

theorem IsTidy.insert (tidy : IsTidy (.mapping entries)) (hashable : key.unhashable? = none) (put : IsTidy v) :
    IsTidy (.mapping (entries.insert key v)) := by
  refine .mapping (Entries.map_fst_insert entries key v ▸ tidy.keys.addKey hashable) fun entry member => ?_
  rcases Entries.mem_insert member with old | ⟨-, new⟩
  · exact tidy.inner entry old
  · exact new ▸ put

private theorem IsTidy.overlay_of (tidy : IsTidy (.mapping base)) (keys : IsKeys (top.map Prod.fst))
    (put : ∀ entry ∈ top, ∀ below : Option Value, (∀ held ∈ below, IsTidy held) →
      IsTidy (overlayValue below entry.2)) : IsTidy (.mapping (overlay base top)) := by
  induction top generalizing base with
  | nil => rwa [overlay]
  | cons entry top ih =>
    obtain ⟨first, others⟩ := List.forall_mem_cons.mp put
    have laid := first (Entries.get? base entry.1) fun held found => tidy.get? found
    rw [Entries.overlay_cons]
    exact ih (tidy.insert (keys.hashable _ List.mem_cons_self) laid) keys.tail others

/-- Tidy values stay so when they are laid over each other. -/
theorem IsTidy.overlayValue (above : IsTidy v) (lower : ∀ held ∈ below, IsTidy held) :
    IsTidy (overlayValue below v) := by
  induction above generalizing below with
  | plain plain =>
    rw [Entries.overlayValue_of_ne plain]
    exact .plain plain
  | @mapping top keys inner ih =>
    by_cases both : ∃ base, below = some (.mapping base)
    · obtain ⟨base, rfl⟩ := both
      rw [Entries.overlayValue]
      exact (lower _ rfl).overlay_of keys fun entry member below lower => ih entry member lower
    · rw [Entries.overlayValue_mapping_of_ne (not_exists.mp both)]
      exact .mapping keys inner

theorem IsTidy.overlay (lower : IsTidy (.mapping base)) (above : IsTidy (.mapping top)) :
    IsTidy (.mapping (overlay base top)) := by
  have laid : Entries.overlayValue (some (.mapping base)) (.mapping top) = .mapping (Entries.overlay base top) := by
    rw [Entries.overlayValue]
  exact laid ▸ above.overlayValue fun held same => Option.mem_some_iff.mp same ▸ lower

theorem isTidy_overlayAll {configs : List Entries} (tidy : ∀ config ∈ configs, IsTidy (.mapping config)) :
    IsTidy (.mapping (overlayAll configs)) := by
  have empty : IsTidy (.mapping []) := .mapping Entries.isKeys_nil nofun
  rw [overlayAll]
  exact List.foldlRecOn (motive := fun merged => IsTidy (.mapping merged)) configs Entries.overlay empty
    fun _ lower config member => lower.overlay (tidy config member)

/-! ## Paths -/

/-- What a mapping holds under a key. -/
def under? (key : Value) : Value → Option Value
  | .mapping entries => Entries.get? entries key
  | _ => none

/-- What stands at a path of keys. -/
def at? : List Value → Value → Option Value
  | [], v => some v
  | key :: path, v => (under? key v).bind (at? path)

/-- The value decides on a path: something stands there, or what is no mapping stands before its end. -/
def Decides (path : List Value) (v : Value) : Prop :=
  (∃ held, at? path v = some held) ∨
    ∃ front rest held, path = front ++ rest ∧ rest ≠ [] ∧ at? front v = some held ∧ ∀ fields, held ≠ .mapping fields

theorem under?_of_ne (plain : ∀ fields, v ≠ .mapping fields) (key : Value) : under? key v = none := by
  rw [under?]
  exact plain

theorem at?_cons (key : Value) (path : List Value) (v : Value) :
    at? (key :: path) v = (under? key v).bind (at? path) := by
  rw [at?]

theorem decides_nil (v : Value) : Decides [] v :=
  .inl ⟨v, rfl⟩

theorem decides_cons_of_ne (plain : ∀ fields, v ≠ .mapping fields) : Decides (key :: path) v :=
  .inr ⟨[], key :: path, v, rfl, List.cons_ne_nil _ _, rfl, plain⟩

theorem Decides.cons (here : under? key v = some held) (decides : Decides path held) : Decides (key :: path) v := by
  rcases decides with ⟨found, reached⟩ | ⟨front, rest, stop, rfl, some, reached, plain⟩
  · refine .inl ⟨found, ?_⟩
    rw [at?_cons, here]
    exact reached
  · refine .inr ⟨key :: front, rest, stop, rfl, some, ?_, plain⟩
    rw [at?_cons, here]
    exact reached

theorem Decides.of_cons (decides : Decides (key :: path) (.mapping entries)) :
    ∃ held, under? key (.mapping entries) = some held ∧ Decides path held := by
  rcases decides with ⟨found, reached⟩ | ⟨front, rest, stop, split, some, reached, plain⟩
  · rw [at?_cons, Option.bind_eq_some_iff] at reached
    obtain ⟨held, here, reached⟩ := reached
    exact ⟨held, here, .inl ⟨found, reached⟩⟩
  · cases front with
    | nil => exact absurd (Option.some.inj reached).symm (plain entries)
    | cons first front =>
      obtain ⟨rfl, rfl⟩ := List.cons.inj split
      rw [at?_cons, Option.bind_eq_some_iff] at reached
      obtain ⟨held, here, reached⟩ := reached
      exact ⟨held, here, .inr ⟨front, rest, stop, rfl, some, reached, plain⟩⟩

theorem IsTidy.under? (tidy : IsTidy v) (found : under? key v = some held) : IsTidy held := by
  cases tidy with
  | plain plain =>
    rw [under?_of_ne plain] at found
    cases found
  | mapping keys inner => exact (IsTidy.mapping keys inner).get? found

theorem IsTidy.at? (tidy : IsTidy v) (found : at? path v = some held) : IsTidy held := by
  induction path generalizing v with
  | nil => exact Option.some.inj found ▸ tidy
  | cons first path ih =>
    rw [at?_cons, Option.bind_eq_some_iff] at found
    obtain ⟨next, here, reached⟩ := found
    exact ih (tidy.under? here) reached

/-! ## Overlays -/

theorem isTidy_bind_under? (lower : ∀ held ∈ below, IsTidy held) (key : Value) :
    ∀ held ∈ below.bind (under? key), IsTidy held := by
  intro held found
  obtain ⟨base, same, here⟩ := Option.bind_eq_some_iff.mp found
  exact (lower base same).under? here

/-- Under a key, a mapping that was laid over something holds its own value laid over the one that was held before,
or that one if it has none. -/
theorem under?_overlayValue (lower : ∀ held ∈ below, IsTidy held) (above : IsTidy (.mapping top)) (key : Value) :
    under? key (overlayValue below (.mapping top)) =
      ((under? key (.mapping top)).map (overlayValue (below.bind (under? key)))).or (below.bind (under? key)) := by
  by_cases both : ∃ base, below = some (.mapping base)
  · obtain ⟨base, rfl⟩ := both
    rw [Entries.overlayValue]
    exact (lower _ rfl).keys.get?_overlay above.keys key
  · have nothing : below.bind (under? key) = none := by
      rw [Option.bind_eq_none_iff]
      intro held same
      exact under?_of_ne (fun fields mapping => both ⟨fields, mapping ▸ same⟩) key
    have unchanged : overlayValue none = id := funext Entries.overlayValue_none
    rw [Entries.overlayValue_mapping_of_ne (not_exists.mp both), nothing, unchanged, Option.map_id, id, Option.or_none]

/-- Where a value decides on a path, what it has there is laid over what was there before. -/
theorem at?_overlayValue_of_decides (lower : ∀ held ∈ below, IsTidy held) (above : IsTidy v)
    (decides : Decides path v) :
    at? path (overlayValue below v) = (at? path v).map (overlayValue (below.bind (at? path))) := by
  induction path generalizing below v with
  | nil => cases below <;> rfl
  | cons key path ih =>
    cases above with
    | plain plain =>
      rw [Entries.overlayValue_of_ne plain, at?_cons, under?_of_ne plain]
      rfl
    | mapping keys inner =>
      have above := IsTidy.mapping keys inner
      obtain ⟨held, here, decides⟩ := decides.of_cons
      have next := ih (isTidy_bind_under? lower key) (above.under? here) decides
      rw [at?_cons, at?_cons, under?_overlayValue lower above, here, Option.map_some, Option.some_or, Option.bind_some,
        Option.bind_some, next, Option.bind_assoc]
      rfl

/-- Where a value does not decide on a path, it leaves what was there before. -/
theorem at?_overlayValue_of_not_decides (lower : ∀ held ∈ below, IsTidy held) (above : IsTidy v)
    (silent : ¬Decides path v) : at? path (overlayValue below v) = below.bind (at? path) := by
  induction path generalizing below v with
  | nil => exact absurd (decides_nil v) silent
  | cons key path ih =>
    cases above with
    | plain plain => exact absurd (decides_cons_of_ne plain) silent
    | @mapping top keys inner =>
      have above := IsTidy.mapping keys inner
      have down : below.bind (at? (key :: path)) = (below.bind (under? key)).bind (at? path) :=
        (Option.bind_assoc below (under? key) (at? path)).symm
      rw [at?_cons, under?_overlayValue lower above, down]
      cases here : under? key (.mapping top) with
      | none => rw [Option.map_none, Option.none_or]
      | some held =>
        rw [Option.map_some, Option.some_or, Option.bind_some]
        exact ih (isTidy_bind_under? lower key) (above.under? here) fun decides => silent (decides.cons here)

section Mappings

variable (lower : IsTidy (.mapping base)) (above : IsTidy (.mapping top))
include lower above

theorem at?_overlay_of_decides (decides : Decides path (.mapping top)) :
    at? path (.mapping (overlay base top)) =
      (at? path (.mapping top)).map (overlayValue (at? path (.mapping base))) := by
  have only : ∀ held ∈ some (Value.mapping base), IsTidy held := fun held same => Option.mem_some_iff.mp same ▸ lower
  have laid := at?_overlayValue_of_decides only above decides
  rwa [Entries.overlayValue, Option.bind_some] at laid

theorem at?_overlay_of_not_decides (silent : ¬Decides path (.mapping top)) :
    at? path (.mapping (overlay base top)) = at? path (.mapping base) := by
  have only : ∀ held ∈ some (Value.mapping base), IsTidy held := fun held same => Option.mem_some_iff.mp same ▸ lower
  have laid := at?_overlayValue_of_not_decides only above silent
  rwa [Entries.overlayValue, Option.bind_some] at laid

end Mappings

end Value

end DatasetForm
