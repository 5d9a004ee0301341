import DatasetForm.Settings.Merge
import Mathlib.Data.List.Induction

/-!
Mappings whose keys are texts, each there once: what they hold under a text after an entry was put in, and after
another mapping was laid over them.
-/

set_option autoImplicit false
set_option relaxedAutoImplicit false

namespace DatasetForm

theorem Value.same_text_iff (key : Value) (s : String) : key.same (.text s) = true ↔ key = .text s := by
  cases key <;> simp [Value.same, Value.compareNumbers?, Value.wholeNumber?]

namespace Entries

/-- The keys are texts, each there once. -/
structure IsObject (entries : Entries) : Prop where
  texts : ∀ entry ∈ entries, ∃ s, entry.1 = .text s
  distinct : (entries.map Prod.fst).Nodup

variable {entries base top : Entries} {s t : String} {v : Value}

theorem isObject_nil : IsObject [] :=
  ⟨by simp, List.nodup_nil⟩

theorem IsObject.tail {entry : Value × Value} (object : IsObject (entry :: entries)) : IsObject entries :=
  ⟨fun other member => object.texts other (List.mem_cons_of_mem _ member),
    (List.nodup_cons.mp object.distinct).2⟩

theorem any_same_iff : entries.any (·.1.same (.text s)) = true ↔ Value.text s ∈ entries.map Prod.fst := by
  simp only [List.any_eq_true, Value.same_text_iff, List.mem_map]

theorem get?_eq_none_iff : get? entries (.text s) = none ↔ Value.text s ∉ entries.map Prod.fst := by
  simp only [get?, Option.map_eq_none_iff, List.find?_eq_none, Value.same_text_iff, List.mem_map, not_exists,
    not_and]

/-- Of distinct keys, each holds the value of its one entry. -/
theorem IsObject.get?_eq_some_iff (object : IsObject entries) :
    get? entries (.text s) = some v ↔ (Value.text s, v) ∈ entries := by
  induction entries with
  | nil => simp [get?]
  | cons entry entries ih =>
    obtain ⟨fresh, -⟩ := List.nodup_cons.mp object.distinct
    have rest := ih object.tail
    rw [get?] at rest
    by_cases here : entry.1 = .text s
    · have absent : (Value.text s, v) ∉ entries := fun member =>
        fresh (here ▸ List.mem_map_of_mem (f := Prod.fst) member)
      rw [get?, List.find?_cons_of_pos (by rw [Value.same_text_iff, here]), List.mem_cons,
        or_iff_left absent, Option.map_some, Option.some.injEq, Prod.ext_iff]
      exact ⟨fun same => ⟨here.symm, same.symm⟩, fun same => same.2.symm⟩
    · have other : (Value.text s, v) ≠ entry := fun same => here (congrArg Prod.fst same).symm
      rw [get?, List.find?_cons_of_neg (by rwa [Value.same_text_iff]), rest, List.mem_cons, or_iff_right other]

/-- A key put behind others, unless one of them is the same. -/
def addKey (seen : List Value) (key : Value) : List Value :=
  if seen.any (·.same key) then seen else seen ++ [key]

theorem map_fst_insert (entries : Entries) (key v : Value) :
    (insert entries key v).map Prod.fst = addKey (entries.map Prod.fst) key := by
  have stored : (entries.map Prod.fst).any (·.same key) = entries.any (·.1.same key) := List.any_map
  rw [insert, addKey, stored]
  split
  · rw [List.map_map]
    refine List.map_congr_left fun entry _ => ?_
    rw [Function.comp_apply]
    split <;> rfl
  · exact List.map_append

theorem map_fst_insert_of_mem (present : Value.text s ∈ entries.map Prod.fst) :
    (insert entries (.text s) v).map Prod.fst = entries.map Prod.fst := by
  have seen : (entries.map Prod.fst).any (·.same (.text s)) = true :=
    List.any_eq_true.mpr ⟨_, present, (Value.same_text_iff _ _).mpr rfl⟩
  rw [map_fst_insert, addKey, if_pos seen]

theorem insert_of_not_mem (absent : Value.text s ∉ entries.map Prod.fst) :
    insert entries (.text s) v = entries ++ [(.text s, v)] := by
  rw [insert, if_neg (mt any_same_iff.mp absent)]

theorem IsObject.insert (object : IsObject entries) (s : String) (v : Value) :
    IsObject (Entries.insert entries (.text s) v) := by
  by_cases present : Value.text s ∈ entries.map Prod.fst
  · have keys := map_fst_insert_of_mem (v := v) present
    refine ⟨fun entry member => ?_, keys ▸ object.distinct⟩
    obtain ⟨old, found, same⟩ := List.mem_map.mp (keys ▸ List.mem_map_of_mem (f := Prod.fst) member)
    rw [← same]
    exact object.texts old found
  · rw [insert_of_not_mem present]
    constructor
    · rw [List.forall_mem_append, List.forall_mem_singleton]
      exact ⟨object.texts, s, rfl⟩
    · rw [List.map_append, List.perm_append_comm.nodup_iff]
      exact List.nodup_cons.mpr ⟨present, object.distinct⟩

/-- Under a key, a mapping holds what was put in under the same key, and otherwise what it held before, if the one who
asks agrees with the stored keys on what is the same. -/
theorem get?_insert_of_agree {key key' : Value}
    (agree : ∀ entry ∈ entries, entry.1.same key = true → entry.1.same key' = key.same key')
    (back : ∀ entry ∈ entries, entry.1.same key' = true → key.same key' = true → entry.1.same key = true) :
    get? (insert entries key v) key' = if key.same key' then some v else get? entries key' := by
  by_cases present : entries.any (·.1.same key) = true
  · -- The keys stay, so that the same entry is found as before; only its value may be another.
    rw [insert, if_pos present, get?, List.find?_map]
    have keys : ((fun entry : Value × Value => entry.1.same key') ∘ fun entry : Value × Value =>
        if entry.1.same key then (entry.1, v) else entry) = fun entry => entry.1.same key' := by
      funext entry
      rw [Function.comp_apply]
      split <;> rfl
    rw [keys, get?]
    cases found : entries.find? fun entry => entry.1.same key' with
    | none =>
      obtain ⟨entry, member, same⟩ := List.any_eq_true.mp present
      have apart : key.same key' = false := by
        rw [← agree entry member same]
        exact Bool.eq_false_iff.mpr (List.find?_eq_none.mp found entry member)
      rw [apart]
      rfl
    | some entry =>
      have member := List.mem_of_find?_eq_some found
      have matched := List.find?_some found
      by_cases same : key.same key' = true
      · simp [same, back entry member matched same]
      · have other : entry.1.same key = false := by
          rw [Bool.eq_false_iff]
          intro same'
          exact same (agree entry member same' ▸ matched)
        simp [same, other]
  · rw [insert, if_neg present, get?, List.find?_append, get?]
    by_cases same : key.same key' = true
    · have nothing : entries.find? (fun entry => entry.1.same key') = none := by
        rw [List.find?_eq_none]
        intro entry member matched
        exact present (List.any_eq_true.mpr ⟨entry, member, back entry member matched same⟩)
      simp [nothing, same]
    · simp [same]

/-- Under a text, a mapping holds what was put in under it, and otherwise what it held before. -/
theorem get?_insert :
    get? (insert entries (.text s) v) (.text t) = if s = t then some v else get? entries (.text t) := by
  have texts : (Value.text s).same (.text t) = true ↔ s = t := by
    rw [Value.same_text_iff, Value.text.injEq]
  rw [get?_insert_of_agree]
  · simp only [texts]
  · intro entry _ same
    rw [(Value.same_text_iff _ _).mp same]
  · intro entry _ matched same
    rw [texts.mp same]
    exact matched

/-! ## Overlays -/

theorem overlayValue_none (v : Value) : overlayValue none v = v := by
  cases v <;> rfl

/-- A value that is no mapping takes the place of whatever it is laid over. -/
theorem overlayValue_of_ne (plain : ∀ fields, v ≠ .mapping fields) (below : Option Value) :
    overlayValue below v = v := by
  cases v with
  | mapping fields => exact absurd rfl (plain fields)
  | _ => rw [overlayValue]; exact nofun

/-- A mapping takes the place of whatever is no mapping. -/
theorem overlayValue_mapping_of_ne {below : Option Value} (plain : ∀ fields, below ≠ some (.mapping fields))
    (top : Entries) : overlayValue below (.mapping top) = .mapping top := by
  rw [overlayValue]
  exact plain

theorem overlay_cons (base : Entries) (key v : Value) (top : Entries) :
    overlay base ((key, v) :: top) = overlay (insert base key (overlayValue (get? base key) v)) top := by
  rw [overlay]

/-- A mapping laid over another hides what that one holds under its keys, though of two mappings under one key the
former is laid over the latter. -/
theorem get?_overlay (base : Entries) (object : IsObject top) (t : String) :
    get? (overlay base top) (.text t) =
      ((get? top (.text t)).map (overlayValue (get? base (.text t)))).or (get? base (.text t)) := by
  induction top generalizing base with
  | nil => rw [overlay]; rfl
  | cons entry top ih =>
    obtain ⟨key, v⟩ := entry
    obtain ⟨s, rfl⟩ : ∃ s, key = .text s := object.texts _ List.mem_cons_self
    obtain ⟨fresh, -⟩ := List.nodup_cons.mp object.distinct
    rw [overlay_cons, ih _ object.tail, get?_insert]
    by_cases same : s = t
    · subst same
      have later : get? top (.text s) = none := get?_eq_none_iff.mpr fresh
      have first : get? ((Value.text s, v) :: top) (.text s) = some v := by simp [get?, Value.same]
      rw [if_pos rfl, later, first]
      rfl
    · have first : get? ((Value.text s, v) :: top) (.text t) = get? top (.text t) := by
        simp [get?, Value.same, same]
      rw [if_neg same, first]

theorem IsObject.overlay (below : IsObject base) (above : IsObject top) : IsObject (overlay base top) := by
  induction top generalizing base with
  | nil => rwa [Entries.overlay]
  | cons entry top ih =>
    obtain ⟨key, v⟩ := entry
    obtain ⟨s, rfl⟩ : ∃ s, key = .text s := above.texts _ List.mem_cons_self
    rw [overlay_cons]
    exact ih (below.insert s _) above.tail

theorem isObject_overlayAll {mappings : List Entries} (objects : ∀ entries ∈ mappings, IsObject entries) :
    IsObject (overlayAll mappings) :=
  List.foldlRecOn mappings Entries.overlay isObject_nil fun _ below entries member =>
    below.overlay (objects entries member)

theorem overlayAll_append_singleton (mappings : List Entries) (top : Entries) :
    overlayAll (mappings ++ [top]) = overlay (overlayAll mappings) top :=
  List.foldl_append

theorem overlayAll_append_nil (mappings : List Entries) : overlayAll (mappings ++ [[]]) = overlayAll mappings := by
  rw [overlayAll_append_singleton, overlay]

/-- Over a mapping without any of its keys, a mapping is put behind it. -/
theorem overlay_eq_append (object : IsObject top)
    (apart : ∀ entry ∈ top, entry.1 ∉ base.map Prod.fst) : overlay base top = base ++ top := by
  induction top generalizing base with
  | nil => rw [overlay, List.append_nil]
  | cons entry top ih =>
    obtain ⟨key, v⟩ := entry
    obtain ⟨s, rfl⟩ : ∃ s, key = .text s := object.texts _ List.mem_cons_self
    obtain ⟨fresh, -⟩ := List.nodup_cons.mp object.distinct
    rw [List.forall_mem_cons] at apart
    rw [overlay_cons, get?_eq_none_iff.mpr apart.1, overlayValue_none, insert_of_not_mem apart.1,
      ih object.tail, List.append_assoc, List.singleton_append]
    intro other member
    rw [List.map_append, List.mem_append, not_or]
    refine ⟨apart.2 other member, fun same => fresh ?_⟩
    rw [← List.mem_singleton.mp same]
    exact List.mem_map_of_mem member

theorem overlay_nil (object : IsObject top) : overlay [] top = top :=
  overlay_eq_append object fun _ _ => List.not_mem_nil

/-! ## Entries put in one after the other -/

/-- Distinct texts put in one after the other are there in their order. -/
theorem ofList_eq_self {entries : Entries} (object : IsObject entries) : ofList entries = entries := by
  suffices general : ∀ base : Entries, (∀ entry ∈ entries, entry.1 ∉ base.map Prod.fst) →
      entries.foldl (fun read entry => read.insert entry.1 entry.2) base = base ++ entries from
    general [] fun _ _ => List.not_mem_nil
  induction entries with
  | nil => exact fun base _ => (List.append_nil base).symm
  | cons entry entries ih =>
    intro base apart
    obtain ⟨key, v⟩ := entry
    obtain ⟨s, rfl⟩ : ∃ s, key = .text s := object.texts _ List.mem_cons_self
    obtain ⟨fresh, -⟩ := List.nodup_cons.mp object.distinct
    rw [List.forall_mem_cons] at apart
    rw [List.foldl_cons, insert_of_not_mem apart.1, ih object.tail, List.append_assoc, List.singleton_append]
    intro other member
    rw [List.map_append, List.mem_append, not_or]
    refine ⟨apart.2 other member, fun same => fresh ?_⟩
    rw [← List.mem_singleton.mp same]
    exact List.mem_map_of_mem member

theorem isObject_ofList {pairs : List (Value × Value)} (texts : ∀ pair ∈ pairs, ∃ s, pair.1 = .text s) :
    IsObject (ofList pairs) :=
  List.foldlRecOn pairs _ isObject_nil fun read object pair member => by
    obtain ⟨s, key⟩ := texts pair member
    rw [key]
    exact object.insert s pair.2

theorem mem_insert_text {entry : Value × Value} (member : entry ∈ entries.insert (.text s) v) :
    entry ∈ entries ∨ entry = (.text s, v) := by
  rw [Entries.insert] at member
  split at member
  · obtain ⟨old, found, rfl⟩ := List.mem_map.mp member
    split
    next same => exact .inr (Prod.ext ((Value.same_text_iff _ _).mp same) rfl)
    · exact .inl found
  · rcases List.mem_append.mp member with before | last
    · exact .inl before
    · exact .inr (List.mem_singleton.mp last)

theorem mem_insert {key v : Value} {entry : Value × Value} (member : entry ∈ entries.insert key v) :
    entry ∈ entries ∨ ((∃ old ∈ entries, entry.1 = old.1) ∨ entry.1 = key) ∧ entry.2 = v := by
  rw [insert] at member
  split at member
  · obtain ⟨old, found, rfl⟩ := List.mem_map.mp member
    split
    · exact .inr ⟨.inl ⟨old, found, rfl⟩, rfl⟩
    · exact .inl found
  · rcases List.mem_append.mp member with before | last
    · exact .inl before
    · rw [List.mem_singleton.mp last]
      exact .inr ⟨.inr rfl, rfl⟩

/-- The keys and the values of a mapping are among those put in. -/
theorem mem_ofList {pairs : List (Value × Value)} {entry : Value × Value} (member : entry ∈ ofList pairs) :
    (∃ pair ∈ pairs, pair.1 = entry.1) ∧ ∃ pair ∈ pairs, pair.2 = entry.2 := by
  induction pairs using List.reverseRecOn generalizing entry with
  | nil => cases member
  | append_singleton pairs pair ih =>
    rw [ofList, List.foldl_append] at member
    have widen {part : Value × Value → Value} {w : Value} (some : ∃ pair ∈ pairs, part pair = w) :
        ∃ other ∈ pairs ++ [pair], part other = w :=
      some.imp fun _ => And.imp_left (List.mem_append_left _)
    rcases mem_insert member with before | ⟨key, value⟩
    · exact ⟨widen (ih before).1, widen (ih before).2⟩
    · have last : pair ∈ pairs ++ [pair] := List.mem_append_right _ List.mem_cons_self
      refine ⟨?_, pair, last, value.symm⟩
      rcases key with ⟨old, found, same⟩ | same
      · rw [same]
        exact widen (ih found).1
      · exact ⟨pair, last, same.symm⟩

end Entries

end DatasetForm
