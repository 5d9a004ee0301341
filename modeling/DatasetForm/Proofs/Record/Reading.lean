import DatasetForm.Proofs.Value.Whole
import DatasetForm.Record.Basic

/-!
Reading a record from a whole document that is not nested too deeply fails only because of its shape, and the web
address of the record is whole.
-/

set_option autoImplicit false
set_option relaxedAutoImplicit false

namespace DatasetForm

open Text (IsWhole)

/-- What is given has a property, and failures are excused. -/
def Delivers {ε α : Type} (excused : ε → Prop) (P : α → Prop) : Except ε α → Prop
  | .ok a => P a
  | .error e => excused e

section

variable {ε α β : Type} {excused : ε → Prop} {P : α → Prop} {Q : β → Prop} {result : Except ε α}

theorem Delivers.map {f : α → β} (delivers : Delivers excused P result) (keeps : ∀ a, P a → Q (f a)) :
    Delivers excused Q (result.map f) := by
  cases result with
  | ok a => exact keeps a delivers
  | error e => exact delivers

theorem Delivers.bind {f : α → Except ε β} (delivers : Delivers excused P result)
    (next : ∀ a, P a → Delivers excused Q (f a)) : Delivers excused Q (result.bind f) := by
  cases result with
  | ok a => exact next a delivers
  | error e => exact delivers

theorem Delivers.mapM {f : α → Except ε β} {items : List α} (each : ∀ item ∈ items, Delivers excused Q (f item)) :
    Delivers excused (fun read => ∀ b ∈ read, Q b) (items.mapM f) := by
  induction items with
  | nil => exact List.forall_mem_nil _
  | cons item items ih =>
    rw [List.forall_mem_cons] at each
    rw [List.mapM_cons]
    refine each.1.bind fun b first => (ih each.2).bind fun read others => ?_
    exact List.forall_mem_cons.mpr ⟨first, others⟩

end

/-! ## Shapes -/

/-- The fault is one of shape: no text is in the way that has no bytes. -/
def ShapeFault.IsOfShape (fault : ShapeFault) : Prop :=
  ∀ half, fault.problem ≠ .notEncodable half

namespace Value

variable {α : Type} {path : List Step} {v : Value}

/-- A value whose keys can be read, if it is a mapping. -/
def HasWholeKeys (v : Value) : Prop :=
  ∀ entries, v = .mapping entries → ∀ entry ∈ entries, Text.IsWhole entry.1.toText

/-- A value whose items have keys that can be read, if it holds items. -/
def HasWholeRows (v : Value) : Prop :=
  ∀ items, v = .list items ∨ v = .tuple items → ∀ item ∈ items, item.HasWholeKeys

theorem IsWhole.hasWholeKeys (whole : v.IsWhole) : v.HasWholeKeys := by
  rintro entries rfl entry member
  exact (hasWholeEntries_iff.mp whole entry member).1

theorem IsWhole.hasWholeRows (whole : v.IsWhole) : v.HasWholeRows := by
  rintro items (rfl | rfl) item member
  · exact (areWhole_iff.mp whole item member).hasWholeKeys
  · exact (areWhole_iff.mp whole item member).hasWholeKeys

theorem delivers_misfit {P : α → Prop} (expected : String) :
    Delivers ShapeFault.IsOfShape P (v.misfit expected path) :=
  nofun

theorem delivers_readText : Delivers ShapeFault.IsOfShape (fun _ => True) (v.readText path) := by
  cases v with
  | text s => trivial
  | _ => exact delivers_misfit _

theorem delivers_readTextOrNull :
    Delivers ShapeFault.IsOfShape (fun part => ∀ text ∈ part, v = .text text) (v.readTextOrNull path) := by
  cases v with
  | null => exact nofun
  | text s =>
    intro text same
    rw [Option.mem_some.mp same]
  | _ => exact delivers_misfit _

theorem delivers_readItemsFrom {read : List Step → Value → Except ShapeFault α} {items : List Value}
    (each : ∀ item ∈ items, ∀ path, Delivers ShapeFault.IsOfShape (fun _ => True) (read path item)) (index : Nat) :
    Delivers ShapeFault.IsOfShape (fun _ => True) (readItemsFrom read path index items) := by
  induction items generalizing index with
  | nil => trivial
  | cons item items ih =>
    rw [List.forall_mem_cons] at each
    exact (each.1 _).bind fun _ _ => (ih each.2 _).bind fun _ _ => trivial

theorem delivers_readList {read : List Step → Value → Except ShapeFault α}
    (each : ∀ items, v = .list items ∨ v = .tuple items → ∀ item ∈ items, ∀ path,
      Delivers ShapeFault.IsOfShape (fun _ => True) (read path item)) :
    Delivers ShapeFault.IsOfShape (fun _ => True) (v.readList read path) := by
  cases v with
  | list items => exact delivers_readItemsFrom (each items (.inl rfl)) 0
  | tuple items => exact delivers_readItemsFrom (each items (.inr rfl)) 0
  | _ => exact delivers_misfit _

/-- A property that reading one field keeps is kept by reading all fields. -/
theorem delivers_readFields {read : α → String → List Step → Value → Except ShapeFault α} {start : α} {P : α → Prop}
    (keys : v.HasWholeKeys) (begun : P start)
    (step : ∀ acc name path w, (∃ entries, v = .mapping entries ∧ (.text name, w) ∈ entries) → P acc →
      Delivers ShapeFault.IsOfShape P (read acc name path w)) :
    Delivers ShapeFault.IsOfShape P (readFields read path start v) := by
  cases v with
  | mapping entries =>
    have keys := keys entries rfl
    have step : ∀ acc name path w, (.text name, w) ∈ entries → P acc →
        Delivers ShapeFault.IsOfShape P (read acc name path w) :=
      fun acc name path w member => step acc name path w ⟨entries, rfl, member⟩
    rw [readFields]
    -- The mapping itself is forgotten: the induction is on the entries that are left, and the step is about those.
    clear * - keys begun step
    induction entries generalizing start with
    | nil => exact begun
    | cons entry entries ih =>
      rw [List.forall_mem_cons] at keys
      have later : ∀ acc, P acc → Delivers ShapeFault.IsOfShape P (entries.foldlM _ acc) := fun acc kept =>
        ih kept keys.2 fun acc name path w member => step acc name path w (List.mem_cons_of_mem _ member)
      rw [List.foldlM_cons]
      obtain ⟨key, w⟩ := entry
      cases key with
      | text name =>
        have whole : Text.halfFault? name = none := Text.halfFault?_eq_none_iff.mpr keys.1
        have bytes : readBytes path name = .ok name := by
          rw [readBytes, whole]
        dsimp only
        rw [bytes]
        exact (step start name _ w List.mem_cons_self begun).bind later
      | _ => exact later start begun
  | _ => exact delivers_misfit _

end Value

namespace Record

open Value (HasWholeKeys HasWholeRows HasWholeEntries)

variable {v : Value} {path : List Step} {fields : Entries}

theorem delivers_readTitle (keys : v.HasWholeKeys) :
    Delivers ShapeFault.IsOfShape (fun _ => True) (readTitle path v) := by
  refine Value.delivers_readFields keys trivial fun title name path w _ _ => ?_
  split
  · exact Value.delivers_readText.map fun _ _ => trivial
  · exact Value.delivers_readText.map fun _ _ => trivial
  · trivial

theorem delivers_readDateRange (keys : v.HasWholeKeys) :
    Delivers ShapeFault.IsOfShape (fun _ => True) (readDateRange path v) := by
  refine Value.delivers_readFields keys trivial fun range name path w _ _ => ?_
  split
  · exact Value.delivers_readText.map fun _ _ => trivial
  · exact Value.delivers_readTextOrNull.map fun _ _ => trivial
  · exact Value.delivers_readTextOrNull.map fun _ _ => trivial
  · trivial

theorem delivers_readContributor (keys : v.HasWholeKeys) :
    Delivers ShapeFault.IsOfShape (fun _ => True) (readContributor path v) := by
  refine Value.delivers_readFields keys trivial fun c name path w _ _ => ?_
  split
  · exact (Value.delivers_readList fun _ _ _ _ _ => Value.delivers_readText).map fun _ _ => trivial
  · exact Value.delivers_readTextOrNull.map fun _ _ => trivial
  · exact Value.delivers_readTextOrNull.map fun _ _ => trivial
  · exact Value.delivers_readTextOrNull.map fun _ _ => trivial
  · exact Value.delivers_readTextOrNull.map fun _ _ => trivial
  · exact Value.delivers_readTextOrNull.map fun _ _ => trivial
  · trivial

/-- Fields of which a record can be read unless their shape is wrong, with a web address that can be written. -/
structure Legible (fields : Entries) : Prop where
  keys : ∀ entry ∈ fields, IsWhole entry.1.toText
  rows : ∀ entry ∈ fields, entry.2.HasWholeRows
  url : ∀ text, (.text "url", .text text) ∈ fields → IsWhole text

theorem delivers_readField {record : Record} {name : String} {w : Value} (rows : w.HasWholeRows)
    (url : ∀ text, name = "url" → w = .text text → IsWhole text) (kept : ∀ url ∈ record.url, IsWhole url) :
    Delivers ShapeFault.IsOfShape (fun record => ∀ url ∈ record.url, IsWhole url) (readField record name path w) := by
  rw [readField.eq_def]
  split
  · exact (Value.delivers_readList fun items held item member _ =>
      delivers_readTitle (rows items held item member)).map fun _ _ => kept
  · exact Value.delivers_readTextOrNull.map fun _ _ => kept
  · exact Value.delivers_readTextOrNull.map fun _ _ => kept
  · exact Value.delivers_readTextOrNull.map fun _ _ => kept
  · exact Value.delivers_readTextOrNull.map fun _ _ => kept
  · exact Value.delivers_readTextOrNull.map fun part same text member => url text rfl (same text member)
  · exact (Value.delivers_readList fun items held item member _ =>
      delivers_readDateRange (rows items held item member)).map fun _ _ => kept
  · exact (Value.delivers_readList fun items held item member _ =>
      delivers_readContributor (rows items held item member)).map fun _ _ => kept
  · exact kept

/-- The failure is none of what can be read at all. -/
def IsNoLimit (failure : Failure) : Prop :=
  failure.isLimit = false

theorem delivers_read (legible : Legible fields) :
    Delivers IsNoLimit (fun record => ∀ url ∈ record.url, IsWhole url) (read fields) := by
  have read_ : Delivers ShapeFault.IsOfShape (fun record : Record => ∀ url ∈ record.url, IsWhole url)
      (Value.readFields readField [] {} (.mapping fields)) := by
    refine Value.delivers_readFields ?_ nofun fun record name path w held kept => ?_
    · rintro entries same entry member
      cases same
      exact legible.keys entry member
    · obtain ⟨entries, same, member⟩ := held
      cases same
      refine delivers_readField (legible.rows _ member) ?_ kept
      rintro text rfl rfl
      exact legible.url text member
  rw [read]
  split
  next record found =>
    rw [found] at read_
    exact read_
  next fault found =>
    rw [found] at read_
    rw [Failure.ofShape]
    split
    next half encoding => exact absurd encoding (read_ half)
    · rfl

/-! ## Reducing fields to one shape -/

theorem legible_of_hasWholeEntries (whole : HasWholeEntries fields) : Legible fields := by
  rw [Value.hasWholeEntries_iff] at whole
  exact ⟨fun entry member => (whole entry member).1, fun entry member => (whole entry member).2.hasWholeRows,
    fun text member => (whole _ member).2⟩

theorem Legible.insert (legible : Legible fields) {name : String} (whole : IsWhole name) (other : name ≠ "url")
    (rows : v.HasWholeRows) : Legible (fields.insert (.text name) v) := by
  constructor
  · intro entry member
    rcases Entries.mem_insert_text member with before | rfl
    · exact legible.keys entry before
    · exact whole
  · intro entry member
    rcases Entries.mem_insert_text member with before | rfl
    · exact legible.rows entry before
    · exact rows
  · intro text member
    rcases Entries.mem_insert_text member with before | same
    · exact legible.url text before
    · cases same
      exact absurd rfl other

theorem Legible.adjust (legible : Legible fields) {name : String} (whole : IsWhole name) (other : name ≠ "url")
    {change : Value → Except Failure Value}
    (changes : ∀ v, v.HasWholeRows → Delivers IsNoLimit HasWholeRows (change v)) :
    Delivers IsNoLimit Legible (adjust fields name change) := by
  rw [Record.adjust]
  split
  · exact legible
  next v held =>
    obtain ⟨entry, found, rfl⟩ := Option.map_eq_some_iff.mp held
    have rows := legible.rows entry (List.mem_of_find?_eq_some found)
    exact (changes entry.2 rows).map fun w rows => legible.insert whole other rows

theorem hasWholeRows_of_text (text : String) : (Value.text text).HasWholeRows := by
  rintro items (listed | listed) <;> cases listed

theorem delivers_versionText (v : Value) : Delivers IsNoLimit HasWholeRows (versionText v) := by
  cases v with
  | null => rintro items (listed | listed) <;> cases listed
  | _ => exact hasWholeRows_of_text _

theorem delivers_mapList {change : Value → Except Failure Value}
    (changes : ∀ v, v.HasWholeKeys → Delivers IsNoLimit HasWholeKeys (change v)) (rows : v.HasWholeRows) :
    Delivers IsNoLimit HasWholeRows (mapList change v) := by
  cases v with
  | list items =>
    refine (Delivers.mapM fun item member => changes item (rows items (.inl rfl) item member)).map ?_
    rintro read whole items (listed | listed) <;> cases listed
    exact whole
  | _ => exact rows

private theorem delivers_titleRow (v : Value) : Delivers IsNoLimit (fun _ => True) (TitleRow.ofValue v) := by
  rw [TitleRow.ofValue.eq_def]
  split
  · trivial
  · trivial
  · trivial
  · split
    · trivial
    · rfl

private theorem delivers_dateRow (v : Value) : Delivers IsNoLimit (fun _ => True) (DateRow.ofValue v) := by
  rw [DateRow.ofValue.eq_def]
  split
  · trivial
  · split
    · trivial
    · rfl

theorem hasWholeKeys_titleFields (row : TitleRow) : (titleFields row).HasWholeKeys := by
  intro entries same
  cases same
  have title : IsWhole "title" := by decide
  have kind : IsWhole "title_type" := by decide
  exact List.forall_mem_cons.mpr ⟨title, List.forall_mem_singleton.mpr kind⟩

theorem hasWholeKeys_dateFields (row : DateRow) : (dateFields row).HasWholeKeys := by
  intro entries same
  cases same
  have kind : IsWhole "date_type" := by decide
  have start : IsWhole "start_date" := by decide
  have stop : IsWhole "end_date" := by decide
  exact List.forall_mem_cons.mpr ⟨kind, List.forall_mem_cons.mpr ⟨start, List.forall_mem_singleton.mpr stop⟩⟩

theorem hasWholeKeys_reduceContributor (keys : v.HasWholeKeys) : (reduceContributor v).HasWholeKeys := by
  rw [reduceContributor.eq_def]
  split
  next fields =>
    split
    · intro entries same entry member
      cases same
      rcases Entries.mem_insert_text member with before | rfl
      · exact keys fields rfl entry before
      · have roles : IsWhole "roles" := by decide
        exact roles
    · exact keys
  · exact keys

theorem legible_foldYear (legible : Legible fields) : Legible (foldYear fields) := by
  have kept {fields : Entries} (legible : Legible fields) (key : Value) : Legible (fields.erase key) :=
    ⟨fun entry member => legible.keys entry (List.mem_of_mem_filter member),
      fun entry member => legible.rows entry (List.mem_of_mem_filter member),
      fun text member => legible.url text (List.mem_of_mem_filter member)⟩
  rw [foldYear]
  refine kept ?_ _
  split
  · exact legible
  · exact legible.insert (by decide) (by decide) (hasWholeRows_of_text _)

theorem delivers_reduce (legible : Legible fields) : Delivers IsNoLimit Legible (reduce fields) := by
  -- Each step puts another value under one key, and never under that of the web address.
  have version {fields : Entries} (legible : Legible fields) :
      Delivers IsNoLimit Legible (adjust fields "version" versionText) :=
    legible.adjust (by decide) (by decide) fun v _ => delivers_versionText v
  have titles {fields : Entries} (legible : Legible fields) :
      Delivers IsNoLimit Legible (adjust fields "titles" reduceTitles) :=
    legible.adjust (by decide) (by decide) fun _ rows =>
      delivers_mapList (fun v _ => (delivers_titleRow v).map fun row _ => hasWholeKeys_titleFields row) rows
  have dates {fields : Entries} (legible : Legible fields) :
      Delivers IsNoLimit Legible (adjust fields "dates" reduceDates) :=
    legible.adjust (by decide) (by decide) fun _ rows =>
      delivers_mapList (fun v _ => (delivers_dateRow v).map fun row _ => hasWholeKeys_dateFields row) rows
  have contributors {fields : Entries} (legible : Legible fields) :
      Delivers IsNoLimit Legible (adjust fields "contributors" reduceContributors) :=
    legible.adjust (by decide) (by decide) fun _ rows =>
      delivers_mapList (fun _ keys => hasWholeKeys_reduceContributor keys) rows
  exact (version (legible_foldYear legible)).bind fun _ legible => (titles legible).bind fun _ legible =>
    (dates legible).bind fun _ legible => contributors legible

/-- Reading a record from a whole document fails because of its shape only, and the web address is whole. -/
theorem delivers_ofValue (whole : HasWholeEntries fields) (shallow : (Value.mapping fields).depth ≤ Value.depthLimit) :
    Delivers IsNoLimit (fun record => ∀ url ∈ record.url, IsWhole url) (ofValue (.mapping fields)) := by
  have snake := Value.hasWholeEntries_ofList (Value.hasWholeEntries_snakeEntries fields whole)
  rw [ofValue, if_neg (Nat.not_lt.mpr shallow)]
  exact (delivers_reduce (legible_of_hasWholeEntries snake)).bind fun _ => delivers_read

end Record

end DatasetForm
