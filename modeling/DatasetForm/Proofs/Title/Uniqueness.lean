import DatasetForm.Proofs.Title.Shapes
import DatasetForm.Proofs.Title.Siblings
import DatasetForm.Proofs.Value.Part

/-!
What the check for repeated titles leaves. Without the rows that it blames no row repeats another one, and no title is
lost: the first row with a key and type is never blamed for them.
-/

set_option autoImplicit false
set_option relaxedAutoImplicit false

namespace DatasetForm

/-- The items of a list but for those at some positions. -/
def without {α : Type} (positions : List Nat) (items : List α) : List α :=
  (items.zipIdx.filter fun entry => !positions.contains entry.2).map Prod.fst

section Without

variable {α β : Type} {positions : List Nat}

theorem mem_without {items : List α} {item : α} :
    item ∈ without positions items ↔ ∃ index, items[index]? = some item ∧ index ∉ positions := by
  rw [without, List.mem_map]
  constructor
  · rintro ⟨⟨_, index⟩, member, rfl⟩
    rw [List.mem_filter, List.mk_mem_zipIdx_iff_getElem?] at member
    exact ⟨index, member.1, by simpa using member.2⟩
  · rintro ⟨index, found, kept⟩
    refine ⟨(item, index), ?_, rfl⟩
    rw [List.mem_filter, List.mk_mem_zipIdx_iff_getElem?]
    exact ⟨found, by simpa using kept⟩

/-- Of the items that are kept, each stands so to every later one as it does among all items. -/
theorem pairwise_without {related : α → α → Prop} {items : List α}
    (apart : ∀ (i j : Nat) (x y : α), i < j → items[i]? = some x → items[j]? = some y → j ∉ positions → related x y) :
    (without positions items).Pairwise related := by
  rw [without, List.pairwise_map, List.pairwise_filter, List.pairwise_iff_getElem]
  intro i j inside inside' before _ kept
  rw [List.getElem_zipIdx, Nat.zero_add] at kept
  rw [List.getElem_zipIdx, List.getElem_zipIdx]
  rw [List.length_zipIdx] at inside inside'
  exact apart i j _ _ before (List.getElem?_eq_getElem inside) (List.getElem?_eq_getElem inside') (by simpa using kept)

theorem forall₂_without {related : α → β → Prop} {items : List α} {others : List β}
    (each : List.Forall₂ related items others) :
    List.Forall₂ related (without positions items) (without positions others) := by
  rw [without, without]
  generalize 0 = start
  induction each generalizing start with
  | nil => exact .nil
  | cons first _ ih =>
    rw [List.zipIdx_cons, List.zipIdx_cons, List.filter_cons, List.filter_cons]
    split
    · exact .cons first (ih (start + 1))
    · exact ih (start + 1)

end Without

namespace Title

theorem repeats_of_pairwise {titles : List Title} (distinct : titles.Pairwise fun earlier title => ¬Repeats earlier title) :
    repeats (titles.map row) = .ok [] := by
  obtain ⟨positions, result, blames⟩ := repeats_rows titles
  have none : positions = [] := by
    rw [List.eq_nil_iff_forall_not_mem]
    intro position member
    exact (forall_not_hasEarlier_iff Repeats titles).mpr distinct position ((blames position).mp member)
  rw [result, none]

section Kept

variable {titles : List Title} {positions : List Nat}
  (blames : ∀ position, position ∈ positions ↔ HasEarlier Repeats [] titles position)
include blames

/-- No kept title repeats another. -/
theorem pairwise_kept : (without positions titles).Pairwise fun earlier title => ¬Repeats earlier title := by
  refine pairwise_without fun i j earlier title before found found' kept repeated => kept ?_
  rw [blames, hasEarlier_iff found']
  obtain ⟨inside, rfl⟩ := List.getElem?_eq_some_iff.mp found
  exact ⟨_, List.mem_take_iff_getElem.mpr ⟨i, by omega, rfl⟩, repeated⟩

/-- The first title with a key and a type is kept. -/
theorem exists_kept_iff (word kind : String) :
    (∃ title ∈ without positions titles, key title.text = word ∧ title.kind = kind) ↔
      ∃ title ∈ titles, key title.text = word ∧ title.kind = kind := by
  constructor
  · rintro ⟨title, member, signed⟩
    obtain ⟨index, found, -⟩ := mem_without.mp member
    exact ⟨title, List.mem_of_getElem? found, signed⟩
  · rintro ⟨title, member, signed⟩
    have found : (titles.find? fun title => key title.text = word ∧ title.kind = kind).isSome = true :=
      List.find?_isSome.mpr ⟨title, member, by simpa using signed⟩
    obtain ⟨first, found⟩ := Option.isSome_iff_exists.mp found
    obtain ⟨first_signed, before, after, rfl, others⟩ := List.find?_eq_some_iff_append.mp found
    have at_first : (before ++ first :: after)[before.length]? = some first := by simp
    -- Had it been blamed, an earlier title would have had the same key and type.
    have fresh : before.length ∉ positions := by
      rw [blames, hasEarlier_iff at_first, List.take_left]
      rintro ⟨earlier, member, -, keys, kinds⟩
      have unsigned := others earlier member
      simp only [decide_eq_true_eq] at first_signed
      rw [keys, kinds] at unsigned
      simp [first_signed] at unsigned
    exact ⟨first, mem_without.mpr ⟨_, at_first, fresh⟩, by simpa using first_signed⟩

end Kept

/-- The value is a title row with this text and type. -/
def IsRowOf (item : Value) (title : Title) : Prop :=
  TitleRow.ofValue item = .ok title.row

theorem rowsOf_items {items : List Value} {titles : List Title} (read : List.Forall₂ IsRowOf items titles) :
    TitleRow.rowsOf (.list items) = .ok (titles.map row) := by
  have present : (Value.list items).itemsOrNone = .ok items := by
    cases items <;> rfl
  rw [TitleRow.rowsOf, present]
  exact mapM_eq_ok_iff.mpr (List.forall₂_map_right_iff.mpr read)

private theorem mem_complaints {positions : List Nat} {position : Nat} {given complaint : Complaint} :
    (position, complaint) ∈ positions.map (fun position => (position, given)) ↔
      complaint = given ∧ position ∈ positions := by
  rw [List.mem_map]
  constructor
  · rintro ⟨_, member, same⟩
    cases same
    exact ⟨rfl, member⟩
  · rintro ⟨rfl, member⟩
    exact ⟨position, member, rfl⟩

private theorem fst_complaints (positions : List Nat) (given : Complaint) :
    (positions.map fun position => (position, given)).map Prod.fst = positions := by
  rw [List.map_map]
  exact List.map_id positions

/-- A row is blamed exactly when it has a key and an earlier row has the same key and type. Without the rows that are
blamed none is, and the rows have the same keys and types. A main title is blamed exactly when there is an earlier
one. -/
theorem uniqueness_items (items : List Value) (titles : List Title) (read : List.Forall₂ IsRowOf items titles) :
    ∃ found : Uniqueness, (TitleRow.rowsOf (.list items)).bind uniqueness = .ok found ∧
      (∀ position complaint, (position, complaint) ∈ found.complaints ↔
        complaint = .duplicateTitle ∧ ∃ title, titles[position]? = some title ∧ key title.text ≠ "" ∧
          ∃ earlier ∈ titles.take position, key earlier.text = key title.text ∧ earlier.kind = title.kind) ∧
      (found.isValid = true ↔ ∀ position complaint, (position, complaint) ∉ found.complaints) ∧
      (TitleRow.rowsOf (.list (without (found.complaints.map Prod.fst) items))).bind uniqueness = .ok ⟨true, []⟩ ∧
      (∀ word kind,
        (∃ title ∈ without (found.complaints.map Prod.fst) titles, key title.text = word ∧ title.kind = kind) ↔
          ∃ title ∈ titles, key title.text = word ∧ title.kind = kind) ∧
      ∃ mains, (TitleRow.rowsOf (.list items)).map mainComplaints = .ok mains ∧
        ∀ position complaint, (position, complaint) ∈ mains ↔
          complaint = .extraMainTitle ∧ ∃ title, titles[position]? = some title ∧ title.IsMain ∧
            ∃ earlier ∈ titles.take position, earlier.IsMain := by
  obtain ⟨positions, result, blames⟩ := repeats_rows titles
  have found : uniqueness (titles.map row) =
      .ok ⟨positions.isEmpty, positions.map fun position => (position, .duplicateTitle)⟩ := by
    rw [uniqueness, result]
    rfl
  have kept : uniqueness ((without positions titles).map row) = .ok ⟨true, []⟩ := by
    rw [uniqueness, repeats_of_pairwise (pairwise_kept blames)]
    rfl
  rw [rowsOf_items read]
  refine ⟨_, found, ?_, ?_, ?_, ?_, _, rfl, ?_⟩
  · intro position complaint
    rw [mem_complaints, blames]
    refine and_congr_right fun _ => ?_
    constructor
    · rintro ⟨title, at_position, earlier, before, filled, keys, kinds⟩
      exact ⟨title, at_position, filled, earlier, before, keys, kinds⟩
    · rintro ⟨title, at_position, filled, earlier, before, keys, kinds⟩
      exact ⟨title, at_position, earlier, before, filled, keys, kinds⟩
  · simp [List.eq_nil_iff_forall_not_mem]
  · rw [fst_complaints, rowsOf_items (forall₂_without read)]
    exact kept
  · intro word kind
    rw [fst_complaints, exists_kept_iff blames]
  · intro position complaint
    rw [mainComplaints, mem_complaints, mem_extraMains_rows]
    refine and_congr_right fun _ => ?_
    constructor
    · rintro ⟨title, at_position, earlier, before, earlier_main, main⟩
      exact ⟨title, at_position, main, earlier, before, earlier_main⟩
    · rintro ⟨title, at_position, main, earlier, before, earlier_main⟩
      exact ⟨title, at_position, earlier, before, earlier_main, main⟩

/-- Rows in all shapes: a mapping, a pair and rows made in code. -/
private def mixedRows : List Value :=
  [.mapping [(.text "title", .text "Ice  Cores"), (.text "titleType", .text "MainTitle")],
    .tuple [.text "ice cores", .text "main title"], .titleRow (.text " ") (.text "main-title"),
    .titleRow (.text "ICE CORES") (.text "subtitle")]

private def mixedTitles : List Title :=
  [⟨"Ice  Cores", "main-title"⟩, ⟨"ice cores", "main-title"⟩, ⟨" ", "main-title"⟩, ⟨"ICE CORES", "subtitle"⟩]

private theorem isRowOf_mixedRows : List.Forall₂ IsRowOf mixedRows mixedTitles := by
  have camel : slug "MainTitle" = "main-title" := by decide +kernel
  have spaced : slug "main title" = "main-title" := by decide +kernel
  have first : TitleRow.IsMappingOf "Ice  Cores" "MainTitle" 
      (.mapping [(.text "title", .text "Ice  Cores"), (.text "titleType", .text "MainTitle")]) :=
    .titleFirst List.mem_cons_self
  have mapping := first.ofValue
  have second : TitleRow.IsPairOf "ice cores" "main title" (.tuple [.text "ice cores", .text "main title"]) := .tuple
  have pair := second.ofValue
  rw [TitleRow.slugOrMain, camel, if_neg (by decide)] at mapping
  rw [spaced] at pair
  exact .cons mapping (.cons pair (.cons rfl (.cons rfl .nil)))

/-- Of the rows only the pair repeats one: the third has no key, and the last is of another type. -/
theorem uniqueness_mixedRows :
    List.Forall₂ IsRowOf mixedRows mixedTitles ∧
      ∃ found : Uniqueness, (TitleRow.rowsOf (.list mixedRows)).bind uniqueness = .ok found ∧
        found.isValid = false ∧ (1, .duplicateTitle) ∈ found.complaints ∧
        ∀ position, position ∈ [0, 2, 3] → (position, .duplicateTitle) ∉ found.complaints := by
  refine ⟨isRowOf_mixedRows, ?_⟩
  obtain ⟨found, checked, blamed, valid, -⟩ := uniqueness_items mixedRows mixedTitles isRowOf_mixedRows
  have repeated : (1, .duplicateTitle) ∈ found.complaints :=
    (blamed 1 .duplicateTitle).mpr ⟨rfl, ⟨"ice cores", "main-title"⟩, rfl, by decide +kernel⟩
  refine ⟨found, checked, ?_, repeated, ?_⟩
  · rw [Bool.eq_false_iff, Ne, valid]
    intro none
    exact none 1 _ repeated
  · intro position member
    rw [blamed, and_iff_right rfl]
    rintro ⟨title, at_position, rest⟩
    simp only [List.mem_cons, List.not_mem_nil, or_false] at member
    rcases member with rfl | rfl | rfl <;> cases at_position <;> revert rest <;> decide +kernel

end Title

end DatasetForm
