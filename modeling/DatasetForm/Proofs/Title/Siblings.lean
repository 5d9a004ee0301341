import DatasetForm.Title.Siblings
import Mathlib.Data.List.Basic

/-!
Which rows are blamed beside their siblings. A row repeats an earlier one exactly when its key is not empty
and an earlier row has the same key and type; a main title is one too many exactly when an earlier row is one.
-/

set_option autoImplicit false
set_option relaxedAutoImplicit false

namespace DatasetForm.Title

/-- The title is a main title. -/
def IsMain (title : Title) : Prop :=
  title.kind = TitleType.mainTitle.slug

instance (title : Title) : Decidable title.IsMain :=
  inferInstanceAs (Decidable (_ = _))

/-- The title has a key, and an earlier one has the same key and type. -/
def Repeats (earlier title : Title) : Prop :=
  key title.text ≠ "" ∧ key earlier.text = key title.text ∧ earlier.kind = title.kind

instance (earlier title : Title) : Decidable (Repeats earlier title) :=
  inferInstanceAs (Decidable (_ ∧ _ ∧ _))

theorem keyOf_text (text : String) : keyOf (.text text) = .ok (key text) := by
  rw [keyOf, Value.orEmpty_text]

theorem signature?_row (title : Title) :
    signature? title.row =
      .ok (if key title.text = "" then none else some (key title.text, .text title.kind)) := by
  rw [signature?, row, keyOf_text]
  by_cases empty : key title.text = "" <;>
    simp [empty, Value.checkHashable, Value.unhashable?, Except.map]

theorem isMain_row (title : Title) : title.row.isMain = true ↔ title.IsMain := by
  rw [TitleRow.isMain, row, Value.same, beq_iff_eq, IsMain]

private theorem same_iff (key key' kind kind' : String) :
    Signature.same (key, .text kind) (key', .text kind') = true ↔ key = key' ∧ kind = kind' := by
  simp [Signature.same, Value.same]

/-- The signatures that were seen are those of the titles before. -/
private def Seen (seen : List Signature) (before : List Title) : Prop :=
  ∀ title : Title, key title.text ≠ "" →
    (seen.any (Signature.same (key title.text, .text title.kind)) = true ↔
      ∃ earlier ∈ before, Repeats earlier title)

private theorem exists_mem_concat {α : Type} {p : α → Prop} {before : List α} {a : α} :
    (∃ x ∈ before ++ [a], p x) ↔ (∃ x ∈ before, p x) ∨ p a := by
  simp only [List.mem_append, List.mem_singleton, or_and_right, exists_or, exists_eq_left]

section Seen

variable {seen : List Signature} {before : List Title} {title : Title} (sees : Seen seen before)
include sees

private theorem Seen.keyless (empty : key title.text = "") : Seen seen (before ++ [title]) := by
  intro other filled
  rw [sees other filled, exists_mem_concat, or_iff_left]
  rintro ⟨-, same, -⟩
  exact filled (same.symm.trans empty)

private theorem Seen.again (filled : key title.text ≠ "")
    (found : seen.any (Signature.same (key title.text, .text title.kind)) = true) :
    Seen seen (before ++ [title]) := by
  intro other otherFilled
  rw [sees other otherFilled, exists_mem_concat, or_iff_left_of_imp]
  rintro ⟨-, keys, kinds⟩
  obtain ⟨earlier, member, -, keys', kinds'⟩ := (sees title filled).mp found
  exact ⟨earlier, member, otherFilled, keys'.trans keys, kinds'.trans kinds⟩

private theorem Seen.fresh : Seen (seen ++ [(key title.text, .text title.kind)]) (before ++ [title]) := by
  intro other filled
  rw [List.any_append, Bool.or_eq_true, sees other filled, exists_mem_concat, List.any_cons, List.any_nil,
    Bool.or_false, same_iff]
  refine or_congr_right ⟨?_, ?_⟩
  · rintro ⟨keys, kinds⟩
    exact ⟨filled, keys.symm, kinds.symm⟩
  · rintro ⟨-, keys, kinds⟩
    exact ⟨keys.symm, kinds.symm⟩

end Seen

/-- The position is that of a title, and an earlier one stands so to it. -/
def HasEarlier (related : Title → Title → Prop) (before titles : List Title) (index : Nat) : Prop :=
  ∃ title, titles[index]? = some title ∧ ∃ earlier ∈ before ++ titles.take index, related earlier title

theorem hasEarlier_iff {related : Title → Title → Prop} {titles : List Title} {index : Nat} {title : Title}
    (found : titles[index]? = some title) :
    HasEarlier related [] titles index ↔ ∃ earlier ∈ titles.take index, related earlier title := by
  simp [HasEarlier, found]

private theorem hasEarlier_cons_zero {related : Title → Title → Prop} {before titles : List Title}
    {title : Title} :
    HasEarlier related before (title :: titles) 0 ↔ ∃ earlier ∈ before, related earlier title := by
  simp [HasEarlier]

private theorem hasEarlier_cons_succ {related : Title → Title → Prop} {before titles : List Title}
    {title : Title} {index : Nat} :
    HasEarlier related before (title :: titles) (index + 1) ↔
      HasEarlier related (before ++ [title]) titles index := by
  simp [HasEarlier]

/-- No title at all has such an earlier one when no two of them stand so to each other. -/
theorem forall_not_hasEarlier_iff (related : Title → Title → Prop) (titles : List Title) :
    (∀ index, ¬HasEarlier related [] titles index) ↔
      titles.Pairwise fun earlier title => ¬related earlier title := by
  rw [List.pairwise_iff_getElem]
  constructor
  · intro apart i j inside inside' before together
    have member : titles[i] ∈ [] ++ titles.take j := by
      rw [List.nil_append, List.mem_take_iff_getElem]
      exact ⟨i, by omega, rfl⟩
    exact apart j ⟨titles[j], List.getElem?_eq_getElem inside', titles[i], member, together⟩
  · rintro apart j ⟨title, found, earlier, member, together⟩
    obtain ⟨inside', rfl⟩ := List.getElem?_eq_some_iff.mp found
    rw [List.nil_append, List.mem_take_iff_getElem] at member
    obtain ⟨i, inside, rfl⟩ := member
    exact apart i j (by omega) inside' (by omega) together

/-- The positions, counted from `start` on, are those of the titles to which an earlier one stands so. -/
private def Blames (related : Title → Title → Prop) (before : List Title) (start : Nat)
    (titles : List Title) (positions : List Nat) : Prop :=
  ∀ position, position ∈ positions ↔
    ∃ index, position = start + index ∧ HasEarlier related before titles index

section Blames

variable {related : Title → Title → Prop} {before titles : List Title} {title : Title} {start : Nat}
  {positions : List Nat}

private theorem blames_nil : Blames related before start [] [] := by
  simp [Blames, HasEarlier]

/-- Whether the first title is blamed is said at index 0, and the rest is one index further. -/
private theorem Blames.cons {others : List Nat}
    (rest : Blames related (before ++ [title]) (start + 1) titles others)
    (first : ∀ position, position ∈ positions ↔
      (position = start ∧ ∃ earlier ∈ before, related earlier title) ∨ position ∈ others) :
    Blames related before start (title :: titles) positions := by
  intro position
  rw [first, rest]
  constructor
  · rintro (⟨rfl, blamed⟩ | ⟨index, rfl, blamed⟩)
    · exact ⟨0, rfl, hasEarlier_cons_zero.mpr blamed⟩
    · exact ⟨index + 1, by omega, hasEarlier_cons_succ.mpr blamed⟩
  · rintro ⟨index, rfl, blamed⟩
    cases index with
    | zero => exact .inl ⟨rfl, hasEarlier_cons_zero.mp blamed⟩
    | succ index => exact .inr ⟨index, by omega, hasEarlier_cons_succ.mp blamed⟩

private theorem Blames.cons_blamed (rest : Blames related (before ++ [title]) (start + 1) titles positions)
    (blamed : ∃ earlier ∈ before, related earlier title) :
    Blames related before start (title :: titles) (start :: positions) :=
  rest.cons fun position => by rw [List.mem_cons, and_iff_left blamed]

private theorem Blames.cons_spared (rest : Blames related (before ++ [title]) (start + 1) titles positions)
    (spared : ¬∃ earlier ∈ before, related earlier title) :
    Blames related before start (title :: titles) positions :=
  rest.cons fun position => by rw [or_iff_right fun first => spared first.2]

private theorem Blames.mem_iff (blames : Blames related [] 0 titles positions) (position : Nat) :
    position ∈ positions ↔ HasEarlier related [] titles position := by
  rw [blames position]
  simp

end Blames

private theorem repeatsAfter_rows {seen : List Signature} {before : List Title} (sees : Seen seen before)
    (start : Nat) (titles : List Title) :
    ∃ positions, repeatsAfter seen start (titles.map row) = .ok positions ∧
      Blames Repeats before start titles positions := by
  induction titles generalizing seen before start with
  | nil => exact ⟨[], rfl, blames_nil⟩
  | cons title titles ih =>
    rw [List.map_cons, repeatsAfter, signature?_row]
    by_cases empty : key title.text = ""
    · obtain ⟨others, result, rest⟩ := ih (sees.keyless empty) (start + 1)
      simp only [empty, ↓reduceIte]
      refine ⟨others, result, rest.cons_spared ?_⟩
      rintro ⟨earlier, -, filled, -⟩
      exact filled empty
    · simp only [empty, ↓reduceIte]
      cases found : seen.any (Signature.same (key title.text, .text title.kind)) with
      | true =>
        obtain ⟨others, result, rest⟩ := ih (sees.again empty found) (start + 1)
        simp only [↓reduceIte, result, Except.map]
        exact ⟨start :: others, rfl, rest.cons_blamed ((sees title empty).mp found)⟩
      | false =>
        obtain ⟨others, result, rest⟩ := ih sees.fresh (start + 1)
        simp only [Bool.false_eq_true, ↓reduceIte]
        refine ⟨others, result, rest.cons_spared fun repeated => ?_⟩
        rw [← sees title empty, found] at repeated
        cases repeated

/-- Exactly the rows that repeat an earlier one are blamed for it. -/
theorem repeats_rows (titles : List Title) :
    ∃ positions, repeats (titles.map row) = .ok positions ∧
      ∀ position, position ∈ positions ↔ HasEarlier Repeats [] titles position := by
  have none : Seen [] [] := fun _ _ => by simp
  obtain ⟨positions, result, blames⟩ := repeatsAfter_rows none 0 titles
  exact ⟨positions, result, blames.mem_iff⟩

/-- Both titles are main titles. -/
def BothMain (earlier title : Title) : Prop :=
  earlier.IsMain ∧ title.IsMain

instance (earlier title : Title) : Decidable (BothMain earlier title) :=
  inferInstanceAs (Decidable (_ ∧ _))

private theorem extraMainsAfter_rows {found : Bool} {before : List Title}
    (finds : found = true ↔ ∃ earlier ∈ before, earlier.IsMain) (start : Nat) (titles : List Title) :
    Blames BothMain before start titles (extraMainsAfter found start (titles.map row)) := by
  induction titles generalizing found before start with
  | nil => exact blames_nil
  | cons title titles ih =>
    rw [List.map_cons, extraMainsAfter]
    by_cases main : title.IsMain
    · have later : Blames BothMain (before ++ [title]) (start + 1) titles
          (extraMainsAfter true (start + 1) (titles.map row)) :=
        ih (by simp [main]) (start + 1)
      rw [(isMain_row title).mpr main]
      cases found with
      | true =>
        obtain ⟨earlier, member, isMain⟩ := finds.mp rfl
        exact later.cons_blamed ⟨earlier, member, isMain, main⟩
      | false =>
        refine later.cons_spared ?_
        rintro ⟨earlier, member, isMain, -⟩
        exact Bool.false_ne_true (finds.mpr ⟨earlier, member, isMain⟩)
    · have later : Blames BothMain (before ++ [title]) (start + 1) titles
          (extraMainsAfter found (start + 1) (titles.map row)) :=
        ih (by simp [main, finds]) (start + 1)
      rw [Bool.eq_false_iff.mpr (mt (isMain_row title).mp main)]
      exact later.cons_spared fun ⟨_, _, _, isMain⟩ => main isMain

/-- Exactly the main titles after the first are one too many. -/
theorem mem_extraMains_rows (titles : List Title) (position : Nat) :
    position ∈ extraMains (titles.map row) ↔ HasEarlier BothMain [] titles position :=
  (extraMainsAfter_rows (by simp) 0 titles).mem_iff position

/-- There is a main title, no two of them, and none without a property, when the one main title has it. -/
theorem exists_mains_eq_singleton_iff (titles : List Title) (property : Title → Prop) :
    ((∃ title ∈ titles, title.IsMain) ∧ (titles.Pairwise fun earlier title => ¬BothMain earlier title) ∧
        ∀ title ∈ titles, title.IsMain → property title) ↔
      ∃ main, titles.filter (fun title => title.kind == TitleType.mainTitle.slug) = [main] ∧
        property main := by
  have single : (titles.Pairwise fun earlier title => ¬BothMain earlier title) ↔
      (titles.filter fun title => title.kind == TitleType.mainTitle.slug).Pairwise fun _ _ => False := by
    rw [List.pairwise_filter]
    simp [BothMain, IsMain]
  have mem_mains (title : Title) :
      title ∈ titles.filter (fun title => title.kind == TitleType.mainTitle.slug) ↔
        title ∈ titles ∧ title.IsMain := by
    rw [List.mem_filter, beq_iff_eq, IsMain]
  simp only [single, ← and_imp, ← mem_mains]
  generalize titles.filter (fun title => title.kind == TitleType.mainTitle.slug) = mains
  match mains with
  | [] => simp
  | [main] => simp
  | first :: second :: others =>
    constructor
    · rintro ⟨-, apart, -⟩
      exact (List.rel_of_pairwise_cons apart List.mem_cons_self).elim
    · rintro ⟨main, same, -⟩
      cases same

end DatasetForm.Title
