import DatasetForm.Text.Normal
import Mathlib.Data.List.Basic
import Mathlib.Data.List.Chain

/-!
The canonical order of marks. To put marks in order only moves them, and marks that are in order stay where they are. A
character of class zero parts the marks before it from those behind it; one of higher class than the marks after it may
as well stand behind them.
-/

set_option autoImplicit false
set_option relaxedAutoImplicit false

namespace DatasetForm.Text

variable {c d : Char} {cs ds marks : List Char}

/-- The second character may stand right behind the first. -/
def Follows (c d : Char) : Prop :=
  combiningClass d = 0 ∨ combiningClass c ≤ combiningClass d

/-- The marks of the text are in canonical order. -/
def IsOrdered (cs : List Char) : Prop :=
  cs.IsChain Follows

theorem insertMark_of_follows (follows : Follows c d) (ds : List Char) : insertMark c (d :: ds) = c :: d :: ds := by
  rw [insertMark, if_pos]
  simp only [Bool.or_eq_true, decide_eq_true_eq, beq_iff_eq]
  exact .inl follows.symm

theorem insertMark_of_not_follows (higher : ¬Follows c d) (ds : List Char) :
    insertMark c (d :: ds) = d :: insertMark c ds := by
  rw [insertMark, if_neg]
  simp only [Bool.or_eq_true, decide_eq_true_eq, beq_iff_eq]
  simp only [Follows] at higher
  omega

/-- A character of class zero does not move. -/
theorem insertMark_of_starts (starts : combiningClass c = 0) (cs : List Char) : insertMark c cs = c :: cs := by
  cases cs with
  | nil => rfl
  | cons d ds =>
    refine insertMark_of_follows (.inr ?_) ds
    omega

theorem perm_insertMark (c : Char) (cs : List Char) : (insertMark c cs).Perm (c :: cs) := by
  induction cs with
  | nil => exact .refl _
  | cons d ds ih =>
    by_cases follows : Follows c d
    · rw [insertMark_of_follows follows]
    · rw [insertMark_of_not_follows follows]
      exact (ih.cons d).trans (.swap c d ds)

/-- Only the order changes. -/
theorem perm_reorder (cs : List Char) : (reorder cs).Perm cs := by
  induction cs with
  | nil => exact .refl _
  | cons c cs ih => exact (perm_insertMark c (reorder cs)).trans (ih.cons c)

theorem reorder_cons (c : Char) (cs : List Char) : reorder (c :: cs) = insertMark c (reorder cs) := rfl

theorem reorder_append_congr (before : List Char) (same : reorder cs = reorder ds) :
    reorder (before ++ cs) = reorder (before ++ ds) := by
  rw [reorder, reorder, List.foldr_append, List.foldr_append, ← reorder, ← reorder, same]

section Silent

variable {α : Type} {f : Char → List α} (silent : ∀ c, combiningClass c ≠ 0 → f c = [])
include silent

private theorem flatMap_insertMark (c : Char) (cs : List Char) : (insertMark c cs).flatMap f = f c ++ cs.flatMap f := by
  induction cs with
  | nil => rfl
  | cons d ds ih =>
    by_cases follows : Follows c d
    · rw [insertMark_of_follows follows, List.flatMap_cons]
    · -- only a mark moves, and only past a mark
      have marked : combiningClass d ≠ 0 ∧ combiningClass c ≠ 0 := by
        rw [Follows] at follows
        omega
      rw [insertMark_of_not_follows follows, List.flatMap_cons, ih, List.flatMap_cons, silent d marked.1,
        silent c marked.2]

/-- Where nothing comes of marks, their order makes no difference. -/
theorem flatMap_reorder (cs : List Char) : (reorder cs).flatMap f = cs.flatMap f := by
  induction cs with
  | nil => rfl
  | cons c cs ih => rw [reorder_cons, flatMap_insertMark silent, ih, List.flatMap_cons]

end Silent

/-! ## Order -/

theorem isOrdered_insertMark (ordered : IsOrdered cs) : IsOrdered (insertMark c cs) := by
  induction cs with
  | nil => exact .singleton c
  | cons d ds ih =>
    by_cases follows : Follows c d
    · rw [insertMark_of_follows follows]
      exact .cons_cons follows ordered
    · rw [insertMark_of_not_follows follows]
      have rest := ih ordered.tail
      have behind : Follows d c := .inr (by simp only [Follows] at follows; omega)
      -- what stands behind `d` now is `c` or what stood there before
      cases ds with
      | nil => exact .cons_cons behind rest
      | cons e es =>
        by_cases next : Follows c e
        · rw [insertMark_of_follows next] at rest ⊢
          exact .cons_cons behind rest
        · rw [insertMark_of_not_follows next] at rest ⊢
          exact .cons_cons (List.isChain_cons_cons.mp ordered).1 rest

theorem isOrdered_reorder (cs : List Char) : IsOrdered (reorder cs) := by
  induction cs with
  | nil => exact .nil
  | cons c cs ih => exact isOrdered_insertMark ih

/-- What is in order stays as it is. -/
theorem reorder_eq_self (ordered : IsOrdered cs) : reorder cs = cs := by
  induction cs with
  | nil => rfl
  | cons c cs ih =>
    rw [reorder_cons, ih ordered.tail]
    cases cs with
    | nil => rfl
    | cons d ds => exact insertMark_of_follows (List.isChain_cons_cons.mp ordered).1 ds

/-- What stands behind a character may take its place, unless that character is the first of a cluster. -/
theorem IsOrdered.erase {before after : List Char} (ordered : IsOrdered (before ++ c :: after))
    (inner : before = [] ∨ combiningClass c ≠ 0) : IsOrdered (before ++ after) := by
  obtain ⟨first, second, joint⟩ := List.isChain_append.mp ordered
  refine List.isChain_append.mpr ⟨first, second.tail, fun x last y next => ?_⟩
  rcases inner with rfl | inner
  · cases last
  cases after with
  | nil => cases next
  | cons z after =>
    cases next
    have before : Follows x c := joint x last c rfl
    have behind : Follows c y := (List.isChain_cons_cons.mp second).1
    simp only [Follows] at before behind ⊢
    omega

/-- Marks are of no higher class than the last of them. -/
theorem combiningClass_lt_of_isOrdered (marked : ∀ mark ∈ marks, combiningClass mark ≠ 0)
    (ordered : IsOrdered marks.reverse) (last : ∀ mark ∈ marks.head?, combiningClass mark < combiningClass c) :
    ∀ mark ∈ marks, combiningClass mark < combiningClass c := by
  induction marks with
  | nil => exact fun mark member => absurd member List.not_mem_nil
  | cons mark marks ih =>
    rw [List.forall_mem_cons] at marked ⊢
    have highest : combiningClass mark < combiningClass c := last mark rfl
    rw [List.reverse_cons] at ordered
    obtain ⟨before, -, joint⟩ := List.isChain_append.mp ordered
    refine ⟨highest, ih marked.2 before fun other next => ?_⟩
    have follows : Follows other mark := joint other (by rwa [List.getLast?_reverse]) mark rfl
    rcases follows with starts | lower
    · exact absurd starts marked.1
    · omega

/-! ## Clusters -/

private theorem insertMark_append_cons (starts : combiningClass c = 0) (mark : Char) (before after : List Char) :
    insertMark mark (before ++ c :: after) = insertMark mark before ++ c :: after := by
  induction before with
  | nil => exact insertMark_of_follows (.inl starts) after
  | cons d before ih =>
    rw [List.cons_append]
    by_cases follows : Follows mark d
    · rw [insertMark_of_follows follows, insertMark_of_follows follows, List.cons_append, List.cons_append]
    · rw [insertMark_of_not_follows follows, insertMark_of_not_follows follows, ih, List.cons_append]

/-- Marks do not move past a character of class zero. -/
theorem reorder_append_cons (starts : combiningClass c = 0) (before after : List Char) :
    reorder (before ++ c :: after) = reorder before ++ c :: reorder after := by
  induction before with
  | nil => exact insertMark_of_starts starts (reorder after)
  | cons d before ih =>
    rw [List.cons_append, reorder_cons, ih, insertMark_append_cons starts, reorder_cons]

private theorem insertMark_comm {mark : Char} (marked : combiningClass mark ≠ 0)
    (higher : combiningClass mark < combiningClass c) (cs : List Char) :
    insertMark c (insertMark mark cs) = insertMark mark (insertMark c cs) := by
  have first : Follows mark c := .inr higher.le
  have second : ¬Follows c mark := by
    rw [Follows]
    omega
  induction cs with
  | nil =>
    have alone (d : Char) : insertMark d [] = [d] := rfl
    rw [alone, alone, insertMark_of_not_follows second, insertMark_of_follows first, alone]
  | cons d ds ih =>
    by_cases stays : Follows mark d
    · -- the mark stands before `d`, and `c` behind the mark
      rw [insertMark_of_follows stays, insertMark_of_not_follows second]
      by_cases stays' : Follows c d
      · rw [insertMark_of_follows stays', insertMark_of_follows first]
      · rw [insertMark_of_not_follows stays', insertMark_of_follows stays]
    · have passes : ¬Follows c d := by
        simp only [Follows] at stays ⊢
        omega
      rw [insertMark_of_not_follows stays, insertMark_of_not_follows passes, insertMark_of_not_follows passes,
        insertMark_of_not_follows stays, ih]

/-- A mark of higher class than those behind it may as well stand behind them. -/
theorem reorder_cons_append (marked : ∀ mark ∈ marks, combiningClass mark ≠ 0)
    (higher : ∀ mark ∈ marks, combiningClass mark < combiningClass c) (cs : List Char) :
    reorder (c :: (marks ++ cs)) = reorder (marks ++ c :: cs) := by
  induction marks with
  | nil => rfl
  | cons mark marks ih =>
    rw [List.forall_mem_cons] at marked higher
    rw [List.cons_append, List.cons_append, reorder_cons mark, ← ih marked.2 higher.2, reorder_cons, reorder_cons,
      reorder_cons, insertMark_comm marked.1 higher.1]

end DatasetForm.Text
