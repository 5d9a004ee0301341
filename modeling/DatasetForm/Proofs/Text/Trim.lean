import DatasetForm.Text.Blank
import Mathlib.Data.List.DropRight

/-!
What trimming a text leaves, and where cutting it at a separator splits it.
-/

set_option autoImplicit false
set_option relaxedAutoImplicit false

namespace DatasetForm.Text

/-- The codes of the characters that are white space. -/
def blankCodes : List Nat :=
  List.range' 0x09 5 ++ List.range' 0x1C 5 ++ [0x85, 0xA0, 0x1680] ++ List.range' 0x2000 11 ++
    [0x2028, 0x2029, 0x202F, 0x205F, 0x3000]

theorem mem_blankCodes {c : Char} (blank : isBlank c = true) : c.toNat ∈ blankCodes := by
  simp only [isBlank, Bool.or_eq_true, Bool.and_eq_true, decide_eq_true_eq, beq_iff_eq] at blank
  simp only [blankCodes, List.mem_append, List.mem_range'_1, List.mem_cons, List.not_mem_nil]
  omega

theorem isBlank_iff {c : Char} : isBlank c = true ↔ c.toNat ∈ blankCodes := by
  refine ⟨mem_blankCodes, fun member => ?_⟩
  simp only [blankCodes, List.mem_append, List.mem_range'_1, List.mem_cons, List.not_mem_nil, or_false] at member
  simp only [isBlank, Bool.or_eq_true, Bool.and_eq_true, decide_eq_true_eq, beq_iff_eq]
  omega

/-- A text with no blank at either end. -/
structure IsTrimmed (cs : List Char) : Prop where
  head : ∀ c ∈ cs.head?, isBlank c = false
  last : ∀ c ∈ cs.getLast?, isBlank c = false

private theorem trimRight_eq (cs : List Char) : trimRight cs = cs.rdropWhile isBlank := rfl

private theorem head_of_mem_prefix {xs ys : List Char} (pre : xs <+: ys) {c : Char}
    (h : c ∈ xs.head?) : c ∈ ys.head? := by
  obtain ⟨zs, rfl⟩ := pre
  cases xs with
  | nil => simp at h
  | cons x xs => simpa using h

theorem isTrimmed_trim (cs : List Char) : IsTrimmed (trim cs) := by
  constructor
  · intro c hc
    have pre : trim cs <+: trimLeft cs := by
      rw [trim, trimRight_eq]
      exact List.rdropWhile_prefix isBlank _
    have first := head_of_mem_prefix pre hc
    have := List.head?_dropWhile_not isBlank cs
    simp only [trimLeft] at first
    rw [Option.mem_def.mp first] at this
    simpa using this
  · intro c hc
    have nonempty : trim cs ≠ [] := by
      intro h
      simp [h] at hc
    have last := List.rdropWhile_last_not isBlank (trimLeft cs) nonempty
    rw [List.getLast?_eq_getLast_of_ne_nil nonempty] at hc
    rw [← Option.some.inj hc]
    exact Bool.eq_false_iff.mpr last

private theorem IsTrimmed.trimLeft_eq {cs : List Char} (h : IsTrimmed cs) : trimLeft cs = cs := by
  cases cs with
  | nil => rfl
  | cons c cs => simp [trimLeft, List.dropWhile, h.head c rfl]

private theorem IsTrimmed.trimRight_eq {cs : List Char} (h : IsTrimmed cs) : trimRight cs = cs := by
  rw [Text.trimRight_eq, List.rdropWhile_eq_self_iff]
  intro nonempty
  rw [h.last _ (List.getLast?_eq_getLast_of_ne_nil nonempty)]
  exact Bool.false_ne_true

theorem IsTrimmed.trim_eq {cs : List Char} (h : IsTrimmed cs) : trim cs = cs := by
  rw [trim, h.trimLeft_eq, h.trimRight_eq]

@[simp] theorem trim_trim (cs : List Char) : trim (trim cs) = trim cs :=
  (isTrimmed_trim cs).trim_eq

theorem isTrimmed_append {xs ys : List Char} (filled : xs ≠ []) (filled' : ys ≠ [])
    (head : ∀ c ∈ xs.head?, isBlank c = false) (last : ∀ c ∈ ys.getLast?, isBlank c = false) :
    IsTrimmed (xs ++ ys) := by
  constructor
  · rwa [List.head?_append_of_ne_nil xs filled]
  · rwa [List.getLast?_append_of_ne_nil xs filled']

/-- Blanks around a trimmed text are all that trimming takes off. -/
theorem IsTrimmed.trim_surrounded {cs before after : List Char} (trimmed : IsTrimmed cs) (filled : cs ≠ [])
    (blank : ∀ c ∈ before, isBlank c = true) (blank' : ∀ c ∈ after, isBlank c = true) :
    trim (before ++ cs ++ after) = cs := by
  have left : trimLeft (before ++ cs ++ after) = cs ++ after := by
    rw [trimLeft, List.append_assoc, List.dropWhile_append_of_pos blank]
    cases cs with
    | nil => exact absurd rfl filled
    | cons c cs => simp [trimmed.head c rfl]
  have right : trimRight (cs ++ after) = trimRight cs := by
    rw [trimRight, List.reverse_append, List.dropWhile_append_of_pos fun c member =>
      blank' c (List.mem_reverse.mp member), trimRight]
  rw [trim, left, right, trimmed.trimRight_eq]

/-- A separator that is not blank keeps the ends of two trimmed texts where they are. -/
theorem IsTrimmed.append_cons {xs ys : List Char} (c : Char) (hxs : IsTrimmed xs) (hys : IsTrimmed ys)
    (hc : isBlank c = false) : IsTrimmed (xs ++ c :: ys) := by
  constructor
  · intro d hd
    cases xs with
    | nil => simpa [← Option.some.inj hd] using hc
    | cons x xs => exact hxs.head d hd
  · intro d hd
    cases ys with
    | nil =>
      rw [List.getLast?_append, List.getLast?_singleton] at hd
      simpa [← Option.some.inj hd] using hc
    | cons y ys =>
      rw [List.getLast?_append, List.getLast?_cons_cons] at hd
      exact hys.last d (by simpa using hd)

/-- A character that is not blank is kept by trimming. -/
theorem mem_trim {c : Char} (hc : isBlank c = false) (cs : List Char) : c ∈ trim cs ↔ c ∈ cs := by
  have dropped (ds : List Char) : c ∈ ds.dropWhile isBlank ↔ c ∈ ds := by
    induction ds with
    | nil => rfl
    | cons d ds ih =>
      by_cases hd : isBlank d = true
      · have : c ≠ d := by
          rintro rfl
          exact Bool.false_ne_true (hc.symm.trans hd)
        simp [List.dropWhile, hd, ih, this]
      · simp [List.dropWhile, hd]
  rw [trim, trimRight, List.mem_reverse, dropped, List.mem_reverse, trimLeft, dropped]

/-- Nothing is left of blanks, and of nothing else. -/
theorem trim_eq_nil_iff {cs : List Char} : trim cs = [] ↔ ∀ c ∈ cs, isBlank c = true := by
  constructor
  · intro nothing c member
    refine Bool.of_not_eq_false fun visible => ?_
    rw [← mem_trim visible, nothing] at member
    cases member
  · intro blank
    have left : trimLeft cs = [] := List.dropWhile_eq_nil_iff.mpr blank
    rw [trim, left]
    rfl

/-- Trimming takes off blanks at both ends. -/
theorem exists_trimmed_off (cs : List Char) :
    ∃ before after, cs = before ++ trim cs ++ after ∧
      (∀ c ∈ before, isBlank c = true) ∧ ∀ c ∈ after, isBlank c = true := by
  have right : trimLeft cs = trim cs ++ ((trimLeft cs).reverse.takeWhile isBlank).reverse := by
    rw [trim, trimRight, ← List.reverse_append, List.takeWhile_append_dropWhile, List.reverse_reverse]
  refine ⟨cs.takeWhile isBlank, ((trimLeft cs).reverse.takeWhile isBlank).reverse, ?_, ?_, ?_⟩
  · rw [List.append_assoc, ← right, trimLeft, List.takeWhile_append_dropWhile]
  · exact fun c member => List.mem_takeWhile_imp member
  · exact fun c member => List.mem_takeWhile_imp (List.mem_reverse.mp member)

theorem trim_sublist (cs : List Char) : (trim cs).Sublist cs := by
  have right : (trim cs).Sublist (trimLeft cs) := (List.rdropWhile_prefix isBlank (trimLeft cs)).sublist
  exact right.trans (List.dropWhile_sublist _)

theorem trim_subset (cs : List Char) : trim cs ⊆ cs :=
  (trim_sublist cs).subset

private theorem dropWhile_isBlank_map {f : Char → Char} (kept : ∀ c, isBlank (f c) = isBlank c) (cs : List Char) :
    (cs.map f).dropWhile isBlank = (cs.dropWhile isBlank).map f := by
  have same : isBlank ∘ f = isBlank := funext kept
  rw [List.dropWhile_map, same]

/-- Characters that are replaced by others just as blank or visible are trimmed as before. -/
theorem trim_map {f : Char → Char} (kept : ∀ c, isBlank (f c) = isBlank c) (cs : List Char) :
    trim (cs.map f) = (trim cs).map f := by
  rw [trim, trim, trimLeft, trimLeft, trimRight, trimRight, dropWhile_isBlank_map kept, ← List.map_reverse,
    dropWhile_isBlank_map kept, List.map_reverse]

private theorem flatMap_trimLeft {α : Type} {f : Char → List α} (nothing : ∀ c, isBlank c = true → f c = [])
    (cs : List Char) : (trimLeft cs).flatMap f = cs.flatMap f := by
  induction cs with
  | nil => rfl
  | cons c cs ih =>
    rw [trimLeft, List.dropWhile_cons]
    split
    next blank => rw [← trimLeft, ih, List.flatMap_cons, nothing c blank, List.nil_append]
    · rfl

/-- Blanks at the ends make no difference to what is read off each character when blanks give nothing. -/
theorem flatMap_trim {α : Type} {f : Char → List α} (nothing : ∀ c, isBlank c = true → f c = [])
    (cs : List Char) : (trim cs).flatMap f = cs.flatMap f := by
  have mirrored : ∀ c, isBlank c = true → (f c).reverse = [] := fun c blank => by
    rw [nothing c blank, List.reverse_nil]
  have right : (trimRight (trimLeft cs)).flatMap f = (trimLeft cs).flatMap f := by
    rw [trimRight, ← trimLeft, List.flatMap_reverse, Function.comp_def, flatMap_trimLeft mirrored,
      List.flatMap_reverse, Function.comp_def, List.reverse_reverse]
    simp only [List.reverse_reverse]
  rw [trim, right, flatMap_trimLeft nothing]

theorem cutAt_of_not_mem {c : Char} {cs : List Char} (h : c ∉ cs) : cutAt c cs = (cs, none) := by
  induction cs with
  | nil => rfl
  | cons d cs ih =>
    simp only [List.mem_cons, not_or] at h
    simp [cutAt, Ne.symm h.1, ih h.2]

theorem cutAt_append {c : Char} {xs : List Char} (h : c ∉ xs) (ys : List Char) :
    cutAt c (xs ++ c :: ys) = (xs, some ys) := by
  induction xs with
  | nil => simp [cutAt]
  | cons d xs ih =>
    simp only [List.mem_cons, not_or] at h
    simp [cutAt, Ne.symm h.1, ih h.2]

/-- What stands before the first separator holds none. -/
theorem not_mem_cutAt (c : Char) (cs : List Char) : c ∉ (cutAt c cs).1 := by
  induction cs with
  | nil => simp [cutAt]
  | cons d cs ih =>
    by_cases h : d = c
    · simp [cutAt, h]
    · simp [cutAt, h, ih, Ne.symm h]

/-- A cut text is what stands before the separator, the separator and what stands after it. -/
theorem eq_append_of_cutAt {c : Char} {cs xs ys : List Char} (h : cutAt c cs = (xs, some ys)) :
    cs = xs ++ c :: ys := by
  induction cs generalizing xs with
  | nil => simp [cutAt] at h
  | cons d cs ih =>
    by_cases hd : d = c
    · simp only [cutAt, hd, beq_self_eq_true, ↓reduceIte, Prod.mk.injEq, Option.some.injEq] at h
      obtain ⟨rfl, rfl⟩ := h
      simp [hd]
    · simp only [cutAt, beq_iff_eq, hd, ↓reduceIte, Prod.mk.injEq] at h
      obtain ⟨rfl, rest⟩ := h
      exact congrArg (d :: ·) (ih (Prod.ext rfl rest))

theorem eq_of_cutAt_none {c : Char} {cs xs : List Char} (h : cutAt c cs = (xs, none)) : cs = xs := by
  induction cs generalizing xs with
  | nil => simpa [cutAt] using h
  | cons d cs ih =>
    by_cases hd : d = c
    · simp [cutAt, hd] at h
    · simp only [cutAt, beq_iff_eq, hd, ↓reduceIte, Prod.mk.injEq] at h
      obtain ⟨rfl, rest⟩ := h
      exact congrArg (d :: ·) (ih (Prod.ext rfl rest))

/-- The first of the parts stands at the beginning. -/
theorem isPrefix_of_splitAt {separator : Char} {cs part : List Char} {parts : List (List Char)}
    (split : splitAt separator cs = part :: parts) : part <+: cs := by
  induction cs generalizing part parts with
  | nil =>
    cases split
    exact List.prefix_rfl
  | cons c cs ih =>
    rw [splitAt] at split
    split at split
    · cases split
      exact List.nil_prefix
    · cases rest : splitAt separator cs with
      | nil =>
        rw [rest] at split
        cases split
        exact List.cons_prefix_cons.mpr ⟨rfl, List.nil_prefix⟩
      | cons first others =>
        rw [rest] at split
        cases split
        exact List.cons_prefix_cons.mpr ⟨rfl, ih rest⟩

end DatasetForm.Text
