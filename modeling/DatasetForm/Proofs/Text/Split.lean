import DatasetForm.Proofs.Text.Runs
import DatasetForm.Proofs.Text.Trim

/-!
Cutting a text at its first separator, and splitting it at every one. Both are undone by putting the separators back, and
no other parts without a separator make up the same text (`cutAt_eq_iff`, `splitAt_eq_iff`).
-/

set_option autoImplicit false
set_option relaxedAutoImplicit false

namespace DatasetForm.Text

variable {separator : Char} {cs : List Char} {parts : List (List Char)}

/-- A text behind a mark, or nothing. -/
def marked (mark : Char) : Option (List Char) → List Char
  | none => []
  | some cs => mark :: cs

theorem cutAt_eq_iff {before : List Char} {after : Option (List Char)} :
    cutAt separator cs = (before, after) ↔ separator ∉ before ∧ cs = before ++ marked separator after := by
  constructor
  · intro cut
    have free : separator ∉ before := by
      have first := not_mem_cutAt separator cs
      rwa [cut] at first
    cases after with
    | none =>
      rw [marked, List.append_nil]
      exact ⟨free, eq_of_cutAt_none cut⟩
    | some rest => exact ⟨free, eq_append_of_cutAt cut⟩
  · rintro ⟨free, rfl⟩
    cases after with
    | none => rw [marked, List.append_nil, cutAt_of_not_mem free]
    | some rest => exact cutAt_append free rest

/-! ## Parts between separators -/

theorem exists_splitAt_eq_cons (separator : Char) (cs : List Char) : ∃ part parts, splitAt separator cs = part :: parts := by
  cases cs with
  | nil => exact ⟨[], [], rfl⟩
  | cons c cs =>
    rw [splitAt]
    split
    · exact ⟨[], _, rfl⟩
    · split
      · exact ⟨[c], [], rfl⟩
      next part parts _ => exact ⟨c :: part, parts, rfl⟩

theorem splitAt_cons_self (separator : Char) (cs : List Char) :
    splitAt separator (separator :: cs) = [] :: splitAt separator cs := by
  rw [splitAt, if_pos (beq_self_eq_true separator)]

theorem splitAt_cons_of_ne {c : Char} {part : List Char} (other : c ≠ separator)
    (split : splitAt separator cs = part :: parts) : splitAt separator (c :: cs) = (c :: part) :: parts := by
  rw [splitAt, if_neg (by simpa using other), split]

theorem joinRuns_cons_char (c : Char) (part : List Char) (parts : List (List Char)) :
    joinRuns separator ((c :: part) :: parts) = c :: joinRuns separator (part :: parts) := by
  cases parts with
  | nil => rfl
  | cons next others => rfl

/-- The parts hold no separator, and with separators between them they are the text. -/
theorem splitAt_spec (separator : Char) (cs : List Char) :
    (∀ part ∈ splitAt separator cs, separator ∉ part) ∧ joinRuns separator (splitAt separator cs) = cs := by
  induction cs with
  | nil => simp [splitAt, joinRuns]
  | cons c cs ih =>
    obtain ⟨part, parts, split⟩ := exists_splitAt_eq_cons separator cs
    rw [split, List.forall_mem_cons] at ih
    obtain ⟨⟨first, later⟩, joined⟩ := ih
    by_cases same : c = separator
    · rw [same, splitAt_cons_self, split, joinRuns_cons_cons, joined]
      refine ⟨?_, rfl⟩
      rw [List.forall_mem_cons, List.forall_mem_cons]
      exact ⟨List.not_mem_nil, first, later⟩
    · rw [splitAt_cons_of_ne same split, joinRuns_cons_char, joined]
      refine ⟨?_, rfl⟩
      rw [List.forall_mem_cons, List.mem_cons, not_or]
      exact ⟨⟨Ne.symm same, first⟩, later⟩

theorem splitAt_of_not_mem (free : separator ∉ cs) : splitAt separator cs = [cs] := by
  induction cs with
  | nil => rfl
  | cons c cs ih =>
    rw [List.mem_cons, not_or] at free
    exact splitAt_cons_of_ne (Ne.symm free.1) (ih free.2)

theorem splitAt_append {part : List Char} (free : separator ∉ part) (cs : List Char) :
    splitAt separator (part ++ separator :: cs) = part :: splitAt separator cs := by
  induction part with
  | nil => exact splitAt_cons_self separator cs
  | cons c part ih =>
    rw [List.mem_cons, not_or] at free
    exact splitAt_cons_of_ne (Ne.symm free.1) (ih free.2)

theorem splitAt_joinRuns (filled : parts ≠ []) (free : ∀ part ∈ parts, separator ∉ part) :
    splitAt separator (joinRuns separator parts) = parts := by
  induction parts with
  | nil => exact absurd rfl filled
  | cons part others ih =>
    rw [List.forall_mem_cons] at free
    cases others with
    | nil => exact splitAt_of_not_mem free.1
    | cons next others =>
      rw [joinRuns_cons_cons, splitAt_append free.1, ih (List.cons_ne_nil next others) free.2]

theorem splitAt_eq_iff :
    splitAt separator cs = parts ↔
      parts ≠ [] ∧ (∀ part ∈ parts, separator ∉ part) ∧ cs = joinRuns separator parts := by
  constructor
  · rintro rfl
    obtain ⟨part, parts, split⟩ := exists_splitAt_eq_cons separator cs
    obtain ⟨free, joined⟩ := splitAt_spec separator cs
    exact ⟨split ▸ List.cons_ne_nil part parts, free, joined.symm⟩
  · rintro ⟨filled, free, rfl⟩
    exact splitAt_joinRuns filled free

/-- One or more parts of a form, with separators between them. -/
def IsJoined (separator : Char) (IsPart : List Char → Prop) (cs : List Char) : Prop :=
  ∃ parts, parts ≠ [] ∧ (∀ part ∈ parts, IsPart part) ∧ cs = joinRuns separator parts

/-- Of parts that hold no separator, a text is made up in one way only. -/
theorem isJoined_iff {IsPart : List Char → Prop} (free : ∀ part, IsPart part → separator ∉ part) :
    IsJoined separator IsPart cs ↔ ∀ part ∈ splitAt separator cs, IsPart part := by
  constructor
  · rintro ⟨parts, filled, each, rfl⟩
    have whole : ∀ part ∈ parts, separator ∉ part := by
      intro part member
      exact free part (each part member)
    rw [splitAt_joinRuns filled whole]
    exact each
  · intro each
    obtain ⟨filled, -, joined⟩ := splitAt_eq_iff.mp (rfl : splitAt separator cs = _)
    exact ⟨splitAt separator cs, filled, each, joined⟩

theorem IsJoined.mem {IsPart : List Char → Prop} {c : Char} (joined : IsJoined separator IsPart cs) (member : c ∈ cs) :
    c = separator ∨ ∃ part, IsPart part ∧ c ∈ part := by
  obtain ⟨parts, -, each, rfl⟩ := joined
  rcases mem_joinRuns member with between | ⟨part, found, inside⟩
  · exact .inl between
  · exact .inr ⟨part, each part found, inside⟩

theorem IsJoined.map {IsPart IsPart' : List Char → Prop} {f : Char → Char} (fixed : f separator = separator)
    (each : ∀ part, IsPart part → IsPart' (part.map f)) (joined : IsJoined separator IsPart cs) :
    IsJoined separator IsPart' (cs.map f) := by
  obtain ⟨parts, filled, forms, rfl⟩ := joined
  refine ⟨parts.map (List.map f), by simpa using filled, ?_, by rw [map_joinRuns, fixed]⟩
  intro part' member
  obtain ⟨part, found, rfl⟩ := List.mem_map.mp member
  exact each part (forms part found)

theorem map_marked {mark : Char} {f : Char → Char} (fixed : f mark = mark) (suffix : Option (List Char)) :
    (marked mark suffix).map f = marked mark (suffix.map (List.map f)) := by
  cases suffix with
  | none => rfl
  | some cs => rw [marked, List.map_cons, fixed, Option.map_some, marked]

theorem not_mem_joinRuns {c : Char} (other : c ≠ separator) (free : ∀ part ∈ parts, c ∉ part) :
    c ∉ joinRuns separator parts := by
  intro member
  rcases mem_joinRuns member with between | ⟨part, found, inside⟩
  · exact other between
  · exact free part found inside

end DatasetForm.Text
