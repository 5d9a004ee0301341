import DatasetForm.Dates.Token

/-!
The zone at the end of a date token. What follows the `T` ends in a `Z`, in an offset with or without a colon, or
in neither (`zone_cases`), and `splitZone` takes off exactly that.
-/

set_option autoImplicit false
set_option relaxedAutoImplicit false

namespace DatasetForm

open Text (isDigit)

/-- An offset from universal time: a sign, two digits for hours and two for minutes. -/
structure Offset where
  sign : Char
  h₁ : Char
  h₂ : Char
  m₁ : Char
  m₂ : Char
  isSign : DateToken.isSign sign = true
  areDigits : [m₂, m₁, h₂, h₁].all isDigit = true

namespace Offset

/-- The offset with a colon between hours and minutes. -/
def chars (o : Offset) : List Char :=
  [o.sign, o.h₁, o.h₂, ':', o.m₁, o.m₂]

/-- The offset without a colon. -/
def compact (o : Offset) : List Char :=
  [o.sign, o.h₁, o.h₂, o.m₁, o.m₂]

/-- An offset holds digits, a sign and perhaps a colon, and nothing else. -/
theorem not_mem {c : Char} (digit : isDigit c = false) (sign : DateToken.isSign c = false) (colon : c ≠ ':')
    (o : Offset) : c ∉ o.chars ∧ c ∉ o.compact := by
  have digits : c ∉ [o.m₂, o.m₁, o.h₂, o.h₁] := by
    intro member
    have found := List.all_eq_true.mp o.areDigits c member
    rw [digit] at found
    cases found
  have signs : c ≠ o.sign := by
    rintro rfl
    rw [o.isSign] at sign
    cases sign
  simp only [List.mem_cons, List.not_mem_nil, or_false, not_or] at digits
  obtain ⟨m₂, m₁, h₂, h₁⟩ := digits
  constructor
  · simp [chars, signs, h₁, h₂, m₁, m₂, colon]
  · simp [compact, signs, h₁, h₂, m₁, m₂]

end Offset

namespace DateToken

theorem splitOffset?_chars (o : Offset) (rest : List Char) :
    splitOffset? (o.chars.reverse ++ rest) = some (rest, o.chars) := by
  have digits := o.areDigits
  have sign := o.isSign
  simp only [Offset.chars, List.reverse_cons, List.reverse_nil, List.nil_append, List.cons_append]
  rw [splitOffset?, if_pos (by rw [digits, sign]; rfl)]

theorem splitOffset?_compact (o : Offset) (rest : List Char) :
    splitOffset? (o.compact.reverse ++ rest) = some (rest, o.chars) := by
  have digits := o.areDigits
  have sign := o.isSign
  have colon : o.h₂ ≠ ':' := by
    intro same
    rw [same] at digits
    revert digits
    simp only [List.all_cons, Bool.and_eq_true]
    rintro ⟨-, -, never, -⟩
    revert never
    decide
  simp only [Offset.compact, List.reverse_cons, List.reverse_nil, List.nil_append, List.cons_append]
  rw [splitOffset?, if_pos (by rw [digits, sign]; rfl)]
  · rfl
  · intro _ _ same _
    exact absurd same colon

theorem splitOffset?_eq_some_iff {reversed rest offset : List Char} :
    splitOffset? reversed = some (rest, offset) ↔ ∃ o : Offset, offset = o.chars ∧
      (reversed = o.chars.reverse ++ rest ∨ reversed = o.compact.reverse ++ rest) := by
  constructor
  · intro found
    unfold splitOffset? at found
    split at found
    next m₂ m₁ h₂ h₁ sign _ =>
      split at found
      next valid =>
        obtain ⟨digits, isSign⟩ := Bool.and_eq_true_iff.mp valid
        cases found
        exact ⟨⟨sign, h₁, h₂, m₁, m₂, isSign, digits⟩, rfl, .inl rfl⟩
      · cases found
    next m₂ m₁ h₂ h₁ sign _ _ =>
      split at found
      next valid =>
        obtain ⟨digits, isSign⟩ := Bool.and_eq_true_iff.mp valid
        cases found
        exact ⟨⟨sign, h₁, h₂, m₁, m₂, isSign, digits⟩, rfl, .inr rfl⟩
      · cases found
    · cases found
  · rintro ⟨o, rfl, rfl | rfl⟩
    · exact splitOffset?_chars o rest
    · exact splitOffset?_compact o rest

/-- What follows the `T` of a token ends in no zone. -/
structure IsBare (cs : List Char) : Prop where
  universal : ∀ rest, cs ≠ rest ++ ['Z']
  offset : ∀ rest (o : Offset), cs ≠ rest ++ o.chars ∧ cs ≠ rest ++ o.compact

theorem splitZone_universal (rest : List Char) : splitZone (rest ++ ['Z']) = (rest, some ['Z']) := by
  simp [splitZone]

private theorem reverse_ne_universal {cs : List Char} {c : Char} (last : c ∈ cs.getLast?) (other : c ≠ 'Z')
    (rest : List Char) : cs.reverse ≠ 'Z' :: rest := by
  intro reversed
  rw [List.getLast?_eq_head?_reverse, reversed] at last
  exact other (Option.some.inj last).symm

private theorem splitZone_offset {cs rest : List Char} {o : Offset} (ends : o.m₂ ∈ cs.getLast?)
    (split : splitOffset? cs.reverse = some (rest.reverse, o.chars)) :
    splitZone cs = (rest, some o.chars) := by
  have digit : o.m₂ ≠ 'Z' := by
    intro same
    have digits := o.areDigits
    rw [same] at digits
    cases digits
  rw [splitZone]
  split
  next other reversed => exact absurd reversed (reverse_ne_universal ends digit other)
  next => simp only [split, List.reverse_reverse]

theorem splitZone_chars (rest : List Char) (o : Offset) :
    splitZone (rest ++ o.chars) = (rest, some o.chars) := by
  refine splitZone_offset (by simp [Offset.chars]) ?_
  rw [List.reverse_append]
  exact splitOffset?_chars o _

theorem splitZone_compact (rest : List Char) (o : Offset) :
    splitZone (rest ++ o.compact) = (rest, some o.chars) := by
  refine splitZone_offset (by simp [Offset.compact]) ?_
  rw [List.reverse_append]
  exact splitOffset?_compact o _

theorem splitZone_bare {cs : List Char} (bare : IsBare cs) : splitZone cs = (cs, none) := by
  rw [splitZone]
  split
  next rest reversed =>
    refine absurd ?_ (bare.universal rest.reverse)
    rw [← List.reverse_inj, reversed, List.reverse_append, List.reverse_reverse]
    rfl
  next =>
    split
    next rest offset found =>
      obtain ⟨o, -, reversed⟩ := splitOffset?_eq_some_iff.mp found
      obtain ⟨long, short⟩ := bare.offset rest.reverse o
      rcases reversed with same | same
      · refine absurd ?_ long
        rw [← List.reverse_inj, same, List.reverse_append, List.reverse_reverse]
      · refine absurd ?_ short
        rw [← List.reverse_inj, same, List.reverse_append, List.reverse_reverse]
    · rfl

/-- What follows the `T` ends in a `Z`, in an offset of either spelling, or in no zone. -/
theorem zone_cases (cs : List Char) :
    (∃ rest, cs = rest ++ ['Z']) ∨ (∃ rest, ∃ o : Offset, cs = rest ++ o.chars ∨ cs = rest ++ o.compact) ∨
      IsBare cs := by
  by_cases universal : ∃ rest, cs = rest ++ ['Z']
  · exact .inl universal
  · by_cases offset : ∃ rest, ∃ o : Offset, cs = rest ++ o.chars ∨ cs = rest ++ o.compact
    · exact .inr (.inl offset)
    · refine .inr (.inr ⟨?_, ?_⟩)
      · exact fun rest same => universal ⟨rest, same⟩
      · intro rest o
        exact ⟨fun same => offset ⟨rest, o, .inl same⟩, fun same => offset ⟨rest, o, .inr same⟩⟩

theorem isBare_iff (cs : List Char) : IsBare cs ↔ (splitZone cs).2 = none := by
  constructor
  · intro bare
    rw [splitZone_bare bare]
  · intro none
    obtain ⟨rest, rfl⟩ | ⟨rest, o, rfl | rfl⟩ | bare := zone_cases cs
    · rw [splitZone_universal] at none
      cases none
    · rw [splitZone_chars] at none
      cases none
    · rw [splitZone_compact] at none
      cases none
    · exact bare

end DateToken

end DatasetForm
