import DatasetForm.Proofs.Format.Canonical
import DatasetForm.Proofs.Text.Split

/-!
The grammar of digital object identifiers, over any notion of a digit. Cutting an identifier at its first slash, and what
stands before it at its dots, accepts what the grammar makes (`isDoi_iff`). Since an identifier begins with a digit and no
resolver does, at most one resolver is found before it.
-/

set_option autoImplicit false
set_option relaxedAutoImplicit false

namespace DatasetForm

namespace Format

open Text (isDigit isBlank cutAt splitAt joinRuns trim dropResolver dropLowered IsResolver)

section Grammar

variable (digit : Char → Bool)

/-- The part before the slash: `10`, a group of at least four digits and further groups, with dots between them. -/
inductive IsRegistrant : List Char → Prop
  | groups {first : List Char} {others : List (List Char)} : 4 ≤ first.length →
      (∀ group ∈ first :: others, group ≠ [] ∧ ∀ c ∈ group, digit c = true) →
      IsRegistrant (joinRuns '.' (['1', '0'] :: first :: others))

/-- A registrant, a slash and a suffix without blanks in it. -/
inductive IsDoiText : List Char → Prop
  | slash {registrant suffix : List Char} : IsRegistrant digit registrant → suffix ≠ [] →
      (∀ c ∈ suffix, isBlank c = false) → IsDoiText (registrant ++ '/' :: suffix)

end Grammar

section Registrant

variable {digit : Char → Bool} {cs : List Char} {c : Char}

theorem IsRegistrant.mem (registered : IsRegistrant digit cs) (member : c ∈ cs) :
    digit c = true ∨ c ∈ ['1', '0', '.'] := by
  obtain ⟨-, digits⟩ := registered
  rcases Text.mem_joinRuns member with rfl | ⟨group, found, inside⟩
  · exact .inr (by simp)
  · rcases List.mem_cons.mp found with rfl | other
    · exact .inr (List.mem_append_left ['.'] inside)
    · exact .inl ((digits group other).2 c inside)

theorem IsRegistrant.slash_not_mem (registered : IsRegistrant isDigit cs) : '/' ∉ cs := by
  intro member
  rcases registered.mem member with digit | mark
  · exact absurd digit (by decide)
  · exact absurd mark (by decide)

theorem isDigitGroup_iff {least : Nat} : isDigitGroup least cs = true ↔ least ≤ cs.length ∧ ∀ c ∈ cs, isDigit c = true := by
  rw [isDigitGroup, Bool.and_eq_true, decide_eq_true_eq, List.all_eq_true]

theorem isRegistrant_iff : isRegistrant cs = true ↔ IsRegistrant isDigit cs := by
  constructor
  · intro registered
    rw [isRegistrant] at registered
    split at registered
    next directory first others split =>
      rw [Bool.and_eq_true, Bool.and_eq_true, beq_iff_eq, isDigitGroup_iff, List.all_eq_true] at registered
      obtain ⟨⟨rfl, four, digits⟩, grouped⟩ := registered
      obtain ⟨-, -, rfl⟩ := Text.splitAt_eq_iff.mp split
      refine .groups four (List.forall_mem_cons.mpr ⟨⟨?_, digits⟩, ?_⟩)
      · exact List.ne_nil_of_length_pos (by omega)
      · intro group member
        obtain ⟨one, digits'⟩ := isDigitGroup_iff.mp (grouped group member)
        exact ⟨List.ne_nil_of_length_pos one, digits'⟩
    · cases registered
  · rintro (@⟨first, others, four, digits⟩)
    have free : ∀ group ∈ ['1', '0'] :: first :: others, '.' ∉ group := by
      refine List.forall_mem_cons.mpr ⟨by decide, ?_⟩
      intro group member inside
      exact absurd ((digits group member).2 '.' inside) (by decide)
    have split : splitAt '.' (joinRuns '.' (['1', '0'] :: first :: others)) = ['1', '0'] :: first :: others :=
      Text.splitAt_joinRuns (by simp) free
    rw [List.forall_mem_cons] at digits
    rw [isRegistrant, split]
    simp only [Bool.and_eq_true, isDigitGroup_iff, List.all_eq_true]
    refine ⟨⟨beq_self_eq_true _, four, digits.1.2⟩, ?_⟩
    intro group member
    obtain ⟨filled, digits'⟩ := digits.2 group member
    exact ⟨List.length_pos_iff.mpr filled, digits'⟩

end Registrant

theorem isDoi_iff {cs : List Char} : isDoi cs = true ↔ IsDoiText isDigit cs := by
  constructor
  · intro doi
    rw [isDoi] at doi
    split at doi
    next registrant suffix cut =>
      simp only [Bool.and_eq_true, isRegistrant_iff, Bool.not_eq_true', List.isEmpty_eq_false_iff,
        List.all_eq_true] at doi
      obtain ⟨⟨registered, filled⟩, visible⟩ := doi
      obtain ⟨-, rfl⟩ := Text.cutAt_eq_iff.mp cut
      exact .slash registered filled visible
    · cases doi
  · rintro ⟨registered, filled, visible⟩
    rw [isDoi, Text.cutAt_append registered.slash_not_mem]
    simp only [Bool.and_eq_true, isRegistrant_iff, Bool.not_eq_true', List.isEmpty_eq_false_iff, List.all_eq_true]
    exact ⟨⟨registered, filled⟩, visible⟩

/-! ## Accepted identifiers -/

theorem checkDoi_text_iff {text normal : String} :
    checkDoi (.text text) = .accepted (some normal) ↔
      IsDoiText isDigit normal.toList ∧ dropResolver doiPrefixes (trim text.toList) = normal.toList := by
  rw [checkDoi_eq_accepted_iff, toList_trimmedText, isDoi_iff, ← String.toList_inj, String.toList_ofList]
  constructor
  · rintro ⟨doi, same⟩
    exact ⟨same ▸ doi, same.symm⟩
  · rintro ⟨doi, same⟩
    exact ⟨same ▸ doi, same.symm⟩

/-- An accepted identifier always has a normal form. -/
theorem isAccepted_checkDoi_iff {v : Value} :
    (checkDoi v).isAccepted = true ↔ ∃ normal, checkDoi v = .accepted (some normal) := by
  constructor
  · intro accepted
    rw [checkDoi] at accepted ⊢
    split at accepted
    · cases accepted
    next filled =>
      rw [if_neg filled]
      split at accepted
      next doi => exact ⟨_, if_pos doi⟩
      · cases accepted
  · rintro ⟨normal, accepted⟩
    rw [accepted]
    rfl

theorem dropResolver_eq_doi_iff {cs bare : List Char} (doi : IsDoiText isDigit bare) :
    dropResolver doiPrefixes cs = bare ↔ ∃ resolver, IsResolver doiPrefixes resolver ∧ cs = resolver ++ bare := by
  obtain ⟨ds, rfl, -⟩ := exists_of_isDoi (isDoi_iff.mpr doi)
  exact areResolvers_doiPrefixes.dropResolver_eq_iff (by decide)

/-- A text is accepted exactly when it is written by the grammar, but for blanks around it and one resolver at most before
it, which may be looked for in the lower case of the text as well. What the grammar wrote is the normal form. -/
theorem checkDoi_exact :
    (∀ text : String, (checkDoi (.text text)).isAccepted = true ↔
      ∃ resolver bare, IsResolver doiPrefixes resolver ∧ IsDoiText isDigit bare ∧ trim text.toList = resolver ++ bare) ∧
    (∀ text normal : String, checkDoi (.text text) = .accepted (some normal) ↔
      ∃ resolver, IsResolver doiPrefixes resolver ∧ IsDoiText isDigit normal.toList ∧
        trim text.toList = resolver ++ normal.toList) ∧
    ∀ text normal : String, checkDoi (.text text) = .accepted (some normal) ↔
      IsDoiText isDigit normal.toList ∧ dropLowered doiPrefixes (trim text.toList) = normal.toList := by
  have normal_iff (text normal : String) : checkDoi (.text text) = .accepted (some normal) ↔
      ∃ resolver, IsResolver doiPrefixes resolver ∧ IsDoiText isDigit normal.toList ∧
        trim text.toList = resolver ++ normal.toList := by
    rw [checkDoi_text_iff]
    constructor
    · rintro ⟨doi, bare⟩
      obtain ⟨resolver, resolves, split⟩ := (dropResolver_eq_doi_iff doi).mp bare
      exact ⟨resolver, resolves, doi, split⟩
    · rintro ⟨resolver, resolves, doi, split⟩
      exact ⟨doi, (dropResolver_eq_doi_iff doi).mpr ⟨resolver, resolves, split⟩⟩
  refine ⟨?_, normal_iff, ?_⟩
  · intro text
    rw [isAccepted_checkDoi_iff]
    constructor
    · rintro ⟨normal, accepted⟩
      obtain ⟨resolver, resolves, doi, split⟩ := (normal_iff text normal).mp accepted
      exact ⟨resolver, normal.toList, resolves, doi, split⟩
    · rintro ⟨resolver, bare, resolves, doi, split⟩
      refine ⟨String.ofList bare, (normal_iff text _).mpr ⟨resolver, resolves, ?_, ?_⟩⟩
      · rwa [String.toList_ofList]
      · rwa [String.toList_ofList]
  · intro text normal
    rw [← Text.dropResolver_eq_dropLowered areResolvers_doiPrefixes.plain]
    exact checkDoi_text_iff

/-- One resolver is taken off and no more. -/
example : (checkDoi (.text "doi:10.5880/GFZ.1.2")).normal? = some "10.5880/GFZ.1.2" ∧
    (checkDoi (.text "doi:doi:10.5880/GFZ.1.2")).isAccepted = false := by
  decide

end Format

end DatasetForm
