import DatasetForm.Format.Email
import DatasetForm.Proofs.Text.Split
import DatasetForm.Proofs.Value.Part

/-!
The grammar of addresses for electronic mail. An address is cut at its first at sign, which no local part holds, and split
at the dots after it, which no label holds.
-/

set_option autoImplicit false
set_option relaxedAutoImplicit false

namespace DatasetForm

namespace Format

open Text (isAlnum cutAt trim IsJoined)

/-- The marks that may stand in a local part beside ASCII letters and digits. -/
def localMarks : List Char :=
  ".!#$%&'*+/=?^_\x60\x7b|\x7d~-".toList

/-- A label of a domain: 1 to 63 ASCII letters, ASCII digits and hyphens, with no hyphen at either end. -/
structure IsLabel (label : List Char) : Prop where
  filled : 1 ≤ label.length
  short : label.length ≤ 63
  chars : ∀ c ∈ label, isAlnum c = true ∨ c = '-'
  head : label.head? ≠ some '-'
  last : label.getLast? ≠ some '-'

/-- A local part, an at sign and one or more labels with dots between them. -/
inductive IsEmailText : List Char → Prop
  | address {localPart domain : List Char} : localPart ≠ [] → (∀ c ∈ localPart, isAlnum c = true ∨ c ∈ localMarks) →
      IsJoined '.' IsLabel domain → IsEmailText (localPart ++ '@' :: domain)

theorem isLocalChar_iff {c : Char} : isLocalChar c = true ↔ isAlnum c = true ∨ c ∈ localMarks := by
  rw [← List.contains_iff_mem, ← Bool.or_eq_true]
  exact Iff.rfl

/-- Where only letters, digits and hyphens stand, a character that is no hyphen is a letter or digit. -/
private theorem isAlnum_iff_ne_hyphen {found : Option Char} (exist : found ≠ none)
    (chars : ∀ c ∈ found, isAlnum c = true ∨ c = '-') :
    (found.map isAlnum).getD false = true ↔ found ≠ some '-' := by
  cases found with
  | none => exact absurd rfl exist
  | some c =>
    rw [Option.map_some, Option.getD_some, Ne, Option.some.injEq]
    constructor
    · rintro alnum rfl
      exact absurd alnum (by decide)
    · intro other
      exact (chars c rfl).resolve_right other

theorem isDomainLabel_iff {label : List Char} : isDomainLabel label = true ↔ IsLabel label := by
  simp only [isDomainLabel, Bool.and_eq_true, decide_eq_true_eq, List.all_eq_true, Bool.or_eq_true, beq_iff_eq]
  constructor
  · rintro ⟨⟨⟨short, chars⟩, head⟩, last⟩
    have filled : label ≠ [] := by
      rintro rfl
      cases head
    refine ⟨List.length_pos_iff.mpr filled, short, chars, ?_, ?_⟩
    · refine (isAlnum_iff_ne_hyphen (by simpa using filled) ?_).mp head
      intro c first
      exact chars c (List.mem_of_mem_head? first)
    · refine (isAlnum_iff_ne_hyphen (by simpa using filled) ?_).mp last
      intro c final
      exact chars c (List.mem_of_getLast? final)
  · intro form
    have filled : label ≠ [] := List.length_pos_iff.mp form.filled
    refine ⟨⟨⟨form.short, form.chars⟩, ?_⟩, ?_⟩
    · refine (isAlnum_iff_ne_hyphen (by simpa using filled) ?_).mpr form.head
      intro c first
      exact form.chars c (List.mem_of_mem_head? first)
    · refine (isAlnum_iff_ne_hyphen (by simpa using filled) ?_).mpr form.last
      intro c final
      exact form.chars c (List.mem_of_getLast? final)

/-- A label may have 63 characters and no more. -/
example : isDomainLabel (List.replicate 63 'b') = true ∧ isDomainLabel (List.replicate 64 'b') = false := by
  decide

theorem IsLabel.dot_not_mem {label : List Char} (form : IsLabel label) : '.' ∉ label := by
  intro member
  rcases form.chars '.' member with alnum | hyphen
  · exact absurd alnum (by decide)
  · exact absurd hyphen (by decide)

theorem isEmail_iff {cs : List Char} : isEmail cs = true ↔ IsEmailText cs := by
  constructor
  · intro email
    rw [isEmail] at email
    split at email
    next localPart domain cut =>
      simp only [Bool.and_eq_true, Bool.not_eq_true', List.isEmpty_eq_false_iff, List.all_eq_true, isLocalChar_iff,
        isDomainLabel_iff] at email
      obtain ⟨⟨filled, chars⟩, labels⟩ := email
      obtain ⟨-, rfl⟩ := Text.cutAt_eq_iff.mp cut
      exact .address filled chars ((Text.isJoined_iff fun _ form => form.dot_not_mem).mpr labels)
    · cases email
  · rintro (@⟨localPart, domain, filled, chars, labels⟩)
    have free : '@' ∉ localPart := by
      intro member
      rcases chars '@' member with alnum | mark
      · exact absurd alnum (by decide)
      · exact absurd mark (by decide)
    rw [isEmail, Text.cutAt_append free]
    simp only [Bool.and_eq_true, Bool.not_eq_true', List.isEmpty_eq_false_iff, List.all_eq_true, isLocalChar_iff,
      isDomainLabel_iff]
    exact ⟨⟨filled, chars⟩, (Text.isJoined_iff fun _ form => form.dot_not_mem).mp labels⟩

/-- An address is accepted exactly when, blanks around it aside, it is written by the grammar. -/
theorem checkEmail_exact (text : String) :
    (checkEmail (.text text)).isAccepted = true ↔ IsEmailText (trim text.toList) := by
  rw [← isEmail_iff, ← toList_trimmedText, checkEmail]
  cases blank : (Value.text text).isBlank with
  | true =>
    have empty : (Value.text text).trimmedText.toList = [] := by
      rw [toList_trimmedText, (isBlank_text_iff text).mp blank]
    rw [empty]
    simp [Verdict.isAccepted, isEmail, cutAt]
  | false =>
    cases isEmail (Value.text text).trimmedText.toList with
    | true => simp [Verdict.isAccepted]
    | false => simp [Verdict.isAccepted]

end Format

end DatasetForm
