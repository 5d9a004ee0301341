import DatasetForm.Proofs.Text.Runs
import DatasetForm.Title.Slug

/-!
Slugs: words of small letters and digits with hyphens between them. A slug is its own slug.
-/

set_option autoImplicit false
set_option relaxedAutoImplicit false

namespace DatasetForm

namespace Text

theorem isCapital_eq_false {c : Char} (small : isLowerAlnum c = true) : isCapital c = false := by
  simp only [isLowerAlnum, isCapital, Bool.or_eq_true, Bool.and_eq_true, Bool.and_eq_false_iff,
    decide_eq_true_eq, decide_eq_false_iff_not] at small ⊢
  omega

theorem lowerAscii_eq_self {c : Char} (small : isLowerAlnum c = true) : lowerAscii c = c := by
  have notCapital := isCapital_eq_false small
  rw [isCapital] at notCapital
  rw [lowerAscii, notCapital, if_neg Bool.false_ne_true]

private theorem isLowerAlnum_ofNat :
    ∀ code ∈ List.range' 0x41 26, isLowerAlnum (Char.ofNat (code + 0x20)) = true := by
  decide

theorem isLowerAlnum_lowerAscii {c : Char} (alnum : isAlnum c = true) :
    isLowerAlnum (lowerAscii c) = true := by
  cases capital : isCapital c with
  | false =>
    have small : isLowerAlnum c = true := by simpa [isAlnum, capital] using alnum
    rwa [lowerAscii_eq_self small]
  | true =>
    rw [isCapital] at capital
    rw [lowerAscii, capital, if_pos rfl]
    simp only [Bool.and_eq_true, decide_eq_true_eq] at capital
    exact isLowerAlnum_ofNat c.toNat (List.mem_range'_1.mpr (by omega))

end Text

namespace Title

open Text (IsParted IsRun isLowerAlnum lowerAscii isCapital joinRuns)

/-- A separator parts the words before it from those behind it. -/
theorem slugWords_append_cons {c : Char} (separated : separatesWords c = true) (before after : List Char) :
    slugWords (before ++ c :: after) = slugWords before ++ slugWords after := by
  have plain := separated
  rw [separatesWords, Bool.not_eq_true', Text.isAlnum, Bool.or_eq_false_iff] at plain
  obtain ⟨notSmall, notCapital⟩ := plain
  have between : (c :: after).head?.any isCapital = false := notCapital
  have behind : Text.breakCamel '-' (c :: after) = c :: Text.breakCamel '-' after := by
    have ends : [c].getLast?.any isLowerAlnum = false := notSmall
    have alone : Text.breakCamel '-' [c] = [c] := rfl
    rw [← List.singleton_append, Text.breakCamel_append, ends, alone, Bool.false_and, if_neg Bool.false_ne_true,
      List.append_nil, List.singleton_append]
  rw [slugWords, Text.breakCamel_append, between, Bool.and_false, if_neg Bool.false_ne_true, List.append_nil, behind,
    Text.runs_append_cons separated, ← slugWords, ← slugWords]

theorem isParted_slugWords : IsParted separatesWords slugWords :=
  ⟨rfl, fun _ => slugWords_append_cons⟩

/-- A word of a slug: small letters and digits, at least one. -/
structure IsSlugWord (word : List Char) : Prop where
  filled : word ≠ []
  small : ∀ c ∈ word, isLowerAlnum c = true

theorem IsSlugWord.isRun {word : List Char} (h : IsSlugWord word) : IsRun separatesWords word := by
  refine ⟨h.filled, fun c member => ?_⟩
  rw [separatesWords, Text.isAlnum, h.small c member]
  rfl

theorem isSlugWord_map_lowerAscii {word : List Char} (h : IsRun separatesWords word) :
    IsSlugWord (word.map lowerAscii) := by
  constructor
  · simpa using h.filled
  · rw [List.forall_mem_map]
    intro c member
    exact Text.isLowerAlnum_lowerAscii (by simpa [separatesWords] using h.whole c member)

theorem exists_words_slugChars (cs : List Char) :
    ∃ words, (∀ word ∈ words, IsSlugWord word) ∧ slugChars cs = joinRuns '-' words := by
  refine ⟨(slugWords cs).map (List.map lowerAscii), ?_, Text.map_joinRuns lowerAscii '-' (slugWords cs)⟩
  rw [List.forall_mem_map]
  intro word member
  exact isSlugWord_map_lowerAscii (Text.isRun_of_mem_runs member)

/-- Words of slugs with hyphens between them are a slug already. -/
theorem slugChars_joinRuns {words : List (List Char)} (each : ∀ word ∈ words, IsSlugWord word) :
    slugChars (joinRuns '-' words) = joinRuns '-' words := by
  have small : ∀ c ∈ joinRuns '-' words, isCapital c = false := by
    intro c member
    rcases Text.mem_joinRuns member with rfl | ⟨word, found, inside⟩
    · rfl
    · exact Text.isCapital_eq_false ((each word found).small c inside)
  have apart : slugWords (joinRuns '-' words) = words := by
    rw [slugWords, Text.breakCamel_eq_self '-' small]
    exact Text.runs_joinRuns rfl fun word found => (each word found).isRun
  have lowered : words.map (List.map lowerAscii) = words := by
    refine (List.map_congr_left fun word found => ?_).trans (List.map_id words)
    refine (List.map_congr_left fun c inside => ?_).trans (List.map_id word)
    exact Text.lowerAscii_eq_self ((each word found).small c inside)
  rw [slugChars, apart, Text.map_joinRuns, lowered]
  rfl

@[simp] theorem slug_slug (text : String) : slug (slug text) = slug text := by
  obtain ⟨words, each, joined⟩ := exists_words_slugChars text.toList
  rw [slug, slug, String.toList_ofList, joined, slugChars_joinRuns each]

end Title

end DatasetForm
