import DatasetForm.Proofs.Text.Collapse
import DatasetForm.Proofs.Text.Resolver
import DatasetForm.Proofs.Title.Shapes

/-!
Slugs by rewriting. A slug is also what is left of a type when underscores, white space and all other separators are
written as hyphens in turn and the hyphens are then thinned out (`slugChars_eq_rewritten`): no step changes the words that
are read in the end. What comes out is empty or a slug, and such texts stay as they are (`slugOf_image`).
-/

set_option autoImplicit false
set_option relaxedAutoImplicit false

namespace DatasetForm

namespace Text

variable {separates p : Char → Bool}

/-- The text with a hyphen for each such character. -/
def hyphenated (p : Char → Bool) (cs : List Char) : List Char :=
  cs.map fun c => if p c then '-' else c

namespace IsParted

variable {read : List Char → List (List Char)} (parted : IsParted separates read)
include parted

theorem trim (separated : ∀ c, isBlank c = true → separates c = true) (cs : List Char) : read (trim cs) = read cs := by
  obtain ⟨before, after, whole, blank, blank'⟩ := exists_trimmed_off cs
  have front (c : Char) (member : c ∈ before) : separates c = true := separated c (blank c member)
  have back (c : Char) (member : c ∈ after) : separates c = true := separated c (blank' c member)
  rw [congrArg read whole, parted.append_gap back, parted.gap_append front]

section Hyphen

variable (hyphen : separates '-' = true) (separated : ∀ c, p c = true → separates c = true)
include hyphen separated

/-- To write hyphens for separators does not change what is read. -/
theorem hyphenated (cs : List Char) : read (hyphenated p cs) = read cs := by
  -- what stands before the rest may end in a word that goes on in it
  suffices general : ∀ before, read (before ++ Text.hyphenated p cs) = read (before ++ cs) from general []
  induction cs with
  | nil => exact fun _ => rfl
  | cons c cs ih =>
    intro before
    have rest : read (Text.hyphenated p cs) = read cs := ih []
    rw [Text.hyphenated, List.map_cons, ← Text.hyphenated]
    split
    next kind => rw [parted.append_cons _ hyphen, parted.append_cons _ (separated c kind), rest]
    · rw [List.append_cons, ih, ← List.append_cons]

/-- To write one hyphen for each gap does not change what is read. -/
theorem collapse (cs : List Char) : read (collapse p '-' cs) = read cs := by
  suffices general : ∀ before, read (before ++ Text.collapse p '-' cs) = read (before ++ cs) from general []
  induction cs with
  | nil => exact fun _ => rfl
  | cons c cs ih =>
    intro before
    have rest : read (Text.collapse p '-' cs) = read cs := ih []
    rw [Text.collapse]
    split
    next kind =>
      split
      next more =>
        -- the gap goes on, and its hyphen is written further on
        cases cs with
        | nil => cases more
        | cons d ds =>
          have next : separates d = true := separated d more
          rw [ih, parted.append_cons d next, parted.append_cons c (separated c kind), parted.cons next]
      · rw [parted.append_cons _ hyphen, parted.append_cons c (separated c kind), rest]
    · rw [List.append_cons, ih, ← List.append_cons]

end Hyphen

end IsParted

end Text

namespace Title

open Text (IsParted isAlnum isBlank breakCamel collapse stripped hyphenated joinRuns)

variable {cs : List Char}

/-! ## The words under rewriting -/

private theorem not_isAlnum_of_isBlank {c : Char} (blank : isBlank c = true) : isAlnum c = false := by
  rw [Text.isBlank_iff] at blank
  have each : ∀ code ∈ Text.blankCodes, isAlnum (Char.ofNat code) = false := by decide
  rw [← Char.ofNat_toNat c]
  exact each c.toNat blank

theorem separatesWords_of_isBlank {c : Char} (blank : isBlank c = true) : separatesWords c = true := by
  rw [separatesWords, not_isAlnum_of_isBlank blank, Bool.not_false]

/-- The type without blanks at its ends, hyphens written for underscores and for the gaps of white space in it. -/
def spaced (cs : List Char) : List Char :=
  collapse isBlank '-' (hyphenated (· == '_') (Text.trim cs))

/-- The type with hyphens also before capitals that follow small letters or digits, and for all else that is neither
letter nor digit. -/
def plain (cs : List Char) : List Char :=
  hyphenated (fun c => !isAlnum c && c != '-') (breakCamel '-' (spaced cs))

/-- The slug by rewriting: at last there is one hyphen for several, none at the ends, and small letters. -/
def rewritten (cs : List Char) : List Char :=
  Text.lowerAfter [] (stripped (· == '-') (collapse (· == '-') '-' (plain cs)))

theorem slugWords_spaced (cs : List Char) : slugWords (spaced cs) = slugWords cs := by
  have underscore : ∀ c, (c == '_') = true → separatesWords c = true := by
    intro c same
    rw [eq_of_beq same]
    rfl
  rw [spaced, isParted_slugWords.collapse rfl fun _ => separatesWords_of_isBlank,
    isParted_slugWords.hyphenated rfl underscore, isParted_slugWords.trim fun _ => separatesWords_of_isBlank]

/-- Of the separators, only hyphens are left. -/
private theorem eq_separatesWords_of_mem_plain {c : Char} (member : c ∈ plain cs) : (c == '-') = separatesWords c := by
  obtain ⟨d, -, rfl⟩ := List.mem_map.mp member
  split
  · rfl
  next kept =>
    by_cases hyphen : d = '-'
    · rw [hyphen]
      rfl
    · have alnum : isAlnum d = true := by simpa [hyphen] using kept
      rw [separatesWords, alnum, beq_eq_false_iff_ne.mpr hyphen, Bool.not_true]

theorem runs_plain (cs : List Char) : Text.runs (· == '-') (plain cs) = slugWords cs := by
  have other : ∀ c, (!isAlnum c && c != '-') = true → separatesWords c = true :=
    fun _ other => (Bool.and_eq_true_iff.mp other).1
  rw [Text.runs_congr fun _ => eq_separatesWords_of_mem_plain, plain, Text.isParted_runs.hyphenated rfl other,
    ← slugWords, slugWords_spaced]

private theorem ascii_of_isAlnum {c : Char} (alnum : isAlnum c = true) : c.toNat < 0x80 := by
  simp only [isAlnum, Text.isLowerAlnum, Text.isCapital, Bool.or_eq_true, Bool.and_eq_true, decide_eq_true_eq] at alnum
  omega

/-- The slug comes out of the rewriting. -/
theorem slugChars_eq_rewritten (cs : List Char) : slugChars cs = rewritten cs := by
  have ascii : ∀ c ∈ joinRuns '-' (slugWords cs), c.toNat < 0x80 := by
    intro c member
    rcases Text.mem_joinRuns member with rfl | ⟨word, found, inside⟩
    · decide
    · exact ascii_of_isAlnum (by simpa [separatesWords] using (Text.isRun_of_mem_runs found).whole c inside)
  have single : stripped (· == '-') (collapse (· == '-') '-' (plain cs)) =
      joinRuns '-' (Text.runs (· == '-') (plain cs)) := Text.stripped_collapse rfl (plain cs)
  rw [rewritten, single, runs_plain, Text.lowerAfter_ascii ascii, slugChars]

/-! ## The image -/

/-- The slug of a value by rewriting its text; null has none. -/
def rewriting : Value → String
  | .null => ""
  | v => String.ofList (rewritten v.toText.toList)

theorem slugOf_eq_rewriting (v : Value) : slugOf v = rewriting v := by
  rw [slugOf.eq_def]
  split
  · rfl
  next notNull =>
    rw [rewriting, slug, slugChars_eq_rewritten]
    exact notNull

theorem slug_eq_empty_or_isSlug (text : String) : slug text = "" ∨ IsSlug (slug text) := by
  by_cases some : ∃ c ∈ text.toList, isAlnum c = true
  · exact .inr ((isSlug_slug_iff text).mpr some)
  · exact .inl ((slug_eq_empty_iff text).mpr (by simpa using some))

theorem IsSlug.slug_eq {text : String} (isSlug : IsSlug text) : slug text = text := by
  obtain ⟨words, -, each, rfl⟩ := isSlug
  rw [slug, String.toList_ofList, slugChars_joinRuns each]

theorem slugOf_eq_empty_or_isSlug (v : Value) : slugOf v = "" ∨ IsSlug (slugOf v) := by
  rw [slugOf.eq_def]
  split
  · exact .inl rfl
  · exact slug_eq_empty_or_isSlug _

/-- Exactly the empty text and slugs stay as they are. -/
theorem slugOf_text_eq_iff (text : String) : slugOf (.text text) = text ↔ text = "" ∨ IsSlug text := by
  constructor
  · intro same
    rw [← same]
    exact slugOf_eq_empty_or_isSlug (.text text)
  · rintro (rfl | isSlug)
    · rfl
    · exact isSlug.slug_eq

/-- Rewriting a value gives nothing or words of small letters and digits with single hyphens between them. Exactly such
texts stay as they are, so that the slug of a slug is that slug. -/
theorem slugOf_image (v : Value) :
    slugOf v = rewriting v ∧ (slugOf v = "" ∨ IsSlug (slugOf v)) ∧
      (∀ text, slugOf (.text text) = text ↔ text = "" ∨ IsSlug text) ∧
      slugOf (.text (slugOf v)) = slugOf v := by
  have image := slugOf_eq_empty_or_isSlug v
  exact ⟨slugOf_eq_rewriting v, image, slugOf_text_eq_iff, (slugOf_text_eq_iff _).mpr image⟩

end Title

end DatasetForm
