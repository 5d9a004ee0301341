import DatasetForm.Proofs.Title.Slug

/-!
Spellings of a title type. The words may begin small or with a capital, with anything between them that is no ASCII
letter or digit, or with nothing at all before a capital; all spellings have the same slug (`slugOf_spelling`).
-/

set_option autoImplicit false
set_option relaxedAutoImplicit false

namespace DatasetForm

namespace Title

open Text (IsRun isLowerAlnum isCapital isAlnum lowerAscii upperAscii breakCamel joinRuns)

/-- A small letter, followed by one or more small letters or digits. -/
inductive IsTypeWord : List Char → Prop
  | intro {c : Char} {rest : List Char} (letter : 0x61 ≤ c.toNat ∧ c.toNat ≤ 0x7A) (filled : rest ≠ [])
      (small : ∀ d ∈ rest, isLowerAlnum d = true) : IsTypeWord (c :: rest)

/-- The word as it is, or with a capital for its first letter. -/
inductive Begins : (word written : List Char) → Prop
  | small (word : List Char) : Begins word word
  | capital (c : Char) (rest : List Char) : Begins (c :: rest) (upperAscii c :: rest)

/-- A text that spells words. Between two words stands at least one separator, or nothing if the second one begins
with a capital; behind the last one there may be separators. -/
inductive Spells : (words : List (List Char)) → (text : List Char) → Prop
  | last {word written gap : List Char} (begins : Begins word written)
      (separated : ∀ c ∈ gap, separatesWords c = true) : Spells [word] (written ++ gap)
  | apart {word written gap text : List Char} {words : List (List Char)} (begins : Begins word written)
      (filled : gap ≠ []) (separated : ∀ c ∈ gap, separatesWords c = true) (others : Spells words text) :
      Spells (word :: words) (written ++ (gap ++ text))
  | joined {word written text : List Char} {words : List (List Char)} (begins : Begins word written)
      (capital : text.head?.any isCapital = true) (others : Spells words text) :
      Spells (word :: words) (written ++ text)

variable {word written gap text : List Char} {words : List (List Char)}

/-! ## One word -/

/-- How a word may be written: nothing breaks it, it ends in a small letter or digit, and in small letters it is the
word. -/
structure Writes (word written : List Char) : Prop where
  isRun : IsRun separatesWords written
  unbroken : breakCamel '-' written = written
  ends : written.getLast?.any isLowerAlnum = true
  lowered : written.map lowerAscii = word

private theorem case_of_letter {c : Char} (letter : 0x61 ≤ c.toNat ∧ c.toNat ≤ 0x7A) :
    isLowerAlnum c = true ∧ isAlnum (upperAscii c) = true ∧ lowerAscii (upperAscii c) = c := by
  have each : ∀ code ∈ List.range' 0x61 26, isLowerAlnum (Char.ofNat code) = true ∧
      isAlnum (upperAscii (Char.ofNat code)) = true ∧
        lowerAscii (upperAscii (Char.ofNat code)) = Char.ofNat code := by
    decide
  have same := each c.toNat (List.mem_range'_1.mpr (by omega))
  rwa [Char.ofNat_toNat] at same

theorem IsTypeWord.writes (typed : IsTypeWord word) (begins : Begins word written) : Writes word written := by
  obtain @⟨c, rest, letter, filled, small⟩ := typed
  obtain ⟨isSmall, upper, back⟩ := case_of_letter letter
  -- whatever the first letter is, it is no separator, and the others are small
  have first : ∃ d, written = d :: rest ∧ isAlnum d = true ∧ lowerAscii d = c := by
    cases begins with
    | small => exact ⟨c, rfl, by rw [isAlnum, isSmall, Bool.true_or], Text.lowerAscii_eq_self isSmall⟩
    | capital => exact ⟨upperAscii c, rfl, upper, back⟩
  obtain ⟨d, rfl, alnum, lowered⟩ := first
  constructor
  · constructor
    · exact List.cons_ne_nil d rest
    · rw [List.forall_mem_cons]
      constructor
      · rw [separatesWords, alnum, Bool.not_true]
      · intro e member
        rw [separatesWords, isAlnum, small e member, Bool.true_or, Bool.not_true]
  · apply Text.breakCamel_cons_eq_self
    intro e member
    exact Text.isCapital_eq_false (small e member)
  · rw [List.getLast?_cons_of_ne_nil filled, List.getLast?_eq_some_getLast filled]
    exact small _ (List.getLast_mem filled)
  · rw [List.map_cons, lowered]
    have same : ∀ e ∈ rest, lowerAscii e = e := fun e member => Text.lowerAscii_eq_self (small e member)
    rw [List.map_congr_left same, List.map_id']

theorem Writes.slugWords_eq (writes : Writes word written) : slugWords written = [written] := by
  rw [slugWords, writes.unbroken, writes.isRun.runs_eq]

/-! ## Words in a text -/

/-- Separators in front of a text do not count. -/
theorem slugWords_gap_append (separated : ∀ c ∈ gap, separatesWords c = true) (cs : List Char) :
    slugWords (gap ++ cs) = slugWords cs :=
  isParted_slugWords.gap_append separated cs

theorem Writes.slugWords_apart (writes : Writes word written) (filled : gap ≠ [])
    (separated : ∀ c ∈ gap, separatesWords c = true) (cs : List Char) :
    slugWords (written ++ (gap ++ cs)) = written :: slugWords cs := by
  obtain ⟨c, rest, rfl⟩ := List.exists_cons_of_ne_nil filled
  rw [List.forall_mem_cons] at separated
  rw [List.cons_append, slugWords_append_cons separated.1, writes.slugWords_eq, slugWords_gap_append separated.2,
    List.singleton_append]

theorem Writes.slugWords_joined (writes : Writes word written) (capital : text.head?.any isCapital = true) :
    slugWords (written ++ text) = written :: slugWords text := by
  rw [slugWords, Text.breakCamel_append, writes.ends, capital, Bool.true_and, if_pos rfl, writes.unbroken,
    List.append_assoc, List.singleton_append, Text.runs_append_separator writes.isRun rfl, ← slugWords]

theorem Writes.slugWords_last (writes : Writes word written) (separated : ∀ c ∈ gap, separatesWords c = true) :
    slugWords (written ++ gap) = [written] := by
  rw [isParted_slugWords.append_gap separated, writes.slugWords_eq]

/-- In small letters, the words of a text are those that it spells. -/
theorem Spells.lower_slugWords (spells : Spells words text) (typed : ∀ word ∈ words, IsTypeWord word) :
    (slugWords text).map (List.map lowerAscii) = words := by
  induction spells with
  | last begins separated =>
    have writes := (typed _ List.mem_cons_self).writes begins
    rw [writes.slugWords_last separated, List.map_singleton, writes.lowered]
  | apart begins filled separated _ ih =>
    obtain ⟨first, others⟩ := List.forall_mem_cons.mp typed
    have writes := first.writes begins
    rw [writes.slugWords_apart filled separated, List.map_cons, writes.lowered, ih others]
  | joined begins capital _ ih =>
    obtain ⟨first, others⟩ := List.forall_mem_cons.mp typed
    have writes := first.writes begins
    rw [writes.slugWords_joined capital, List.map_cons, writes.lowered, ih others]

/-- Every spelling of some words, with any separators in front, has the words with hyphens between them for its slug. -/
theorem slugOf_spelling (typed : ∀ word ∈ words, IsTypeWord word) (separated : ∀ c ∈ gap, separatesWords c = true)
    (spells : Spells words text) :
    slugOf (.text (String.ofList (gap ++ text))) = String.ofList (joinRuns '-' words) := by
  have hyphen : lowerAscii '-' = '-' := rfl
  have ofText (s : String) : slugOf (.text s) = slug s := rfl
  rw [ofText, slug, String.toList_ofList, slugChars, slugWords_gap_append separated, Text.map_joinRuns,
    spells.lower_slugWords typed, hyphen]

private def subtitleWords : List (List Char) :=
  [['s', 'u', 'b'], ['t', 'i', '2'], ['o', 'f']]

/-- A capital alone, and a blank, a dash and an underscore, part the words. -/
private def subtitleText : List Char :=
  ['S', 'u', 'b'] ++ (['T', 'i', '2'] ++ (['\u00a0', '–', '_'] ++ (['o', 'f'] ++ ['_', '_'])))

theorem slugOf_spelling_subtitle :
    (∀ word ∈ subtitleWords, IsTypeWord word) ∧ (∀ c ∈ ['\t', '_'], separatesWords c = true) ∧
      Spells subtitleWords subtitleText ∧ slugOf (.text "\t_SubTi2\u00a0–_of__") = "sub-ti2-of" := by
  have typed : ∀ word ∈ subtitleWords, IsTypeWord word := by
    simp only [subtitleWords, List.forall_mem_cons]
    exact ⟨.intro (by decide) (by decide) (by decide), .intro (by decide) (by decide) (by decide),
      .intro (by decide) (by decide) (by decide), nofun⟩
  have separated : ∀ c ∈ ['\t', '_'], separatesWords c = true := by decide
  have spells : Spells subtitleWords subtitleText :=
    .joined (.capital 's' _) rfl
      (.apart (.capital 't' _) (by decide) (by decide) (.last (.small _) (by decide)))
  have written : String.ofList (['\t', '_'] ++ subtitleText) = "\t_SubTi2\u00a0–_of__" := by decide
  have hyphened : String.ofList (joinRuns '-' subtitleWords) = "sub-ti2-of" := by decide
  have slugged := slugOf_spelling typed separated spells
  rw [written, hyphened] at slugged
  exact ⟨typed, separated, spells, slugged⟩

end Title

end DatasetForm
