import DatasetForm.Proofs.Text.CodeTable
import DatasetForm.Proofs.Text.Trim
import DatasetForm.Text.Normal

/-!
Taking characters apart. Three steps are enough for every character: what is left has no parts of its own. A character
is blank exactly when all its parts are, and where no part of a character has a compatible form of its own, both ways of
taking it apart are one (`IsCanonicalOnly`).
-/

set_option autoImplicit false
set_option relaxedAutoImplicit false

namespace DatasetForm.Text

/-! ## Steps -/

section Steps

variable {parts? : Char → Option (List Char)} {c : Char} {depth : Nat}

theorem expandWith_of_whole (whole : parts? c = none) (depth : Nat) : expandWith parts? depth c = [c] := by
  cases depth with
  | zero => rfl
  | succ depth => rw [expandWith, whole]

theorem expandWith_of_parts {ps : List Char} (found : parts? c = some ps) (depth : Nat) :
    expandWith parts? (depth + 1) c = ps.flatMap (expandWith parts? depth) := by
  rw [expandWith, found]

/-- What every part has from the whole, all have that is left in the end. -/
theorem forall_mem_expandWith {P : Char → Prop}
    (inherited : ∀ c ps, parts? c = some ps → P c → ∀ p ∈ ps, P p) (holds : P c) :
    ∀ x ∈ expandWith parts? depth c, P x := by
  induction depth generalizing c with
  | zero => exact fun x member => List.mem_singleton.mp member ▸ holds
  | succ depth ih =>
    intro x member
    cases found : parts? c with
    | none =>
      rw [expandWith_of_whole found, List.mem_singleton] at member
      exact member ▸ holds
    | some ps =>
      rw [expandWith_of_parts found, List.mem_flatMap] at member
      obtain ⟨p, part, inside⟩ := member
      exact ih (inherited c ps found holds p part) x inside

/-- What some part has from the whole, something has that is left in the end. -/
theorem exists_mem_expandWith {P : Char → Prop}
    (passed : ∀ c ps, parts? c = some ps → P c → ∃ p ∈ ps, P p) (holds : P c) :
    ∃ x ∈ expandWith parts? depth c, P x := by
  induction depth generalizing c with
  | zero => exact ⟨c, List.mem_singleton_self c, holds⟩
  | succ depth ih =>
    cases found : parts? c with
    | none =>
      rw [expandWith_of_whole found]
      exact ⟨c, List.mem_singleton_self c, holds⟩
    | some ps =>
      obtain ⟨p, part, held⟩ := passed c ps found holds
      obtain ⟨x, inside, left⟩ := ih held
      rw [expandWith_of_parts found]
      exact ⟨x, List.mem_flatMap.mpr ⟨p, part, inside⟩, left⟩

/-- Two ways of taking apart are one as long as they find the same parts. -/
theorem expandWith_congr {others? : Char → Option (List Char)} {P : Char → Prop}
    (same : ∀ c, P c → parts? c = others? c)
    (inherited : ∀ c ps, others? c = some ps → P c → ∀ p ∈ ps, P p) (holds : P c) :
    expandWith parts? depth c = expandWith others? depth c := by
  induction depth generalizing c with
  | zero => rfl
  | succ depth ih =>
    cases found : others? c with
    | none => rw [expandWith_of_whole found, expandWith_of_whole ((same c holds).trans found)]
    | some ps =>
      rw [expandWith_of_parts found, expandWith_of_parts ((same c holds).trans found)]
      exact List.flatMap_congr fun p part => ih (inherited c ps found holds p part)

/-- The character can be taken apart even after that many steps. -/
def IsDeep (parts? : Char → Option (List Char)) : Nat → Char → Prop
  | 0, c => parts? c ≠ none
  | depth + 1, c => ∃ ps, parts? c = some ps ∧ ∃ p ∈ ps, IsDeep parts? depth p

theorem IsDeep.ne_none (deep : IsDeep parts? depth c) : parts? c ≠ none := by
  cases depth with
  | zero => exact deep
  | succ depth =>
    obtain ⟨ps, found, -⟩ := deep
    rw [found]
    exact Option.some_ne_none ps

theorem IsDeep.of_succ (deep : IsDeep parts? (depth + 1) c) : IsDeep parts? depth c := by
  induction depth generalizing c with
  | zero => exact deep.ne_none
  | succ depth ih =>
    obtain ⟨ps, found, p, part, deep⟩ := deep
    exact ⟨ps, found, p, part, ih deep⟩

theorem IsDeep.mono {others? : Char → Option (List Char)}
    (more : ∀ c ps, parts? c = some ps → others? c = some ps) (deep : IsDeep parts? depth c) :
    IsDeep others? depth c := by
  induction depth generalizing c with
  | zero =>
    obtain ⟨ps, found⟩ := Option.ne_none_iff_exists'.mp deep
    exact Option.ne_none_iff_exists'.mpr ⟨ps, more c ps found⟩
  | succ depth ih =>
    obtain ⟨ps, found, p, part, deep⟩ := deep
    exact ⟨ps, more c ps found, p, part, ih deep⟩

theorem whole_of_mem_expandWith (shallow : ¬IsDeep parts? depth c) :
    ∀ x ∈ expandWith parts? depth c, parts? x = none := by
  induction depth generalizing c with
  | zero =>
    intro x member
    rw [List.mem_singleton.mp member]
    exact not_not.mp shallow
  | succ depth ih =>
    intro x member
    cases found : parts? c with
    | none =>
      rw [expandWith_of_whole found, List.mem_singleton] at member
      exact member ▸ found
    | some ps =>
      rw [expandWith_of_parts found, List.mem_flatMap] at member
      obtain ⟨p, part, inside⟩ := member
      exact ih (fun deep => shallow ⟨ps, found, p, part, deep⟩) x inside

theorem expandWith_succ (shallow : ¬IsDeep parts? depth c) :
    expandWith parts? (depth + 1) c = expandWith parts? depth c := by
  induction depth generalizing c with
  | zero => exact expandWith_of_whole (not_not.mp shallow) 1
  | succ depth ih =>
    cases found : parts? c with
    | none => rw [expandWith_of_whole found, expandWith_of_whole found]
    | some ps =>
      rw [expandWith_of_parts found, expandWith_of_parts found]
      exact List.flatMap_congr fun p part => ih fun deep => shallow ⟨ps, found, p, part, deep⟩

end Steps

/-! ## Tables -/

/-- The character is a Hangul syllable. -/
def IsSyllable (c : Char) : Prop :=
  0xAC00 ≤ c.toNat ∧ c.toNat < 0xAC00 + 11172

/-- The character is one of the letters that Hangul syllables are made of. -/
def IsJamo (c : Char) : Prop :=
  0x1100 ≤ c.toNat ∧ c.toNat ≤ 0x11FF

theorem isJamo_of_mem_hangulLetters {index : Nat} (small : index < 11172) {x : Char}
    (member : x ∈ hangulLetters index) : IsJamo x := by
  have letter {code : Nat} (low : 0x1100 ≤ code) (high : code ≤ 0x11FF) : IsJamo (Char.ofNat code) := by
    rw [IsJamo, toNat_ofNat (.inl (by omega))]
    exact ⟨low, high⟩
  rw [hangulLetters, List.mem_append, List.mem_pair] at member
  rcases member with (rfl | rfl) | final
  · exact letter (by omega) (by omega)
  · exact letter (by omega) (by omega)
  · split at final
    · cases final
    · rw [List.mem_singleton.mp final]
      exact letter (by omega) (by omega)

private def allEntries : List (Nat × List Nat) :=
  entriesOf compatibilityPages ++ entriesOf canonicalPages

private def compatibleCodes : Nat :=
  codeSet ((entriesOf compatibilityPages).map Prod.fst)

/-- The code points of white space. -/
def blankSet : Nat :=
  codeSet blankCodes

theorem testBit_blankSet (c : Char) : blankSet.testBit c.toNat = isBlank c := by
  rw [Bool.eq_iff_iff, blankSet, testBit_codeSet, isBlank_iff]

/-- An entry has parts, all of them characters but no syllables, and it is none of a syllable or of its letters. -/
private def isSound (entry : Nat × List Nat) : Bool :=
  0xA0 ≤ entry.1 && (entry.1 < 0x1100 || 0x11FF < entry.1) && (entry.1 < 0xAC00 || 0xD7FF < entry.1) &&
    !entry.2.isEmpty && entry.2.all fun part => part < 0xAC00 || (0xE000 ≤ part && part < 0x110000)

/-- Canonical parts are blank if the character is, and they are not if it is not; it has no compatible parts besides. -/
private def keepsBlank (entry : Nat × List Nat) : Bool :=
  !compatibleCodes.testBit entry.1 && entry.2.all fun part => blankSet.testBit part == blankSet.testBit entry.1

/-- Compatible parts are blank if the character is, and one of them is not if it is not. -/
private def keepsVisible (entry : Nat × List Nat) : Bool :=
  if blankSet.testBit entry.1 then entry.2.all blankSet.testBit else entry.2.any fun part => !blankSet.testBit part

/-- The entries with parts that many steps down. -/
private def deepEntries : Nat → List (Nat × List Nat)
  | 0 => allEntries
  | depth + 1 =>
    let deeper := codeSet ((deepEntries depth).map Prod.fst)
    (deepEntries depth).filter fun entry => entry.2.any deeper.testBit

/-- What is decided by reading the tables, all at once because it is the reading that takes long. -/
private theorem tables_checked :
    allEntries.all isSound = true ∧ (entriesOf canonicalPages).all keepsBlank = true ∧
      (entriesOf compatibilityPages).all keepsVisible = true ∧ deepEntries 3 = [] := by
  unfold isSound
  simp only [decide_le_eq_ble, decide_lt_eq_blt]
  decide +kernel

variable {c x : Char} {ps : List Char}

theorem canonicalParts?_cases (found : canonicalParts? c = some ps) :
    (IsSyllable c ∧ ps = hangulLetters (c.toNat - 0xAC00)) ∨
      ∃ codes, (c.toNat, codes) ∈ entriesOf canonicalPages ∧ ps = codes.map Char.ofNat := by
  rw [canonicalParts?] at found
  split at found
  · cases found
  split at found
  next syllable =>
    rw [Bool.and_eq_true, decide_eq_true_eq, decide_eq_true_eq] at syllable
    exact .inl ⟨syllable, (Option.some.inj found).symm⟩
  · obtain ⟨codes, entry, rfl⟩ := Option.map_eq_some_iff.mp found
    exact .inr ⟨codes, mem_entriesOf_of_lookup? entry, rfl⟩

private theorem compatibleParts?_cases (found : compatibleParts? c = some ps) :
    (∃ codes, (c.toNat, codes) ∈ entriesOf compatibilityPages ∧ ps = codes.map Char.ofNat) ∨
      canonicalParts? c = some ps := by
  rw [compatibleParts?] at found
  split at found
  · cases found
  split at found
  next codes entry => exact .inl ⟨codes, mem_entriesOf_of_lookup? entry, (Option.some.inj found).symm⟩
  · exact .inr found

private theorem isSound_of_mem {entry : Nat × List Nat} (listed : entry ∈ allEntries) : isSound entry = true :=
  List.all_eq_true.mp tables_checked.1 entry listed

private theorem keepsBlank_of_mem {entry : Nat × List Nat} (listed : entry ∈ entriesOf canonicalPages) :
    keepsBlank entry = true :=
  List.all_eq_true.mp tables_checked.2.1 entry listed

private theorem keepsVisible_of_mem {entry : Nat × List Nat} (listed : entry ∈ entriesOf compatibilityPages) :
    keepsVisible entry = true :=
  List.all_eq_true.mp tables_checked.2.2.1 entry listed

private theorem deepEntries_three : deepEntries 3 = [] :=
  tables_checked.2.2.2

private theorem mem_allEntries_of_canonical {entry : Nat × List Nat} (listed : entry ∈ entriesOf canonicalPages) :
    entry ∈ allEntries :=
  List.mem_append_right _ listed

private theorem mem_allEntries_of_compatible {entry : Nat × List Nat} (listed : entry ∈ entriesOf compatibilityPages) :
    entry ∈ allEntries :=
  List.mem_append_left _ listed

/-- What is found for a character is the parts of a syllable or of an entry. -/
private theorem parts_cases (found : compatibleParts? c = some ps) :
    (IsSyllable c ∧ ps = hangulLetters (c.toNat - 0xAC00)) ∨
      ∃ codes, (c.toNat, codes) ∈ allEntries ∧ ps = codes.map Char.ofNat := by
  rcases compatibleParts?_cases found with ⟨codes, listed, rfl⟩ | canonical
  · exact .inr ⟨codes, mem_allEntries_of_compatible listed, rfl⟩
  · rcases canonicalParts?_cases canonical with syllable | ⟨codes, listed, rfl⟩
    · exact .inl syllable
    · exact .inr ⟨codes, mem_allEntries_of_canonical listed, rfl⟩

/-- No entry is that of a syllable or of its letters. -/
private theorem not_listed {codes : List Nat} (hangul : IsSyllable c ∨ IsJamo c) : (c.toNat, codes) ∉ allEntries := by
  intro listed
  have sound := isSound_of_mem listed
  simp only [isSound, Bool.and_eq_true, Bool.or_eq_true, decide_eq_true_eq] at sound
  simp only [IsSyllable, IsJamo] at hangul
  omega

private theorem toNat_ofNat_of_listed {code part : Nat} {codes : List Nat} (listed : (code, codes) ∈ allEntries)
    (member : part ∈ codes) : (Char.ofNat part).toNat = part ∧ (part < 0xAC00 ∨ 0xE000 ≤ part) := by
  have sound := isSound_of_mem listed
  simp only [isSound, Bool.and_eq_true, List.all_eq_true] at sound
  have valid := sound.2 part member
  simp only [Bool.or_eq_true, Bool.and_eq_true, decide_eq_true_eq] at valid
  exact ⟨toNat_ofNat (by omega), by omega⟩

private theorem mem_codes_of_mem_parts {code : Nat} {codes : List Nat} (listed : (code, codes) ∈ allEntries)
    (part : x ∈ codes.map Char.ofNat) : x.toNat ∈ codes ∧ ¬IsSyllable x := by
  obtain ⟨other, member, rfl⟩ := List.mem_map.mp part
  obtain ⟨number, plain⟩ := toNat_ofNat_of_listed listed member
  rw [IsSyllable, number]
  exact ⟨member, by omega⟩

/-- The parts of an entry are read back from its characters. -/
theorem map_toNat_map_ofNat {code : Nat} {codes : List Nat} (listed : (code, codes) ∈ entriesOf canonicalPages) :
    (codes.map Char.ofNat).map Char.toNat = codes := by
  rw [List.map_map]
  refine (List.map_congr_left fun part member => ?_).trans (List.map_id codes)
  exact (toNat_ofNat_of_listed (mem_allEntries_of_canonical listed) member).1

theorem toNat_mem_of_mem_map {code : Nat} {codes : List Nat} (listed : (code, codes) ∈ entriesOf canonicalPages)
    (part : x ∈ codes.map Char.ofNat) : x.toNat ∈ codes :=
  (mem_codes_of_mem_parts (mem_allEntries_of_canonical listed) part).1

private theorem parts_ne_nil {code : Nat} {codes : List Nat} (listed : (code, codes) ∈ allEntries) : codes ≠ [] := by
  have sound := isSound_of_mem listed
  simp only [isSound, Bool.and_eq_true] at sound
  simpa using sound.1.2

private theorem compatibleParts?_of_isJamo (letter : IsJamo c) : compatibleParts? c = none := by
  refine Option.eq_none_iff_forall_ne_some.mpr fun ps found => ?_
  rcases parts_cases found with ⟨syllable, -⟩ | ⟨codes, listed, -⟩
  · simp only [IsSyllable, IsJamo] at syllable letter
    omega
  · exact not_listed (.inr letter) listed

theorem isJamo_of_mem_parts (syllable : IsSyllable c) (part : x ∈ hangulLetters (c.toNat - 0xAC00)) :
    IsJamo x := by
  rw [IsSyllable] at syllable
  exact isJamo_of_mem_hangulLetters (by omega) part

private theorem unlisted_of_canonicalParts? (found : canonicalParts? c = some ps) :
    lookup? compatibilityPages c.toNat = none := by
  refine Option.eq_none_iff_forall_ne_some.mpr fun codes entry => ?_
  have listed := mem_entriesOf_of_lookup? entry
  rcases canonicalParts?_cases found with ⟨syllable, -⟩ | ⟨parts, canonical, -⟩
  · exact not_listed (.inl syllable) (mem_allEntries_of_compatible listed)
  · have apart := keepsBlank_of_mem canonical
    rw [keepsBlank, Bool.and_eq_true, Bool.not_eq_true'] at apart
    have both : compatibleCodes.testBit c.toNat = true := testBit_codeSet.mpr (List.mem_map_of_mem listed)
    rw [apart.1] at both
    cases both

/-- A character with canonical parts has no others. -/
theorem compatibleParts?_of_canonicalParts? (found : canonicalParts? c = some ps) : compatibleParts? c = some ps := by
  have past : ¬c.toNat < 0xA0 := by
    intro low
    rw [canonicalParts?, if_pos (by omega)] at found
    cases found
  rw [compatibleParts?, if_neg past, unlisted_of_canonicalParts? found, found]

/-! ## Three steps are enough -/

private theorem deepEntries_subset (depth : Nat) : deepEntries depth ⊆ allEntries := by
  induction depth with
  | zero => exact List.Subset.refl _
  | succ depth ih => exact List.Subset.trans (List.filter_sublist.subset) ih

/-- The entry of a character that is deep is among the deep ones. -/
private theorem exists_mem_deepEntries {depth : Nat} (deep : IsDeep compatibleParts? depth c) :
    IsSyllable c ∨
      ∃ codes, compatibleParts? c = some (codes.map Char.ofNat) ∧ (c.toNat, codes) ∈ deepEntries depth := by
  induction depth generalizing c with
  | zero =>
    obtain ⟨ps, found⟩ := Option.ne_none_iff_exists'.mp deep
    rcases parts_cases found with ⟨syllable, -⟩ | ⟨codes, listed, rfl⟩
    · exact .inl syllable
    · exact .inr ⟨codes, found, listed⟩
  | succ depth ih =>
    rcases ih deep.of_succ with syllable | ⟨codes, parts, listed⟩
    · exact .inl syllable
    obtain ⟨ps, found, p, part, deep⟩ := deep
    obtain rfl : codes.map Char.ofNat = ps := Option.some.inj (parts.symm.trans found)
    obtain ⟨member, plain⟩ := mem_codes_of_mem_parts (deepEntries_subset depth listed) part
    obtain ⟨others, -, deeper⟩ := (ih deep).resolve_left plain
    refine .inr ⟨codes, found, List.mem_filter.mpr ⟨listed, List.any_eq_true.mpr ⟨p.toNat, member, ?_⟩⟩⟩
    exact testBit_codeSet.mpr (List.mem_map_of_mem deeper)

private theorem not_isDeep (c : Char) : ¬IsDeep compatibleParts? 3 c := by
  intro deep
  rcases exists_mem_deepEntries deep with syllable | ⟨codes, -, left⟩
  · -- the letters of a syllable have no parts
    obtain ⟨ps, found, p, part, deep⟩ := deep
    rcases parts_cases found with ⟨-, rfl⟩ | ⟨codes, listed, -⟩
    · exact deep.ne_none (compatibleParts?_of_isJamo (isJamo_of_mem_parts syllable part))
    · exact not_listed (.inl syllable) listed
  · rw [deepEntries_three] at left
    cases left

private theorem not_isDeep_canonical (c : Char) : ¬IsDeep canonicalParts? 3 c :=
  fun deep => not_isDeep c (deep.mono fun _ _ => compatibleParts?_of_canonicalParts?)

theorem canonicalParts?_of_compatibleParts? (whole : compatibleParts? c = none) : canonicalParts? c = none :=
  Option.eq_none_iff_forall_ne_some.mpr fun ps found => by
    rw [compatibleParts?_of_canonicalParts? found] at whole
    cases whole

theorem compatibleParts?_of_mem_decomposeCompatibly (member : x ∈ decomposeCompatibly c) : compatibleParts? x = none :=
  whole_of_mem_expandWith (not_isDeep c) x member

/-- To take a character apart is to take its canonical parts apart. -/
theorem decompose_of_canonicalParts? (found : canonicalParts? c = some ps) : decompose c = ps.flatMap decompose := by
  rw [decompose, expandWith_of_parts found]
  exact List.flatMap_congr fun p part =>
    (expandWith_succ fun deep => not_isDeep_canonical c ⟨ps, found, p, part, deep⟩).symm

theorem decomposeCompatibly_of_canonicalParts? (found : canonicalParts? c = some ps) :
    decomposeCompatibly c = ps.flatMap decomposeCompatibly := by
  have found := compatibleParts?_of_canonicalParts? found
  rw [decomposeCompatibly, expandWith_of_parts found]
  exact List.flatMap_congr fun p part => (expandWith_succ fun deep => not_isDeep c ⟨ps, found, p, part, deep⟩).symm

/-! ## Blanks -/

theorem isBlank_of_hangul (hangul : IsSyllable c ∨ IsJamo c) : isBlank c = false := by
  simp only [IsSyllable, IsJamo] at hangul
  simp only [isBlank, Bool.or_eq_false_iff, Bool.and_eq_false_iff, decide_eq_false_iff_not, beq_eq_false_iff_ne]
  omega

private theorem isBlank_of_canonicalParts? (found : canonicalParts? c = some ps) (part : x ∈ ps) :
    isBlank x = isBlank c := by
  rcases canonicalParts?_cases found with ⟨syllable, rfl⟩ | ⟨codes, listed, rfl⟩
  · rw [isBlank_of_hangul (.inl syllable), isBlank_of_hangul (.inr (isJamo_of_mem_parts syllable part))]
  · have member := toNat_mem_of_mem_map listed part
    have alike := keepsBlank_of_mem listed
    rw [keepsBlank, Bool.and_eq_true, List.all_eq_true] at alike
    rw [← testBit_blankSet, ← testBit_blankSet]
    exact beq_iff_eq.mp (alike.2 _ member)

/-- What a character is taken apart into canonically is just as blank as it is. -/
theorem isBlank_of_mem_decompose (member : x ∈ decompose c) : isBlank x = isBlank c := by
  refine forall_mem_expandWith (P := fun d => isBlank d = isBlank c) (fun d ps found same p part => ?_) rfl x member
  rw [isBlank_of_canonicalParts? found part, same]

private theorem exists_part (found : compatibleParts? c = some ps) : ∃ p, p ∈ ps := by
  refine List.exists_mem_of_ne_nil ps ?_
  rcases parts_cases found with ⟨-, rfl⟩ | ⟨codes, listed, rfl⟩
  · rw [hangulLetters]
    exact List.cons_ne_nil _ _
  · rw [Ne, List.map_eq_nil_iff]
    exact parts_ne_nil listed

theorem decompose_ne_nil (c : Char) : decompose c ≠ [] := by
  have passed (d : Char) (ps : List Char) (found : canonicalParts? d = some ps) (_ : True) : ∃ p ∈ ps, True := by
    obtain ⟨p, part⟩ := exists_part (compatibleParts?_of_canonicalParts? found)
    exact ⟨p, part, trivial⟩
  have left : ∃ x ∈ decompose c, True := exists_mem_expandWith passed trivial
  obtain ⟨x, member, -⟩ := left
  exact List.ne_nil_of_mem member

theorem isBlank_of_mem_decomposeCompatibly (blank : isBlank c = true) (member : x ∈ decomposeCompatibly c) :
    isBlank x = true := by
  refine forall_mem_expandWith (P := fun d => isBlank d = true) (fun d ps found blank p part => ?_) blank x member
  rcases compatibleParts?_cases found with ⟨codes, listed, rfl⟩ | canonical
  · have member := (mem_codes_of_mem_parts (mem_allEntries_of_compatible listed) part).1
    have alike := keepsVisible_of_mem listed
    rw [keepsVisible, testBit_blankSet, blank, if_pos rfl, List.all_eq_true] at alike
    rw [← testBit_blankSet]
    exact alike _ member
  · rw [isBlank_of_canonicalParts? canonical part, blank]

theorem exists_visible_mem_decomposeCompatibly (visible : isBlank c = false) :
    ∃ x ∈ decomposeCompatibly c, isBlank x = false := by
  refine exists_mem_expandWith (P := fun d => isBlank d = false) (fun d ps found visible => ?_) visible
  rcases compatibleParts?_cases found with ⟨codes, listed, rfl⟩ | canonical
  · have alike := keepsVisible_of_mem listed
    rw [keepsVisible, testBit_blankSet, visible, if_neg Bool.false_ne_true, List.any_eq_true] at alike
    obtain ⟨code, member, unblank⟩ := alike
    have part : Char.ofNat code ∈ codes.map Char.ofNat := List.mem_map_of_mem member
    refine ⟨Char.ofNat code, part, ?_⟩
    have sound := isSound_of_mem (mem_allEntries_of_compatible listed)
    simp only [isSound, Bool.and_eq_true, List.all_eq_true, Bool.or_eq_true, decide_eq_true_eq] at sound
    have valid := sound.2 code member
    rw [← testBit_blankSet, toNat_ofNat (by omega)]
    simpa using unblank
  · obtain ⟨p, part⟩ := exists_part found
    exact ⟨p, part, by rw [isBlank_of_canonicalParts? canonical part, visible]⟩

theorem forall_isBlank_decompose_iff : (∀ x ∈ decompose c, isBlank x = true) ↔ isBlank c = true := by
  refine ⟨fun all => ?_, fun blank x member => (isBlank_of_mem_decompose member).trans blank⟩
  obtain ⟨x, member⟩ := List.exists_mem_of_ne_nil _ (decompose_ne_nil c)
  rw [← isBlank_of_mem_decompose member, all x member]

theorem forall_isBlank_decomposeCompatibly_iff :
    (∀ x ∈ decomposeCompatibly c, isBlank x = true) ↔ isBlank c = true := by
  refine ⟨fun all => ?_, fun blank x member => isBlank_of_mem_decomposeCompatibly blank member⟩
  by_contra visible
  obtain ⟨x, member, visible⟩ := exists_visible_mem_decomposeCompatibly (Bool.eq_false_iff.mpr visible)
  rw [all x member] at visible
  cases visible

/-! ## Characters without compatible parts -/

/-- Taking the character apart finds canonical parts only. -/
def IsCanonicalOnly (c : Char) : Prop :=
  decomposeCompatibly c = decompose c

theorem isCanonicalOnly_of_mem_decomposeCompatibly (member : x ∈ decomposeCompatibly c) : IsCanonicalOnly x := by
  have whole := compatibleParts?_of_mem_decomposeCompatibly member
  have whole' := canonicalParts?_of_compatibleParts? whole
  rw [IsCanonicalOnly, decomposeCompatibly, decompose, expandWith_of_whole whole, expandWith_of_whole whole']

/-- The code points with compatible parts, or with canonical parts among these. -/
def reducibleCodes : Nat :=
  let reaching (found : Nat) : Nat :=
    codeSet (((entriesOf canonicalPages).filter fun entry => entry.2.any found.testBit).map Prod.fst)
  let compatible := codeSet ((entriesOf compatibilityPages).map Prod.fst)
  compatible ||| reaching (compatible ||| reaching compatible)

private theorem reducibleCodes_closed :
    ((entriesOf canonicalPages).all fun entry =>
      !entry.2.any reducibleCodes.testBit || reducibleCodes.testBit entry.1) = true ∧
    ((List.range' 0x1100 0x100).all fun letter => !reducibleCodes.testBit letter) = true := by
  decide +kernel

theorem isCanonicalOnly_of_not_mem (free : reducibleCodes.testBit c.toNat = false) : IsCanonicalOnly c := by
  refine expandWith_congr (P := fun d => reducibleCodes.testBit d.toNat = false) ?_ ?_ free
  · intro d free
    cases found : compatibleParts? d with
    | none => exact (canonicalParts?_of_compatibleParts? found).symm
    | some ps =>
      rcases compatibleParts?_cases found with ⟨codes, listed, -⟩ | canonical
      · have held : reducibleCodes.testBit d.toNat = true := by
          have compatible := testBit_codeSet.mpr (List.mem_map_of_mem (f := Prod.fst) listed)
          rw [reducibleCodes, Nat.testBit_or, compatible, Bool.true_or]
        rw [free] at held
        cases held
      · exact canonical.symm
  · intro d ps found free p part
    rcases canonicalParts?_cases found with ⟨syllable, rfl⟩ | ⟨codes, listed, rfl⟩
    · obtain ⟨low, high⟩ := isJamo_of_mem_parts syllable part
      have letter : p.toNat ∈ List.range' 0x1100 0x100 := by
        rw [List.mem_range'_1]
        omega
      simpa using List.all_eq_true.mp reducibleCodes_closed.2 _ letter
    · have member := (mem_codes_of_mem_parts (mem_allEntries_of_canonical listed) part).1
      have closed := List.all_eq_true.mp reducibleCodes_closed.1 _ listed
      rw [free, Bool.or_false, Bool.not_eq_true', List.any_eq_false] at closed
      exact Bool.eq_false_iff.mpr (closed _ member)

theorem not_isCanonicalOnly (listed : (lookup? compatibilityPages c.toNat).isSome = true) : ¬IsCanonicalOnly c := by
  intro only
  obtain ⟨codes, entry⟩ := Option.isSome_iff_exists.mp listed
  have whole : canonicalParts? c = none := by
    refine Option.eq_none_iff_forall_ne_some.mpr fun ps found => ?_
    rw [unlisted_of_canonicalParts? found] at entry
    cases entry
  have itself : c ∈ decomposeCompatibly c := by
    rw [only, decompose, expandWith_of_whole whole]
    exact List.mem_singleton_self c
  have past : ¬c.toNat < 0xA0 := by
    have sound := isSound_of_mem (mem_allEntries_of_compatible (mem_entriesOf_of_lookup? entry))
    simp only [isSound, Bool.and_eq_true, decide_eq_true_eq] at sound
    omega
  have reduced := compatibleParts?_of_mem_decomposeCompatibly itself
  rw [compatibleParts?, if_neg past, entry] at reduced
  cases reduced

end DatasetForm.Text
