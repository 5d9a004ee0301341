import DatasetForm.Proofs.Text.Composition
import DatasetForm.Text.Case

/-!
Caseless forms. What folding leaves is folded (`isFolded_of_mem_foldChar`), also when it is taken apart. It need not be
folded when it is composed again, but then folding only takes it apart (`IsSteady`), and the normal form of what it
leaves is the same (`normalKC_fold_normalKC`).
-/

set_option autoImplicit false
set_option relaxedAutoImplicit false

namespace DatasetForm.Text

variable {a b c x whole : Char} {cs : List Char} {code : Nat} {codes : List Nat}

/-! ## The table of caseless forms -/

/-- The letters of runs, each with its image. -/
private def runEntries (runs : List CaseRun) : List (Nat × List Nat) :=
  runs.flatMap fun run =>
    (List.range (run.last + 1 - run.first)).filterMap fun offset =>
      if offset % run.step == 0 then some (run.first + offset, [run.image + offset]) else none

/-- Entries by which a letter is replaced before its lower case is looked at. -/
private def replacedEntries : List (Nat × List Nat) :=
  foldExpansions ++ runEntries foldRuns

private def lowerEntries : List (Nat × List Nat) :=
  (0x130, [0x69, 0x307]) :: runEntries lowerRuns

private def capitalEntries : List (Nat × List Nat) :=
  (List.range' 0x41 26).map fun code => (code, [code + 0x20])

private def caseEntries : List (Nat × List Nat) :=
  let replaced := codeSet (replacedEntries.map Prod.fst)
  capitalEntries ++ replacedEntries ++ lowerEntries.filter fun entry => !replaced.testBit entry.1

/-- Letters with their caseless forms, without those that are their own. -/
private def foldEntries : List (Nat × List Nat) :=
  caseEntries.filter fun entry => entry.2 != [entry.1]

/-- The code points of letters that folding changes. -/
private def foldedCodes : Nat :=
  codeSet (foldEntries.map Prod.fst)

/-- Folding does not change the character. -/
def IsFolded (c : Char) : Prop :=
  foldedCodes.testBit c.toNat = false

private theorem caseEntries_alone :
    (caseEntries.all fun entry =>
      (0x80 ≤ entry.1 || (0x41 ≤ entry.1 && entry.1 ≤ 0x5A)) &&
        (entry.2 != [entry.1] || !foldedCodes.testBit entry.1)) = true := by
  decide +kernel

private theorem mem_runEntries_iff {runs : List CaseRun} :
    (code, codes) ∈ runEntries runs ↔ ∃ run ∈ runs, ∃ image, run.imageOf? code = some image ∧ codes = [image] := by
  simp only [runEntries, List.mem_flatMap, List.mem_filterMap, List.mem_range, CaseRun.imageOf?]
  constructor
  · rintro ⟨run, member, offset, small, entry⟩
    split at entry
    next placed =>
      cases entry
      have within : (run.first ≤ run.first + offset && run.first + offset ≤ run.last) = true := by
        simp only [Bool.and_eq_true, decide_eq_true_eq]
        omega
      refine ⟨run, member, run.image + offset, ?_, rfl⟩
      rw [Nat.add_sub_cancel_left, within, placed, Bool.and_self, if_pos rfl]
    · cases entry
  · rintro ⟨run, member, image, found, rfl⟩
    split at found
    next held =>
      cases found
      simp only [Bool.and_eq_true, decide_eq_true_eq] at held
      refine ⟨run, member, code - run.first, by omega, ?_⟩
      rw [if_pos held.2, Nat.add_sub_cancel' held.1.1]
    · cases found

private theorem mem_runEntries_of_findSome? {runs : List CaseRun} {image : Nat}
    (found : runs.findSome? (·.imageOf? code) = some image) : (code, [image]) ∈ runEntries runs := by
  obtain ⟨run, member, found⟩ := List.exists_of_findSome?_eq_some found
  exact mem_runEntries_iff.mpr ⟨run, member, image, found, rfl⟩

private theorem not_mem_runEntries {runs : List CaseRun} (missing : runs.findSome? (·.imageOf? code) = none) :
    (code, codes) ∉ runEntries runs := by
  intro listed
  obtain ⟨run, member, image, found, -⟩ := mem_runEntries_iff.mp listed
  rw [List.findSome?_eq_none_iff.mp missing run member] at found
  cases found

private theorem not_mem_replacedEntries (expanded : foldExpansions.lookup code = none)
    (run : foldRuns.findSome? (·.imageOf? code) = none) : (code, codes) ∉ replacedEntries := by
  rw [replacedEntries, List.mem_append, not_or]
  refine ⟨fun listed => ?_, not_mem_runEntries run⟩
  have other := List.lookup_eq_none_iff.mp expanded _ listed
  simp at other

private theorem mem_caseEntries_of_lowerEntries (expanded : foldExpansions.lookup code = none)
    (run : foldRuns.findSome? (·.imageOf? code) = none) (listed : (code, codes) ∈ lowerEntries) :
    (code, codes) ∈ caseEntries := by
  rw [caseEntries, List.mem_append, List.mem_filter]
  refine .inr ⟨listed, ?_⟩
  rw [Bool.not_eq_true', ← Bool.not_eq_true, testBit_codeSet, List.mem_map]
  rintro ⟨⟨other, others⟩, replaced, rfl⟩
  exact not_mem_replacedEntries expanded run replaced

private theorem isFolded_of_not_mem (missing : ∀ codes, (c.toNat, codes) ∉ caseEntries) : IsFolded c := by
  rw [IsFolded, foldedCodes, ← Bool.not_eq_true, testBit_codeSet, List.mem_map]
  rintro ⟨⟨code, codes⟩, listed, same⟩
  exact missing codes (same ▸ (List.mem_filter.mp listed).1)

private theorem mem_caseEntries_cases (listed : (code, codes) ∈ caseEntries) :
    0x41 ≤ code ∧ code ≤ 0x5A ∨ (code, codes) ∈ replacedEntries ∨ (code, codes) ∈ lowerEntries := by
  rw [caseEntries, List.mem_append, List.mem_append, List.mem_filter] at listed
  rcases listed with (capital | replaced) | lower
  · obtain ⟨other, member, same⟩ := List.mem_map.mp capital
    rw [List.mem_range'_1] at member
    have same := (Prod.mk.inj same).1
    omega
  · exact .inr (.inl replaced)
  · exact .inr (.inr lower.1)

private theorem not_mem_caseEntries_of_ascii (ascii : c.toNat < 0x80) (small : ¬(0x41 ≤ c.toNat ∧ c.toNat ≤ 0x5A)) :
    (c.toNat, codes) ∉ caseEntries := by
  intro listed
  have alone := List.all_eq_true.mp caseEntries_alone _ listed
  simp only [Bool.and_eq_true, Bool.or_eq_true, decide_eq_true_eq] at alone
  omega

/-- The form that an entry gives is that of another letter, or the letter has no other form. -/
private theorem cases_of_mem_caseEntries (listed : (c.toNat, codes) ∈ caseEntries)
    (form : foldChar c = codes.map Char.ofNat) :
    IsFolded c ∧ foldChar c = [c] ∨ ∃ codes, (c.toNat, codes) ∈ foldEntries ∧ foldChar c = codes.map Char.ofNat := by
  by_cases own : codes = [c.toNat]
  · have alone := List.all_eq_true.mp caseEntries_alone _ listed
    simp only [own, Bool.and_eq_true, bne_self_eq_false, Bool.false_or, Bool.not_eq_true'] at alone
    exact .inl ⟨alone.2, by rw [form, own, List.map_singleton, Char.ofNat_toNat]⟩
  · exact .inr ⟨codes, List.mem_filter.mpr ⟨listed, bne_iff_ne.mpr own⟩, form⟩

private theorem mem_caseEntries_of_capital (capital : 0x41 ≤ code ∧ code ≤ 0x5A) :
    (code, [code + 0x20]) ∈ caseEntries := by
  rw [caseEntries, List.mem_append, List.mem_append]
  refine .inl (.inl (List.mem_map.mpr ⟨code, ?_, rfl⟩))
  rw [List.mem_range'_1]
  omega

private theorem mem_caseEntries_of_replacedEntries (listed : (code, codes) ∈ replacedEntries) :
    (code, codes) ∈ caseEntries :=
  List.mem_append_left _ (List.mem_append_right _ listed)

/-- A character is folded and its own caseless form, or it has an entry. -/
private theorem foldChar_cases (c : Char) :
    IsFolded c ∧ foldChar c = [c] ∨ ∃ codes, (c.toNat, codes) ∈ foldEntries ∧ foldChar c = codes.map Char.ofNat := by
  by_cases ascii : c.toNat < 0x80
  · by_cases capital : 0x41 ≤ c.toNat ∧ c.toNat ≤ 0x5A
    · refine cases_of_mem_caseEntries (mem_caseEntries_of_capital capital) ?_
      rw [foldChar, if_pos ascii, lowerAscii, if_pos (by simpa using capital)]
      rfl
    · refine .inl ⟨isFolded_of_not_mem fun codes => not_mem_caseEntries_of_ascii ascii capital, ?_⟩
      rw [foldChar, if_pos ascii, lowerAscii, if_neg (by simpa using capital)]
  · cases expanded : foldExpansions.lookup c.toNat with
    | some codes =>
      have listed : (c.toNat, codes) ∈ replacedEntries := List.mem_append_left _ (mem_of_lookup expanded)
      exact cases_of_mem_caseEntries (mem_caseEntries_of_replacedEntries listed)
        (by rw [foldChar, if_neg ascii, expanded])
    | none =>
      cases run : foldRuns.findSome? (·.imageOf? c.toNat) with
      | some image =>
        have listed : (c.toNat, [image]) ∈ replacedEntries :=
          List.mem_append_right _ (mem_runEntries_of_findSome? run)
        have form : foldChar c = [image].map Char.ofNat := by
          rw [foldChar, if_neg ascii, expanded, run]
          rfl
        exact cases_of_mem_caseEntries (mem_caseEntries_of_replacedEntries listed) form
      | none =>
        have form : foldChar c = lowerChar c := by rw [foldChar, if_neg ascii, expanded, run]
        rw [lowerChar, if_neg ascii] at form
        by_cases dotted : c.toNat = 0x130
        · have listed : (c.toNat, [0x69, 0x307]) ∈ lowerEntries := by
            rw [dotted]
            exact List.mem_cons_self
          refine cases_of_mem_caseEntries (mem_caseEntries_of_lowerEntries expanded run listed) ?_
          rw [form, if_pos (beq_iff_eq.mpr dotted)]
          rfl
        · rw [if_neg (mt beq_iff_eq.mp dotted)] at form
          cases lowered : lowerRuns.findSome? (·.imageOf? c.toNat) with
          | some image =>
            rw [lowered] at form
            have listed : (c.toNat, [image]) ∈ lowerEntries :=
              List.mem_cons_of_mem _ (mem_runEntries_of_findSome? lowered)
            exact cases_of_mem_caseEntries (mem_caseEntries_of_lowerEntries expanded run listed) form
          | none =>
            rw [lowered, Option.getD_none, Char.ofNat_toNat] at form
            refine .inl ⟨isFolded_of_not_mem fun codes listed => ?_, form⟩
            rcases mem_caseEntries_cases listed with capital | replaced | lower
            · omega
            · exact not_mem_replacedEntries expanded run replaced
            · rcases List.mem_cons.mp lower with first | later
              · exact dotted (Prod.mk.inj first).1
              · exact not_mem_runEntries lowered later

/-! ## Caseless forms of characters -/

private theorem foldEntries_isSound :
    (foldEntries.all fun entry =>
      !entry.2.isEmpty && !blankSet.testBit entry.1 && (entry.1 < 0x1100 || 0x11FF < entry.1) &&
        (entry.1 < 0xAC00 || 0xD7FF < entry.1) &&
        entry.2.all fun image =>
          (image < 0xD800 || (0xE000 ≤ image && image < 0x110000)) && !foldedCodes.testBit image &&
            !blankSet.testBit image &&
            (!reducibleCodes.testBit image || (lookup? compatibilityPages entry.1).isSome)) = true := by
  simp only [decide_le_eq_ble, decide_lt_eq_blt]
  decide +kernel

/-- A letter with another caseless form: both are visible, the form has no other form itself, and if it can be taken
apart compatibly, the letter can. -/
private structure HasForm (c : Char) (codes : List Nat) : Prop where
  filled : codes ≠ []
  visible : isBlank c = false
  notHangul : ¬(IsSyllable c ∨ IsJamo c)
  folded : ∀ x ∈ codes.map Char.ofNat, IsFolded x
  formVisible : ∀ x ∈ codes.map Char.ofNat, isBlank x = false
  reducible : ∀ x ∈ codes.map Char.ofNat,
    reducibleCodes.testBit x.toNat = false ∨ (lookup? compatibilityPages c.toNat).isSome = true

private theorem hasForm_of_mem (listed : (c.toNat, codes) ∈ foldEntries) : HasForm c codes := by
  have sound := List.all_eq_true.mp foldEntries_isSound _ listed
  simp only [Bool.and_eq_true, Bool.or_eq_true, Bool.not_eq_true', decide_eq_true_eq, List.all_eq_true,
    testBit_blankSet, List.isEmpty_eq_false_iff] at sound
  obtain ⟨⟨⟨⟨filled, visible⟩, noJamo⟩, noSyllable⟩, images⟩ := sound
  have image {x : Char} (member : x ∈ codes.map Char.ofNat) : x.toNat ∈ codes := by
    obtain ⟨code, among, rfl⟩ := List.mem_map.mp member
    rwa [toNat_ofNat (images code among).1.1.1]
  exact {
    filled := filled
    visible := visible
    notHangul := by
      simp only [IsSyllable, IsJamo]
      omega
    folded := fun x member => (images _ (image member)).1.1.2
    formVisible := fun x member => testBit_blankSet x ▸ (images _ (image member)).1.2
    reducible := fun x member => (images _ (image member)).2 }

theorem foldChar_of_isFolded (folded : IsFolded c) : foldChar c = [c] := by
  rcases foldChar_cases c with ⟨-, same⟩ | ⟨codes, listed, -⟩
  · exact same
  · have changed : foldedCodes.testBit c.toNat = true := testBit_codeSet.mpr (List.mem_map_of_mem listed)
    rw [IsFolded, changed] at folded
    cases folded

/-- Caseless forms have no other form. -/
theorem isFolded_of_mem_foldChar (member : x ∈ foldChar c) : IsFolded x := by
  rcases foldChar_cases c with ⟨folded, same⟩ | ⟨codes, listed, form⟩
  · rw [same, List.mem_singleton] at member
    exact member ▸ folded
  · rw [form] at member
    exact (hasForm_of_mem listed).folded x member

theorem isBlank_of_mem_foldChar (member : x ∈ foldChar c) : isBlank x = isBlank c := by
  rcases foldChar_cases c with ⟨-, same⟩ | ⟨codes, listed, form⟩
  · rw [same, List.mem_singleton] at member
    rw [member]
  · rw [form] at member
    have letter := hasForm_of_mem listed
    rw [letter.formVisible x member, letter.visible]

theorem foldChar_ne_nil (c : Char) : foldChar c ≠ [] := by
  rcases foldChar_cases c with ⟨-, same⟩ | ⟨codes, listed, form⟩
  · rw [same]
    exact List.cons_ne_nil c []
  · rw [form, Ne, List.map_eq_nil_iff]
    exact (hasForm_of_mem listed).filled

/-- A character without compatible parts has a caseless form without such. -/
theorem isCanonicalOnly_of_mem_foldChar (only : IsCanonicalOnly c) (member : x ∈ foldChar c) : IsCanonicalOnly x := by
  rcases foldChar_cases c with ⟨-, same⟩ | ⟨codes, listed, form⟩
  · rw [same, List.mem_singleton] at member
    exact member ▸ only
  · rw [form] at member
    rcases (hasForm_of_mem listed).reducible x member with free | compatible
    · exact isCanonicalOnly_of_not_mem free
    · exact absurd only (not_isCanonicalOnly compatible)

private theorem isFolded_of_hangul (hangul : IsSyllable c ∨ IsJamo c) : IsFolded c := by
  rcases foldChar_cases c with ⟨folded, -⟩ | ⟨codes, listed, -⟩
  · exact folded
  · exact absurd hangul (hasForm_of_mem listed).notHangul

/-- What is taken apart canonically has another form itself if a part of it has. -/
private theorem canonicalPages_folded :
    ((entriesOf canonicalPages).all fun entry =>
      foldedCodes.testBit entry.1 || entry.2.all fun part => !foldedCodes.testBit part) = true := by
  decide +kernel

/-- What has no other form is taken apart into such. -/
theorem isFolded_of_mem_decompose (folded : IsFolded c) (member : x ∈ decompose c) : IsFolded x := by
  refine forall_mem_expandWith (fun d ps found folded p part => ?_) folded x member
  rcases canonicalParts?_cases found with ⟨syllable, rfl⟩ | ⟨codes, listed, rfl⟩
  · exact isFolded_of_hangul (.inr (isJamo_of_mem_parts syllable part))
  · have closed := List.all_eq_true.mp canonicalPages_folded _ listed
    rw [folded, Bool.false_or, List.all_eq_true] at closed
    simpa [IsFolded] using closed _ (toNat_mem_of_mem_map listed part)

/-! ## Characters that folding only takes apart -/

/-- Letters whose caseless form is the letter taken apart, be it only in part. -/
private def splitCodes : Nat :=
  codeSet ((foldExpansions.map Prod.fst).filter fun code =>
    (foldChar (Char.ofNat code)).flatMap decompose == decompose (Char.ofNat code))

/-- Folding leaves the character or takes it apart. -/
def IsSteady (c : Char) : Prop :=
  IsFolded c ∨ splitCodes.testBit c.toNat = true

private def isSteadyCode (code : Nat) : Bool :=
  !foldedCodes.testBit code || splitCodes.testBit code

private theorem isSteady_iff : IsSteady c ↔ isSteadyCode c.toNat = true := by
  rw [IsSteady, IsFolded, isSteadyCode, Bool.or_eq_true, Bool.not_eq_true']

/-- What is made of two steady characters is steady. -/
private theorem canonicalPages_steady :
    ((entriesOf canonicalPages).all fun entry =>
      entry.2.length == 1 || !entry.2.all isSteadyCode || isSteadyCode entry.1) = true := by
  decide +kernel

theorem flatMap_decompose_foldChar (steady : IsSteady c) : (foldChar c).flatMap decompose = decompose c := by
  rcases steady with folded | split
  · rw [foldChar_of_isFolded folded, List.flatMap_singleton]
  · have listed := List.mem_filter.mp (testBit_codeSet.mp split)
    simpa only [Char.ofNat_toNat, beq_iff_eq] using listed.2

theorem IsSteady.composite? (first : IsSteady a) (second : IsSteady b) (found : composite? a b = some whole) :
    IsSteady whole := by
  rcases canonicalParts?_of_composite? found with parts | ⟨syllable, -⟩
  · rcases canonicalParts?_cases parts with ⟨syllable, -⟩ | ⟨codes, listed, two⟩
    · exact .inl (isFolded_of_hangul (.inl syllable))
    · have codes_eq : codes = [a.toNat, b.toNat] := by
        rw [← map_toNat_map_ofNat listed, ← two, List.map_cons, List.map_singleton]
      have closed := List.all_eq_true.mp canonicalPages_steady _ listed
      rw [isSteady_iff] at first second ⊢
      simpa [codes_eq, first, second] using closed
  · exact .inl (isFolded_of_hangul (.inl syllable))

/-! ## Caseless texts -/

theorem fold_append (before after : List Char) : fold (before ++ after) = fold before ++ fold after :=
  List.flatMap_append

theorem forall_isBlank_fold_iff : (∀ c ∈ fold cs, isBlank c = true) ↔ ∀ c ∈ cs, isBlank c = true := by
  simp only [fold, List.forall_mem_flatMap]
  refine forall₂_congr fun c _ => ⟨fun all => ?_, fun blank x member => (isBlank_of_mem_foldChar member).trans blank⟩
  obtain ⟨x, member⟩ := List.exists_mem_of_ne_nil _ (foldChar_ne_nil c)
  rw [← isBlank_of_mem_foldChar member, all x member]

theorem isFolded_of_mem_fold (member : c ∈ fold cs) : IsFolded c := by
  obtain ⟨d, -, member⟩ := List.mem_flatMap.mp member
  exact isFolded_of_mem_foldChar member

theorem fold_eq_self (folded : ∀ c ∈ cs, IsFolded c) : fold cs = cs := by
  rw [fold, List.flatMap_congr fun c member => foldChar_of_isFolded (folded c member), List.flatMap_singleton']

theorem isCanonicalOnly_of_mem_fold_normalKC (member : c ∈ fold (normalKC cs)) : IsCanonicalOnly c := by
  obtain ⟨d, inside, member⟩ := List.mem_flatMap.mp member
  exact isCanonicalOnly_of_mem_foldChar (isCanonicalOnly_of_mem_normalKC inside) member

theorem normalD_fold (steady : ∀ c ∈ cs, IsSteady c) : normalD (fold cs) = normalD cs := by
  rw [normalD, normalD, fold, List.flatMap_assoc,
    List.flatMap_congr fun c member => flatMap_decompose_foldChar (steady c member)]

/-- What folding changes in the normal form of a folded text, the normal form puts back. -/
theorem normalKC_fold_normalKC (only : ∀ c ∈ cs, IsCanonicalOnly c) (folded : ∀ c ∈ cs, IsFolded c) :
    normalKC (fold (normalKC cs)) = normalKC cs := by
  have steady : ∀ c ∈ normalKC cs, IsSteady c := by
    rw [normalKC_eq_compose_normalD only]
    refine forall_mem_compose (fun found first second => first.composite? second found) fun c member => ?_
    obtain ⟨d, inside, part⟩ := List.mem_flatMap.mp ((perm_reorder _).subset member)
    exact .inl (isFolded_of_mem_decompose (folded d inside) part)
  calc normalKC (fold (normalKC cs))
    _ = compose (normalD (fold (normalKC cs))) :=
      normalKC_eq_compose_normalD fun _ => isCanonicalOnly_of_mem_fold_normalKC
    _ = compose (normalD (normalKC cs)) := by rw [normalD_fold steady]
    _ = normalKC (normalKC cs) := (normalKC_eq_compose_normalD fun _ => isCanonicalOnly_of_mem_normalKC).symm
    _ = normalKC cs := normalKC_normalKC cs

end DatasetForm.Text
