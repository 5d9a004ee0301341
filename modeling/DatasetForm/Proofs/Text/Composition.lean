import DatasetForm.Proofs.Text.Decomposition
import DatasetForm.Proofs.Text.MarkOrder

/-!
Composition. What two characters make together is taken apart into what the two are taken apart into, so that taking a
composed text apart gives what was composed (`normalD_compose`). This is why the normal form is its own normal form.
-/

set_option autoImplicit false
set_option relaxedAutoImplicit false

namespace DatasetForm.Text

variable {a b base c whole : Char} {cs marks : List Char} {P : Char → Prop}

/-! ## Two characters -/

private theorem canonicalPages_isAscending : IsAscending canonicalPages where
  pages := by decide +kernel
  codes := by decide +kernel
  paged := by
    have onPage : (canonicalPages.all fun page => page.2.all fun entry => entry.1 / 256 == page.1) = true := by
      decide +kernel
    intro page listed entry held
    exact beq_iff_eq.mp (List.all_eq_true.mp (List.all_eq_true.mp onPage page listed) entry held)

/-- Entries are those of characters, not of syllables, and only of one blank for another. -/
private theorem canonicalPages_codes :
    ((entriesOf canonicalPages).all fun entry =>
      0xC0 ≤ entry.1 && (entry.1 < 0xAC00 || (0xE000 ≤ entry.1 && entry.1 < 0x110000)) &&
        (entry.2.length == 1 || !blankSet.testBit entry.1)) = true := by
  decide +kernel

theorem canonicalParts?_of_isSyllable (syllable : IsSyllable c) :
    canonicalParts? c = some (hangulLetters (c.toNat - 0xAC00)) := by
  rw [IsSyllable] at syllable
  rw [canonicalParts?, if_neg (by omega), if_pos (by simpa using syllable)]

theorem canonicalParts?_of_mem {code : Nat} {codes : List Nat} (listed : (code, codes) ∈ entriesOf canonicalPages) :
    canonicalParts? (Char.ofNat code) = some (codes.map Char.ofNat) := by
  have placed := List.all_eq_true.mp canonicalPages_codes _ listed
  simp only [Bool.and_eq_true, Bool.or_eq_true, decide_eq_true_eq] at placed
  have number : (Char.ofNat code).toNat = code := toNat_ofNat (by omega)
  rw [canonicalParts?, number, if_neg (by omega), if_neg (by simp; omega),
    canonicalPages_isAscending.lookup?_eq_some_iff.mpr listed, Option.map_some]

/-- A syllable without final letter has that letter more when it gets one. -/
private theorem hangulLetters_add {index final : Nat} (bare : index % 28 = 0) (closed : 0 < final)
    (small : final < 28) :
    hangulLetters (index + final) = hangulLetters index ++ [Char.ofNat (0x11A7 + final)] := by
  have initial : (index + final) / 588 = index / 588 := by omega
  have vowel : (index + final) % 588 / 28 = index % 588 / 28 := by omega
  have rest : (index + final) % 28 = final := by omega
  rw [hangulLetters, hangulLetters, initial, vowel, rest, bare, if_neg (by simpa using closed.ne')]
  rfl

private theorem canonicalParts?_of_hangulSyllable? (found : hangulSyllable? a b = some whole) :
    canonicalParts? whole = some [a, b] ∨
      IsSyllable whole ∧ ∃ ps, canonicalParts? a = some ps ∧ canonicalParts? whole = some (ps ++ [b]) := by
  have numbered {index : Nat} (small : index < 11172) :
      IsSyllable (Char.ofNat (0xAC00 + index)) ∧
        canonicalParts? (Char.ofNat (0xAC00 + index)) = some (hangulLetters index) := by
    have number : (Char.ofNat (0xAC00 + index)).toNat = 0xAC00 + index := toNat_ofNat (by omega)
    have syllable : IsSyllable (Char.ofNat (0xAC00 + index)) := by
      rw [IsSyllable, number]
      omega
    exact ⟨syllable, by rw [canonicalParts?_of_isSyllable syllable, number, Nat.add_sub_cancel_left]⟩
  have letter {c : Char} {code : Nat} (same : code = c.toNat) : Char.ofNat code = c := by
    rw [same, Char.ofNat_toNat]
  rw [hangulSyllable?] at found
  split at found
  next letters =>
    -- an initial and a vowel
    simp only [Bool.and_eq_true, decide_eq_true_eq] at letters
    rw [← Option.some.inj found, (numbered (by omega)).2, hangulLetters, if_pos (by simp), List.append_nil, letter,
      letter]
    · exact .inl rfl
    · omega
    · omega
  · split at found
    next letters =>
      -- a syllable without final, and one
      simp only [Bool.and_eq_true, decide_eq_true_eq, beq_iff_eq] at letters
      have number : a.toNat + (b.toNat - 0x11A7) = 0xAC00 + (a.toNat - 0xAC00 + (b.toNat - 0x11A7)) := by omega
      have small : a.toNat - 0xAC00 + (b.toNat - 0x11A7) < 11172 := by omega
      obtain ⟨syllable, parts⟩ := numbered small
      have final : 0x11A7 + (b.toNat - 0x11A7) = b.toNat := by omega
      have bare : IsSyllable a := by
        rw [IsSyllable]
        omega
      rw [hangulLetters_add letters.1.1.2 (by omega) (by omega), letter final] at parts
      rw [← Option.some.inj found, number]
      exact .inr ⟨syllable, _, canonicalParts?_of_isSyllable bare, parts⟩
    · cases found

/-- Two characters that make one are what it is taken apart into, or the first is a syllable that the second closes. -/
theorem canonicalParts?_of_composite? (found : composite? a b = some whole) :
    canonicalParts? whole = some [a, b] ∨
      IsSyllable whole ∧ ∃ ps, canonicalParts? a = some ps ∧ canonicalParts? whole = some (ps ++ [b]) := by
  rw [composite?] at found
  split at found
  · cases found
  split at found
  next syllable => exact canonicalParts?_of_hangulSyllable? (found ▸ syllable)
  · obtain ⟨pair, listed, rfl⟩ := Option.map_eq_some_iff.mp found
    have same := List.find?_some listed
    obtain ⟨page, onPage, made⟩ := List.mem_flatMap.mp (List.mem_of_find?_eq_some listed)
    obtain ⟨⟨code, codes⟩, held, made⟩ := List.mem_filterMap.mp made
    have parts := canonicalParts?_of_mem (List.mem_flatMap.mpr ⟨page, onPage, held⟩)
    rw [Bool.and_eq_true, beq_iff_eq, beq_iff_eq] at same
    split at made
    next _ first second two =>
      split at made
      · cases made
      · have made := Option.some.inj made
        left
        rw [← same.1, ← same.2, ← made, parts]
        exact congrArg _ (congrArg _ two)
    · cases made

theorem decompose_of_composite? (found : composite? a b = some whole) :
    decompose whole = decompose a ++ decompose b := by
  rcases canonicalParts?_of_composite? found with parts | ⟨-, ps, first, parts⟩
  · rw [decompose_of_canonicalParts? parts, List.flatMap_cons, List.flatMap_singleton]
  · rw [decompose_of_canonicalParts? parts, List.flatMap_append, List.flatMap_singleton,
      decompose_of_canonicalParts? first]

theorem IsCanonicalOnly.composite? (first : IsCanonicalOnly a) (second : IsCanonicalOnly b)
    (found : composite? a b = some whole) : IsCanonicalOnly whole := by
  rw [IsCanonicalOnly] at first second ⊢
  rw [decompose_of_composite? found, ← first, ← second]
  rcases canonicalParts?_of_composite? found with parts | ⟨-, ps, first, parts⟩
  · rw [decomposeCompatibly_of_canonicalParts? parts, List.flatMap_cons, List.flatMap_singleton]
  · rw [decomposeCompatibly_of_canonicalParts? parts, List.flatMap_append, List.flatMap_singleton,
      decomposeCompatibly_of_canonicalParts? first]

theorem isBlank_of_composite? (found : composite? a b = some whole) :
    isBlank a = false ∧ isBlank b = false ∧ isBlank whole = false := by
  have visible : isBlank whole = false := by
    rcases canonicalParts?_of_composite? found with parts | ⟨syllable, -⟩
    · rcases canonicalParts?_cases parts with ⟨syllable, -⟩ | ⟨codes, listed, two⟩
      · exact isBlank_of_hangul (.inl syllable)
      · have placed := List.all_eq_true.mp canonicalPages_codes _ listed
        have count : codes.length = 2 := by simpa using (congrArg List.length two).symm
        rw [Bool.and_eq_true, testBit_blankSet] at placed
        simpa [count] using placed.2
    · exact isBlank_of_hangul (.inl syllable)
  have alike {p : Char} (part : decompose p ⊆ decompose whole) : isBlank p = false := by
    obtain ⟨x, member⟩ := List.exists_mem_of_ne_nil _ (decompose_ne_nil p)
    rw [← isBlank_of_mem_decompose member, isBlank_of_mem_decompose (part member), visible]
  have parts := decompose_of_composite? found
  exact ⟨alike (parts ▸ List.subset_append_left _ _), alike (parts ▸ List.subset_append_right _ _), visible⟩

/-! ## Steps of a composition -/

/-- What the base and a character make together, unless the last mark between them is in the way. -/
private def joined? (base : Char) (marks : List Char) (c : Char) : Option Char :=
  match marks with
  | [] => composite? base c
  | mark :: _ => if combiningClass mark < combiningClass c then composite? base c else none

private theorem composite?_of_joined? (found : joined? base marks c = some whole) :
    composite? base c = some whole ∧ ∀ mark ∈ marks.head?, combiningClass mark < combiningClass c := by
  cases marks with
  | nil => exact ⟨found, fun _ none => nomatch none⟩
  | cons mark marks =>
    rw [joined?] at found
    split at found
    next higher => exact ⟨found, fun other first => Option.some.inj first ▸ higher⟩
    · cases found

private theorem joined?_eq_none (apart : composite? base c = none) : joined? base marks c = none :=
  Option.eq_none_iff_forall_ne_some.mpr fun whole found => by
    rw [(composite?_of_joined? found).1] at apart
    cases apart

private theorem composeFrom_cons (base : Char) (marks : List Char) (c : Char) (cs : List Char) :
    composeFrom base marks (c :: cs) =
      match joined? base marks c with
      | some whole => composeFrom whole marks cs
      | none =>
        if combiningClass c == 0 then base :: (marks.reverse ++ composeFrom c [] cs)
        else composeFrom base (c :: marks) cs := rfl

private theorem composeFrom_of_joined? (found : joined? base marks c = some whole) (cs : List Char) :
    composeFrom base marks (c :: cs) = composeFrom whole marks cs := by
  rw [composeFrom_cons, found]

private theorem composeFrom_of_apart (apart : joined? base marks c = none) (cs : List Char) :
    composeFrom base marks (c :: cs) =
      if combiningClass c == 0 then base :: (marks.reverse ++ composeFrom c [] cs)
      else composeFrom base (c :: marks) cs := by
  rw [composeFrom_cons, apart]

/-- What base characters and marks have, composed characters have if two such characters only make such. -/
theorem forall_mem_composeFrom (closed : ∀ {a b whole}, composite? a b = some whole → P a → P b → P whole)
    (first : P base) (between : ∀ x ∈ marks, P x) (rest : ∀ x ∈ cs, P x) :
    ∀ x ∈ composeFrom base marks cs, P x := by
  fun_induction composeFrom base marks cs with
  | case1 base marks => simpa using ⟨first, between⟩
  | case2 base marks c cs joined whole found ih =>
    rw [List.forall_mem_cons] at rest
    exact ih (closed (composite?_of_joined? found).1 first rest.1) between rest.2
  | case3 base marks c cs joined apart starts ih =>
    rw [List.forall_mem_cons] at rest
    intro x member
    rw [List.mem_cons, List.mem_append, List.mem_reverse] at member
    rcases member with rfl | mark | later
    · exact first
    · exact between x mark
    · exact ih rest.1 (fun _ none => nomatch none) rest.2 x later
  | case4 base marks c cs joined apart marked ih =>
    rw [List.forall_mem_cons] at rest
    exact ih first (List.forall_mem_cons.mpr ⟨rest.1, between⟩) rest.2

theorem forall_mem_compose (closed : ∀ {a b whole}, composite? a b = some whole → P a → P b → P whole)
    (all : ∀ x ∈ cs, P x) : ∀ x ∈ compose cs, P x := by
  induction cs with
  | nil => exact all
  | cons c cs ih =>
    rw [List.forall_mem_cons] at all
    rw [compose]
    split
    · exact forall_mem_composeFrom closed all.1 (fun _ none => nomatch none) all.2
    · exact List.forall_mem_cons.mpr ⟨all.1, ih all.2⟩

/-! ## Taking a composed text apart -/

/-- The text taken apart canonically, its marks in order. -/
def normalD (cs : List Char) : List Char :=
  reorder (cs.flatMap decompose)

/-- The characters of the text cannot be taken apart canonically, and its marks are in order. -/
structure IsDecomposed (cs : List Char) : Prop where
  whole : ∀ c ∈ cs, decompose c = [c]
  ordered : IsOrdered cs

theorem IsDecomposed.of_append {before after : List Char} (settled : IsDecomposed (before ++ after)) :
    IsDecomposed before ∧ IsDecomposed after :=
  have ordered := List.isChain_append.mp settled.ordered
  ⟨⟨fun c member => settled.whole c (List.mem_append_left after member), ordered.1⟩,
    ⟨fun c member => settled.whole c (List.mem_append_right before member), ordered.2.1⟩⟩

theorem IsDecomposed.tail (settled : IsDecomposed (c :: cs)) : IsDecomposed cs :=
  ⟨fun d member => settled.whole d (List.mem_cons_of_mem c member), settled.ordered.tail⟩

theorem IsDecomposed.erase {before after : List Char} (settled : IsDecomposed (before ++ c :: after))
    (inner : before = [] ∨ combiningClass c ≠ 0) : IsDecomposed (before ++ after) := by
  refine ⟨fun x member => ?_, settled.ordered.erase inner⟩
  rcases List.mem_append.mp member with first | last
  · exact settled.of_append.1.whole x first
  · exact settled.of_append.2.tail.whole x last

theorem isDecomposed_reorder (whole : ∀ c ∈ cs, decompose c = [c]) : IsDecomposed (reorder cs) :=
  ⟨fun c member => whole c ((perm_reorder cs).subset member), isOrdered_reorder cs⟩

private theorem flatMap_decompose (whole : ∀ c ∈ cs, decompose c = [c]) : cs.flatMap decompose = cs := by
  rw [List.flatMap_congr whole, List.flatMap_singleton']

private theorem normalD_composeFrom (marked : ∀ mark ∈ marks, combiningClass mark ≠ 0)
    (settled : IsDecomposed (marks.reverse ++ cs)) :
    normalD (composeFrom base marks cs) = reorder (decompose base ++ (marks.reverse ++ cs)) := by
  fun_induction composeFrom base marks cs with
  | case1 base marks =>
    rw [List.append_nil] at settled ⊢
    rw [normalD, List.flatMap_cons, flatMap_decompose settled.whole]
  | case2 base marks c cs joined whole found ih =>
    obtain ⟨made, last⟩ := composite?_of_joined? found
    have lower := combiningClass_lt_of_isOrdered marked (List.isChain_append.mp settled.ordered).1 last
    have inner : marks.reverse = [] ∨ combiningClass c ≠ 0 := by
      cases marks with
      | nil => exact .inl rfl
      | cons mark marks => exact .inr (Nat.ne_zero_of_lt (last mark rfl))
    rw [ih marked (settled.erase inner), decompose_of_composite? made, settled.whole c (by simp), List.append_assoc]
    -- the character moves to the base it was joined with
    refine reorder_append_congr (decompose base) ?_
    exact reorder_cons_append (by simpa using marked) (by simpa using lower) cs
  | case3 base marks c cs joined apart starts ih =>
    obtain ⟨between, rest⟩ := settled.of_append
    have later := ih (fun _ none => nomatch none) rest.tail
    rw [rest.whole c List.mem_cons_self] at later
    rw [normalD, List.flatMap_cons, List.flatMap_append, flatMap_decompose between.whole]
    exact reorder_append_congr (decompose base) (reorder_append_congr marks.reverse later)
  | case4 base marks c cs joined apart marked' ih =>
    have moved : (c :: marks).reverse ++ cs = marks.reverse ++ c :: cs := by simp
    rw [beq_iff_eq] at marked'
    rw [ih (List.forall_mem_cons.mpr ⟨marked', marked⟩) (moved ▸ settled), moved]

/-- A composed text is taken apart into what was composed. -/
theorem normalD_compose (settled : IsDecomposed cs) : normalD (compose cs) = cs := by
  induction cs with
  | nil => rfl
  | cons c cs ih =>
    have whole := settled.whole c List.mem_cons_self
    rw [compose]
    split
    · have parts : normalD (composeFrom c [] cs) = reorder (decompose c ++ cs) :=
        normalD_composeFrom (fun _ none => nomatch none) settled.tail
      rw [parts, whole]
      exact reorder_eq_self settled.ordered
    · have later : reorder ((compose cs).flatMap decompose) = reorder cs :=
        (ih settled.tail).trans (reorder_eq_self settled.tail.ordered).symm
      rw [normalD, List.flatMap_cons, whole, reorder_append_congr [c] later]
      exact reorder_eq_self settled.ordered

/-! ## Blanks -/

private theorem composite?_of_isBlank (blank : isBlank a = true ∨ isBlank b = true) : composite? a b = none := by
  refine Option.eq_none_iff_forall_ne_some.mpr fun whole found => ?_
  obtain ⟨first, second, -⟩ := isBlank_of_composite? found
  rw [first, second] at blank
  simp at blank

private theorem composeFrom_of_isBlank (blank : isBlank base = true) :
    composeFrom base marks cs = base :: (marks.reverse ++ compose cs) := by
  induction cs generalizing marks with
  | nil => rw [composeFrom, compose, List.append_nil]
  | cons c cs ih =>
    rw [composeFrom_of_apart (joined?_eq_none (composite?_of_isBlank (.inl blank))), compose, ih]
    split
    · rfl
    · rw [List.reverse_cons, List.append_assoc, List.singleton_append]

private theorem composeFrom_append_cons (blank : isBlank c = true) (starts : combiningClass c = 0)
    (before after : List Char) :
    composeFrom base marks (before ++ c :: after) = composeFrom base marks before ++ c :: compose after := by
  fun_induction composeFrom base marks before with
  | case1 base marks =>
    have apart : joined? base marks c = none := joined?_eq_none (composite?_of_isBlank (.inr blank))
    rw [List.nil_append, composeFrom_of_apart apart, if_pos (beq_iff_eq.mpr starts), composeFrom_of_isBlank blank]
    rfl
  | case2 base marks d before joined whole found ih => rw [List.cons_append, composeFrom_of_joined? found, ih]
  | case3 base marks d before joined apart starts ih =>
    rw [List.cons_append, composeFrom_of_apart apart, if_pos starts, ih, List.cons_append, List.append_assoc]
  | case4 base marks d before joined apart marked ih =>
    rw [List.cons_append, composeFrom_of_apart apart, if_neg marked, ih]

/-- A blank parts the text before it from the text behind it. -/
theorem compose_append_cons (blank : isBlank c = true) (starts : combiningClass c = 0) (before after : List Char) :
    compose (before ++ c :: after) = compose before ++ c :: compose after := by
  induction before with
  | nil =>
    have nothing : compose [] = [] := rfl
    rw [nothing, List.nil_append, List.nil_append, compose, if_pos (beq_iff_eq.mpr starts),
      composeFrom_of_isBlank blank, List.reverse_nil, List.nil_append]
  | cons d before ih =>
    rw [List.cons_append, compose, compose]
    split
    · exact composeFrom_append_cons blank starts before after
    · rw [ih, List.cons_append]

/-! ## The composed normal form -/

theorem normalKC_append_space (before after : List Char) :
    normalKC (before ++ ' ' :: after) = normalKC before ++ ' ' :: normalKC after := by
  have space : decomposeCompatibly ' ' = [' '] := by decide +kernel
  have starts : combiningClass ' ' = 0 := by decide +kernel
  rw [normalKC, List.flatMap_append, List.flatMap_cons, space, List.singleton_append, reorder_append_cons starts,
    compose_append_cons rfl starts, ← normalKC, ← normalKC]

theorem normalKC_eq_compose_normalD (only : ∀ c ∈ cs, IsCanonicalOnly c) : normalKC cs = compose (normalD cs) := by
  rw [normalKC, List.flatMap_congr only, ← normalD]

theorem isCanonicalOnly_of_mem_normalKC (member : c ∈ normalKC cs) : IsCanonicalOnly c := by
  refine forall_mem_compose (fun found first second => first.composite? second found) (fun d member => ?_) c member
  obtain ⟨e, -, part⟩ := List.mem_flatMap.mp ((perm_reorder _).subset member)
  exact isCanonicalOnly_of_mem_decomposeCompatibly part

/-- The normal form is taken apart into the text taken apart compatibly. -/
theorem normalD_normalKC (cs : List Char) : normalD (normalKC cs) = reorder (cs.flatMap decomposeCompatibly) := by
  refine normalD_compose (isDecomposed_reorder fun c member => ?_)
  obtain ⟨d, -, part⟩ := List.mem_flatMap.mp member
  exact expandWith_of_whole (canonicalParts?_of_compatibleParts? (compatibleParts?_of_mem_decomposeCompatibly part)) 3

/-- The normal form is its own normal form. -/
theorem normalKC_normalKC (cs : List Char) : normalKC (normalKC cs) = normalKC cs := by
  rw [normalKC_eq_compose_normalD fun _ => isCanonicalOnly_of_mem_normalKC, normalD_normalKC, ← normalKC]

/-- The normal form of a text is blank exactly when the text is. -/
theorem forall_isBlank_normalKC_iff : (∀ c ∈ normalKC cs, isBlank c = true) ↔ ∀ c ∈ cs, isBlank c = true := by
  have parts : (∀ x ∈ normalD (normalKC cs), isBlank x = true) ↔ ∀ c ∈ normalKC cs, isBlank c = true := by
    simp only [normalD, (perm_reorder _).mem_iff, List.forall_mem_flatMap, forall_isBlank_decompose_iff]
  rw [← parts, normalD_normalKC]
  simp only [(perm_reorder _).mem_iff, List.forall_mem_flatMap, forall_isBlank_decomposeCompatibly_iff]

/-- Where nothing has compatible parts, no blank comes into a text that had none. -/
theorem isBlank_of_mem_normalKC (only : ∀ c ∈ cs, IsCanonicalOnly c) (visible : ∀ c ∈ cs, isBlank c = false) :
    ∀ c ∈ normalKC cs, isBlank c = false := by
  rw [normalKC_eq_compose_normalD only]
  refine forall_mem_compose (fun found _ _ => (isBlank_of_composite? found).2.2) fun c member => ?_
  obtain ⟨d, inside, part⟩ := List.mem_flatMap.mp ((perm_reorder _).subset member)
  rw [isBlank_of_mem_decompose part, visible d inside]

end DatasetForm.Text
