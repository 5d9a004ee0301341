import DatasetForm.Proofs.Role.Label
import DatasetForm.Proofs.Text.Composition

/-!
Keys of roles. The key of a name is what is left of its small letters and digits when the whole name is taken apart, its
marks put in order and then left out, and the rest folded (`rawKey_eq_plainLetters`). A key is its own key, and the label
of a name keeps the key of the name (`labels_keep_keys`).
-/

set_option autoImplicit false
set_option relaxedAutoImplicit false

namespace DatasetForm

namespace Text

variable {c : Char}

/-! ## Marks and classes by code points -/

/-- The code points of a span. -/
def codesOf (span : Span) : List Nat :=
  List.range' span.first (span.last + 1 - span.first)

theorem mem_codesOf_iff {span : Span} {code : Nat} : code ∈ codesOf span ↔ span.holds code = true := by
  rw [codesOf, List.mem_range'_1, Span.holds, Bool.and_eq_true, decide_eq_true_eq, decide_eq_true_eq]
  omega

/-- The code points of marks, without those past all that have a class: the set is quicker to compute so. -/
def markCodes : Nat :=
  codeSet ((markSpans.filter fun span => span.last < 0x20000).flatMap codesOf)

theorem isMark_of_mem_markCodes (past : 0x300 ≤ c.toNat) (listed : markCodes.testBit c.toNat = true) :
    isMark c = true := by
  rw [markCodes, testBit_codeSet, List.mem_flatMap] at listed
  obtain ⟨span, member, inside⟩ := listed
  rw [isMark, covers, Bool.and_eq_true, decide_eq_true_eq, List.any_eq_true]
  exact ⟨past, span, List.mem_of_mem_filter member, mem_codesOf_iff.mp inside⟩

/-- What has a class of its own stands in the table of classes. -/
theorem exists_combiningRun (marked : combiningClass c ≠ 0) :
    0x300 ≤ c.toNat ∧ ∃ run ∈ combiningRuns, c.toNat ∈ codesOf run.1 := by
  rw [combiningClass] at marked
  split at marked
  · exact absurd rfl marked
  next past =>
    refine ⟨not_lt.mp past, ?_⟩
    rw [labelAt] at marked
    cases found : combiningRuns.find? (·.1.holds c.toNat) with
    | none =>
      rw [found] at marked
      exact absurd rfl marked
    | some run =>
      have held := List.find?_some found
      exact ⟨run, List.mem_of_find?_eq_some found, mem_codesOf_iff.mpr held⟩

end Text

namespace Role

open Text (isLowerAlnum isMark combiningClass fold foldChar normalD)

variable {name : String} {c : Char}

/-! ## The key of the whole name -/

/-- The small letters and digits of a text that is taken apart, without marks and without regard to case. -/
def plainLetters (cs : List Char) : List Char :=
  (fold ((normalD cs).filter fun c => !isMark c)).filter isLowerAlnum

/-- What a character that is not taken apart any more adds to the key. -/
private def lettersOf (c : Char) : List Char :=
  if isMark c then [] else (foldChar c).filter isLowerAlnum

private theorem flatMap_lettersOf (cs : List Char) :
    cs.flatMap lettersOf = (fold (cs.filter fun c => !isMark c)).filter isLowerAlnum := by
  induction cs with
  | nil => rfl
  | cons c cs ih =>
    rw [List.flatMap_cons, ih, lettersOf, List.filter_cons]
    cases isMark c with
    | true => rfl
    | false =>
      rw [if_neg Bool.false_ne_true, Bool.not_false, if_pos rfl, fold, fold, List.flatMap_cons, List.filter_append]

private theorem keyPart_eq (c : Char) : keyPart c = (Text.decompose c).flatMap lettersOf :=
  (flatMap_lettersOf _).symm

/-- What has a class of its own is a mark, or no small letter or digit comes of it. -/
private theorem combiningRuns_silent :
    (Text.combiningRuns.all fun run => (Text.codesOf run.1).all fun code =>
      Text.markCodes.testBit code || (foldChar (Char.ofNat code)).all fun d => !isLowerAlnum d) = true := by
  decide +kernel

private theorem lettersOf_of_combiningClass (c : Char) (marked : combiningClass c ≠ 0) : lettersOf c = [] := by
  obtain ⟨past, run, listed, member⟩ := Text.exists_combiningRun marked
  have silent := List.all_eq_true.mp (List.all_eq_true.mp combiningRuns_silent run listed) _ member
  rw [Char.ofNat_toNat, Bool.or_eq_true] at silent
  rw [lettersOf]
  split
  · rfl
  next other =>
    have letters := silent.resolve_left fun mark => other (Text.isMark_of_mem_markCodes past mark)
    rw [List.filter_eq_nil_iff]
    intro d inside
    simpa using List.all_eq_true.mp letters d inside

/-- The key of a name, character by character, is that of the whole name. -/
theorem rawKey_eq_plainLetters (name : String) : rawKey name = String.ofList (plainLetters name.toList) := by
  rw [rawKey, plainLetters, ← flatMap_lettersOf, normalD, Text.flatMap_reorder lettersOf_of_combiningClass,
    List.flatMap_assoc, List.flatMap_congr fun c _ => keyPart_eq c]

/-! ## Keys of keys -/

theorem isLowerAlnum_of_mem_rawKey (member : c ∈ (rawKey name).toList) : isLowerAlnum c = true := by
  rw [rawKey, String.toList_ofList] at member
  obtain ⟨d, -, part⟩ := List.mem_flatMap.mp member
  exact (List.mem_filter.mp part).2

private theorem keyPart_of_isLowerAlnum (plain : isLowerAlnum c = true) : keyPart c = [c] := by
  have each : ∀ code ∈ List.range' 0x61 26 ++ List.range' 0x30 10, keyPart (Char.ofNat code) = [Char.ofNat code] := by
    decide +kernel
  have code : c.toNat ∈ List.range' 0x61 26 ++ List.range' 0x30 10 := by
    simp only [isLowerAlnum, Bool.or_eq_true, Bool.and_eq_true, decide_eq_true_eq] at plain
    rw [List.mem_append, List.mem_range'_1, List.mem_range'_1]
    omega
  have same := each c.toNat code
  rwa [Char.ofNat_toNat] at same

theorem rawKey_eq_self {key : String} (plain : ∀ c ∈ key.toList, isLowerAlnum c = true) : rawKey key = key := by
  rw [rawKey, List.flatMap_congr fun c member => keyPart_of_isLowerAlnum (plain c member), List.flatMap_singleton',
    String.ofList_toList]

theorem isLowerAlnum_of_mem_keyOf (member : c ∈ (keyOf name).toList) : isLowerAlnum c = true := by
  rw [keyOf] at member
  split at member
  · have each : ∀ c ∈ contactPerson.key.toList, isLowerAlnum c = true := by decide
    exact each c member
  · exact isLowerAlnum_of_mem_rawKey member

/-- No key is one that is replaced. -/
theorem keyOf_ne_pointOfContact (name : String) : keyOf name ≠ "pointofcontact" := by
  rw [keyOf]
  split
  · decide
  next kept => simpa using kept

/-- A key is the key of itself. -/
theorem keyOf_keyOf (name : String) : keyOf (keyOf name) = keyOf name := by
  have same : rawKey (keyOf name) = keyOf name := rawKey_eq_self fun _ => isLowerAlnum_of_mem_keyOf
  rw [keyOf, same, if_neg]
  simpa using keyOf_ne_pointOfContact name

/-- The key of a name is read off the whole name and holds small letters and digits only. It is its own key and that of
the label of the name, and a label is its own label. -/
theorem labels_keep_keys (name : String) :
    rawKey name = String.ofList (plainLetters name.toList) ∧
      keyOf (labelOf name) = keyOf name ∧ keyOf (keyOf name) = keyOf name ∧
      (∀ c ∈ (keyOf name).toList, isLowerAlnum c = true) ∧ labelOf (labelOf name) = labelOf name :=
  ⟨rawKey_eq_plainLetters name, keyOf_labelOf name, keyOf_keyOf name, fun _ => isLowerAlnum_of_mem_keyOf,
    labelOf_labelOf name⟩

end Role

end DatasetForm
