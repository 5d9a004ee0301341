import DatasetForm.Format.Orcid
import DatasetForm.Proofs.Text.Resolver
import DatasetForm.Proofs.Value.Part
import Mathlib.Algebra.BigOperators.Fin
import Mathlib.Algebra.Field.ZMod

/-!
The check digit of ORCID identifiers. The sum that is doubled after each digit gives the characters the weights of powers
of two, and an identifier is accepted exactly when the weighted sum of all sixteen is 1 modulo 11 (`isAccepted_iff`). Two
is invertible modulo 11, so that changing one character or swapping two neighbours changes the sum.
-/

set_option autoImplicit false
set_option relaxedAutoImplicit false

namespace DatasetForm

namespace Format

open Text (isDigit isBlank digitValue? upperAscii dropResolver trim)

/-- The written form of sixteen characters: groups of four with hyphens between them. -/
def orcidChars (f : Fin 16 → Char) : List Char :=
  [f 0, f 1, f 2, f 3, '-', f 4, f 5, f 6, f 7, '-', f 8, f 9, f 10, f 11, '-', f 12, f 13, f 14, f 15]

def orcidText (f : Fin 16 → Char) : String :=
  String.ofList (orcidChars f)

/-- The characters before the check digit. -/
def orcidPayload (f : Fin 16 → Char) : List Char :=
  List.ofFn fun i : Fin 15 => f i.castSucc

theorem orcidDigits?_eq_some_iff {cs payload : List Char} {check : Char} :
    orcidDigits? cs = some (payload, check) ↔
      ∃ f, cs = orcidChars f ∧ payload = orcidPayload f ∧ check = f (Fin.last 15) ∧
        (∀ i : Fin 15, isDigit (f i.castSucc) = true) ∧ (isDigit check = true ∨ check = 'X') := by
  have digits (f : Fin 16 → Char) :
      (orcidPayload f).all isDigit = true ↔ ∀ i : Fin 15, isDigit (f i.castSucc) = true := by
    rw [List.all_eq_true, orcidPayload, List.forall_mem_ofFn_iff]
  constructor
  · intro read
    unfold orcidDigits? at read
    split at read
    next a b c d e f g h i j k l m n o last =>
      let chars : Fin 16 → Char := ![a, b, c, d, e, f, g, h, i, j, k, l, m, n, o, last]
      have payload_eq : orcidPayload chars = [a, b, c, d, e, f, g, h, i, j, k, l, m, n, o] := rfl
      rw [← payload_eq] at read
      simp only [Option.ite_none_right_eq_some, Bool.and_eq_true, Bool.or_eq_true, beq_iff_eq, Option.some.injEq,
        Prod.mk.injEq] at read
      obtain ⟨⟨all_digits, last_ok⟩, rfl, rfl⟩ := read
      exact ⟨chars, rfl, rfl, rfl, (digits chars).mp all_digits, last_ok⟩
    · cases read
  · rintro ⟨f, rfl, rfl, rfl, all_digits, last_ok⟩
    have payload_eq : orcidPayload f =
        [f 0, f 1, f 2, f 3, f 4, f 5, f 6, f 7, f 8, f 9, f 10, f 11, f 12, f 13, f 14] := rfl
    have all_digits := (digits f).mpr all_digits
    rw [payload_eq] at all_digits ⊢
    have last_ok : (isDigit (f (Fin.last 15)) || f (Fin.last 15) == 'X') = true := by simpa using last_ok
    simp only [orcidDigits?, orcidChars]
    rw [if_pos]
    · rfl
    · rw [all_digits]
      exact last_ok

/-! ## The weighted sum -/

/-- The number that a character stands for: a digit for itself, and an X for ten. -/
def orcidValue (c : Char) : Nat :=
  if c = 'X' then 10 else (digitValue? c).getD 0

/-- The characters that a check digit is written with. -/
def orcidCheckChars : List Char :=
  ['0', '1', '2', '3', '4', '5', '6', '7', '8', '9', 'X']

/-- The sum of all characters, each with the power of two for its place, modulo 11. -/
def orcidWeighted (f : Fin 16 → Char) : ZMod 11 :=
  ∑ i : Fin 16, (orcidValue (f i) : ZMod 11) * 2 ^ (15 - i.val)

theorem orcidSum_append_singleton (cs : List Char) (c : Char) :
    orcidSum (cs ++ [c]) = (orcidSum cs + (digitValue? c).getD 0) * 2 := by
  rw [orcidSum, List.foldl_append, List.foldl_cons, List.foldl_nil, orcidSum]

/-- Doubling the sum after each digit gives each digit a power of two. -/
theorem orcidSum_ofFn {n : Nat} (f : Fin n → Char) :
    orcidSum (List.ofFn f) = ∑ i : Fin n, (digitValue? (f i)).getD 0 * 2 ^ (n - i.val) := by
  induction n with
  | zero => rfl
  | succ n ih =>
    -- The characters come in at the end, where the whole sum is doubled once more.
    have earlier (i : Fin n) : 2 ^ (n + 1 - i.val) = 2 ^ (n - i.val) * 2 := by
      rw [← pow_succ]
      congr 1
      omega
    rw [List.ofFn_succ', List.concat_eq_append, orcidSum_append_singleton, ih, Fin.sum_univ_castSucc, add_mul,
      Finset.sum_mul]
    simp [earlier, mul_assoc]

theorem orcidValue_of_isDigit {c : Char} (digit : isDigit c = true) : orcidValue c = (digitValue? c).getD 0 := by
  have notX : c ≠ 'X' := by
    rintro rfl
    revert digit
    decide
  rw [orcidValue, if_neg notX]

theorem orcidWeighted_eq {f : Fin 16 → Char} (digits : ∀ i : Fin 15, isDigit (f i.castSucc) = true) :
    orcidWeighted f = (orcidSum (orcidPayload f) + orcidValue (f (Fin.last 15)) : Nat) := by
  rw [orcidWeighted, Fin.sum_univ_castSucc, orcidPayload, orcidSum_ofFn]
  push_cast
  simp [fun i => orcidValue_of_isDigit (digits i)]

/-- Changing one character changes the sum by the difference, with the weight of its place. -/
theorem orcidWeighted_update (f : Fin 16 → Char) (i : Fin 16) (c : Char) :
    orcidWeighted (Function.update f i c) =
      orcidWeighted f + ((orcidValue c : ZMod 11) - orcidValue (f i)) * 2 ^ (15 - i.val) := by
  rw [← sub_eq_iff_eq_add', orcidWeighted, orcidWeighted, ← Finset.sum_sub_distrib, Finset.sum_eq_single i]
  · rw [Function.update_self, sub_mul]
  · intro j _ other
    rw [Function.update_of_ne other, sub_self]
  · intro absent
    exact absurd (Finset.mem_univ i) absent

/-- Swapping two neighbours changes the sum by their difference, with the lower of their weights. -/
theorem orcidWeighted_swap (f : Fin 16 → Char) (i : Fin 15) :
    orcidWeighted (f ∘ Equiv.swap i.castSucc i.succ) =
      orcidWeighted f + ((orcidValue (f i.succ) : ZMod 11) - orcidValue (f i.castSucc)) * 2 ^ (14 - i.val) := by
  have apart : i.castSucc ≠ i.succ := i.castSucc_lt_succ.ne
  have weight : 15 - i.val = 14 - i.val + 1 := by omega
  have weight' : 15 - (i.val + 1) = 14 - i.val := by omega
  rw [Equiv.comp_swap_eq_update, orcidWeighted_update, orcidWeighted_update, Function.update_of_ne apart,
    Fin.val_castSucc, Fin.val_succ, weight, weight', pow_succ]
  ring

private theorem orcidValue_injective : ∀ c ∈ orcidCheckChars, ∀ d ∈ orcidCheckChars,
    (orcidValue c : ZMod 11) = orcidValue d → c = d := by
  decide

/-- Two is invertible modulo 11, so that a difference with a weight is zero only when there is no difference. -/
private theorem eq_of_weighted {c d : Char} (isCheck : c ∈ orcidCheckChars) (isCheck' : d ∈ orcidCheckChars)
    {weight : Nat} (same : ((orcidValue c : ZMod 11) - orcidValue d) * 2 ^ weight = 0) : c = d := by
  have two : (2 : ZMod 11) ≠ 0 := by decide
  have : Fact (Nat.Prime 11) := ⟨by decide⟩
  have difference : (orcidValue c : ZMod 11) - orcidValue d = 0 :=
    (mul_eq_zero.mp same).resolve_right (pow_ne_zero weight two)
  exact orcidValue_injective c isCheck d isCheck' (sub_eq_zero.mp difference)

/-! ## Acceptance -/

/-- The characters make up an identifier: fifteen digits and a check digit, with the right sum. -/
structure IsOrcid (f : Fin 16 → Char) : Prop where
  digits : ∀ i : Fin 15, isDigit (f i.castSucc) = true
  check : f (Fin.last 15) ∈ orcidCheckChars
  sum : orcidWeighted f = 1

private theorem checkChar_value : ∀ n < 11, (if n == 10 then 'X' else Nat.digitChar n) ∈ orcidCheckChars ∧
    orcidValue (if n == 10 then 'X' else Nat.digitChar n) = n := by
  decide

theorem eq_orcidCheck_iff {payload : List Char} {check : Char} :
    check = orcidCheck payload ↔
      check ∈ orcidCheckChars ∧ ((orcidSum payload + orcidValue check : Nat) : ZMod 11) = 1 := by
  obtain ⟨isCheck, value⟩ := checkChar_value ((12 - orcidSum payload % 11) % 11) (Nat.mod_lt _ (by decide))
  have check_eq : orcidCheck payload = if (12 - orcidSum payload % 11) % 11 == 10 then 'X'
      else Nat.digitChar ((12 - orcidSum payload % 11) % 11) := rfl
  rw [← check_eq] at isCheck value
  have total : ((orcidSum payload + orcidValue (orcidCheck payload) : Nat) : ZMod 11) = 1 := by
    rw [← Nat.cast_one, ZMod.natCast_eq_natCast_iff', value]
    omega
  constructor
  · rintro rfl
    exact ⟨isCheck, total⟩
  · rintro ⟨isCheck', total'⟩
    refine orcidValue_injective check isCheck' _ isCheck ?_
    rw [← total, Nat.cast_add, Nat.cast_add] at total'
    exact add_left_cancel total'

namespace IsOrcid

variable {f : Fin 16 → Char} (sound : IsOrcid f)
include sound

/-- Changing one character to another one breaks the sum. -/
theorem not_update {i : Fin 16} {c : Char} (written : f i ∈ orcidCheckChars) (isCheck : c ∈ orcidCheckChars)
    (other : c ≠ f i) : ¬IsOrcid (Function.update f i c) := by
  intro sound'
  have sum := sound'.sum
  rw [orcidWeighted_update, sound.sum, add_eq_left] at sum
  exact other (eq_of_weighted isCheck written sum)

/-- Swapping two different neighbours breaks the sum. -/
theorem not_swap {i : Fin 15} (written : f i.castSucc ∈ orcidCheckChars) (written' : f i.succ ∈ orcidCheckChars)
    (other : f i.castSucc ≠ f i.succ) : ¬IsOrcid (f ∘ Equiv.swap i.castSucc i.succ) := by
  intro sound'
  have sum := sound'.sum
  rw [orcidWeighted_swap, sound.sum, add_eq_left] at sum
  exact other (eq_of_weighted written' written sum).symm

end IsOrcid

theorem isDigit_or_eq_of_mem {c : Char} (member : c ∈ orcidCheckChars) : isDigit c = true ∨ c = 'X' := by
  revert c
  decide

theorem dropResolver_of_isBlank {v : Value} (blank : v.isBlank = true) (prefixes : List String) :
    dropResolver prefixes v.trimmedText.toList = [] := by
  have empty : v.trimmedText = "" := eq_of_beq blank
  rw [empty]
  exact List.sublist_nil.mp (Text.dropResolver_sublist prefixes [])

/-- An identifier is accepted exactly when, without resolver and with a capital X, it is written with sixteen characters
of the right sum; that is its normal form. -/
theorem checkOrcid_eq_accepted_iff {v : Value} {normal : String} :
    checkOrcid v = .accepted (some normal) ↔
      ∃ f, IsOrcid f ∧ (dropResolver orcidPrefixes v.trimmedText.toList).map upperAscii = orcidChars f ∧
        normal = orcidText f := by
  generalize bare_eq : (dropResolver orcidPrefixes v.trimmedText.toList).map upperAscii = bare
  rw [checkOrcid, bare_eq]
  cases blank : v.isBlank with
  | true =>
    have nothing : bare = [] := by
      rw [← bare_eq, dropResolver_of_isBlank blank, List.map_nil]
    rw [if_pos rfl]
    constructor
    · intro accepted
      cases accepted
    · rintro ⟨f, -, written, -⟩
      rw [nothing] at written
      cases written
  | false =>
    rw [if_neg Bool.false_ne_true]
    constructor
    · intro accepted
      split at accepted
      · cases accepted
      next payload check read =>
        split at accepted
        next right =>
          obtain ⟨f, rfl, rfl, rfl, digits, -⟩ := orcidDigits?_eq_some_iff.mp read
          obtain ⟨isCheck, sum⟩ := eq_orcidCheck_iff.mp (eq_of_beq right)
          cases accepted
          exact ⟨f, ⟨digits, isCheck, (orcidWeighted_eq digits).trans sum⟩, rfl, rfl⟩
        · cases accepted
    · rintro ⟨f, sound, rfl, rfl⟩
      have read : orcidDigits? (orcidChars f) = some (orcidPayload f, f (Fin.last 15)) :=
        orcidDigits?_eq_some_iff.mpr ⟨f, rfl, rfl, rfl, sound.digits, isDigit_or_eq_of_mem sound.check⟩
      have right : f (Fin.last 15) = orcidCheck (orcidPayload f) :=
        eq_orcidCheck_iff.mpr ⟨sound.check, (orcidWeighted_eq sound.digits).symm.trans sound.sum⟩
      rw [read]
      exact if_pos (beq_iff_eq.mpr right)

theorem orcidChars_injective {f g : Fin 16 → Char} (same : orcidChars f = orcidChars g) : f = g := by
  simp only [orcidChars, List.cons.injEq] at same
  funext i
  fin_cases i <;> simp [same]

private theorem isBlank_orcidText (f : Fin 16 → Char) : (Value.text (orcidText f)).isBlank = false := by
  have hyphen : '-' ∈ trim (orcidChars f) := (Text.mem_trim (by decide) _).mpr (by simp [orcidChars])
  rw [Value.isBlank, beq_eq_false_iff_ne]
  intro blank
  have nothing : trim (orcidChars f) = [] := by
    rw [← String.toList_ofList (l := orcidChars f), ← Text.toList_strip]
    exact congrArg String.toList blank
  rw [nothing] at hyphen
  cases hyphen

/-- Nineteen characters are as many as an identifier has, so that there is no room for blanks or a resolver. -/
theorem isOrcid_of_isAccepted {f : Fin 16 → Char} (accepted : (checkOrcid (.text (orcidText f))).isAccepted = true) :
    IsOrcid (upperAscii ∘ f) := by
  cases verdict : checkOrcid (.text (orcidText f)) with
  | refused complaint =>
    rw [verdict] at accepted
    cases accepted
  | accepted normal =>
    cases normal with
    | none =>
      exfalso
      rw [checkOrcid, isBlank_orcidText, if_neg Bool.false_ne_true] at verdict
      split at verdict
      · cases verdict
      · split at verdict <;> cases verdict
    | some normal =>
      obtain ⟨g, sound, bare, -⟩ := checkOrcid_eq_accepted_iff.mp verdict
      rw [toList_trimmedText, orcidText, String.toList_ofList] at bare
      have within : (dropResolver orcidPrefixes (trim (orcidChars f))).Sublist (orcidChars f) :=
        (Text.dropResolver_sublist _ _).trans (Text.trim_sublist _)
      have length := congrArg List.length bare
      rw [List.length_map] at length
      have mapped : orcidChars (upperAscii ∘ f) = (orcidChars f).map upperAscii := rfl
      rw [within.eq_of_length length, ← mapped] at bare
      rwa [orcidChars_injective bare]

theorem areResolvers_orcidPrefixes : Text.AreResolvers orcidPrefixes := by
  decide

private theorem checkChar_plain : ∀ c ∈ orcidCheckChars, isBlank c = false ∧ upperAscii c = c := by
  decide

namespace IsOrcid

variable {f : Fin 16 → Char} (sound : IsOrcid f)
include sound

theorem isTrimmed : Text.IsTrimmed (orcidChars f) := by
  constructor
  · intro c first
    cases first
    exact Text.isBlank_of_isDigit (sound.digits 0)
  · intro c last
    cases last
    exact (checkChar_plain _ sound.check).1

theorem map_upperAscii : (orcidChars f).map upperAscii = orcidChars f := by
  have upper : upperAscii ∘ f = f := by
    funext i
    induction i using Fin.lastCases with
    | last => exact (checkChar_plain _ sound.check).2
    | cast i => exact Text.upperAscii_of_isDigit (sound.digits i)
  have mapped : orcidChars (upperAscii ∘ f) = (orcidChars f).map upperAscii := rfl
  rw [← mapped, upper]

end IsOrcid

/-- Sixteen characters in written form are accepted exactly when, with a capital X, they make up an identifier. -/
theorem isAccepted_iff {f : Fin 16 → Char} :
    (checkOrcid (.text (orcidText f))).isAccepted = true ↔ IsOrcid (upperAscii ∘ f) := by
  constructor
  · exact isOrcid_of_isAccepted
  · intro sound
    have first : isDigit (f 0) = true := by
      rw [← Text.isDigit_upperAscii]
      exact sound.digits 0
    have trimmed : Text.IsTrimmed (orcidChars f) := by
      constructor
      · intro c member
        cases member
        exact Text.isBlank_of_isDigit first
      · intro c member
        cases member
        rw [← Text.isBlank_upperAscii]
        exact (checkChar_plain _ sound.check).1
    have bare : dropResolver orcidPrefixes (orcidChars f) = orcidChars f :=
      areResolvers_orcidPrefixes.dropResolver_digit first _
    have verdict : checkOrcid (.text (orcidText f)) = .accepted (some (orcidText (upperAscii ∘ f))) := by
      refine checkOrcid_eq_accepted_iff.mpr ⟨_, sound, ?_, rfl⟩
      rw [toList_trimmedText, orcidText, String.toList_ofList, trimmed.trim_eq, bare]
      rfl
    rw [verdict]
    rfl

/-- Fifteen digits with a character after them are accepted exactly when it is their check digit, an X in either case. -/
theorem isAccepted_snoc_iff {payload : Fin 15 → Char} (digits : ∀ i, isDigit (payload i) = true) {c : Char} :
    (checkOrcid (.text (orcidText (Fin.snoc (α := fun _ => Char) payload c)))).isAccepted = true ↔
      upperAscii c = orcidCheck (List.ofFn payload) := by
  let f : Fin 16 → Char := upperAscii ∘ Fin.snoc (α := fun _ => Char) payload c
  have before (i : Fin 15) : f i.castSucc = payload i := by
    have kept : f i.castSucc = upperAscii (payload i) := congrArg upperAscii (Fin.snoc_castSucc ..)
    rw [kept, Text.upperAscii_of_isDigit (digits i)]
  have last : f (Fin.last 15) = upperAscii c := congrArg upperAscii (Fin.snoc_last ..)
  have digits' (i : Fin 15) : isDigit (f i.castSucc) = true := by
    rw [before, digits]
  have weighted : orcidWeighted f = (orcidSum (List.ofFn payload) + orcidValue (upperAscii c) : Nat) := by
    rw [orcidWeighted_eq digits', last, orcidPayload]
    simp only [before]
  rw [isAccepted_iff, eq_orcidCheck_iff, ← weighted, ← last]
  exact ⟨fun sound => ⟨sound.check, sound.sum⟩, fun ⟨isCheck, sum⟩ => ⟨digits', isCheck, sum⟩⟩

/-- The character is a decimal digit of ASCII or an X, in either case. -/
def IsOrcidChar (c : Char) : Prop :=
  upperAscii c ∈ orcidCheckChars

instance (c : Char) : Decidable (IsOrcidChar c) :=
  inferInstanceAs (Decidable (_ ∈ _))

/-- Of an accepted identifier in ASCII digits, no character can be changed to another digit or an X, and no two different
neighbours can be swapped, without its being refused; and fifteen digits have exactly one check digit. -/
theorem checkOrcid_detects :
    (∀ f : Fin 16 → Char, (∀ i, IsOrcidChar (f i)) → (checkOrcid (.text (orcidText f))).isAccepted = true →
      (∀ i c, IsOrcidChar c → upperAscii c ≠ upperAscii (f i) →
        (checkOrcid (.text (orcidText (Function.update f i c)))).isAccepted = false) ∧
      ∀ i : Fin 15, upperAscii (f i.castSucc) ≠ upperAscii (f i.succ) →
        (checkOrcid (.text (orcidText (f ∘ Equiv.swap i.castSucc i.succ)))).isAccepted = false) ∧
    ∀ payload : Fin 15 → Char, (∀ i, isDigit (payload i) = true) →
      ∃ check ∈ orcidCheckChars, ∀ c,
        (checkOrcid (.text (orcidText (Fin.snoc (α := fun _ => Char) payload c)))).isAccepted = true ↔
          upperAscii c = check := by
  constructor
  · intro f written accepted
    have sound := isAccepted_iff.mp accepted
    constructor
    · intro i c isCheck other
      rw [Bool.eq_false_iff, Ne, isAccepted_iff, Function.comp_update]
      exact sound.not_update (written i) isCheck other
    · intro i other
      rw [Bool.eq_false_iff, Ne, isAccepted_iff, ← Function.comp_assoc]
      exact sound.not_swap (written _) (written _) other
  · intro payload digits
    have isCheck := (eq_orcidCheck_iff.mp (rfl : orcidCheck (List.ofFn payload) = _)).1
    exact ⟨orcidCheck (List.ofFn payload), isCheck, fun c => isAccepted_snoc_iff digits⟩

/-- The characters of `0000-0002-1694-233x`. -/
private def sampleOrcid : Fin 16 → Char :=
  !['0', '0', '0', '0', '0', '0', '0', '2', '1', '6', '9', '4', '2', '3', '3', 'x']

theorem checkOrcid_detects_sample :
    (∀ i, IsOrcidChar (sampleOrcid i)) ∧ (checkOrcid (.text (orcidText sampleOrcid))).isAccepted = true ∧
      (checkOrcid (.text (orcidText (Function.update sampleOrcid 8 '7')))).isAccepted = false ∧
      (checkOrcid (.text (orcidText (sampleOrcid ∘ Equiv.swap 14 15)))).isAccepted = false ∧
      ∃ check ∈ orcidCheckChars, ∀ c,
        (checkOrcid (.text (orcidText (Fin.snoc (α := fun _ => Char) (fun _ : Fin 15 => '7') c)))).isAccepted = true ↔
          upperAscii c = check := by
  have written : ∀ i, IsOrcidChar (sampleOrcid i) := by decide +kernel
  have accepted : (checkOrcid (.text (orcidText sampleOrcid))).isAccepted = true := by decide +kernel
  obtain ⟨changed, swapped⟩ := checkOrcid_detects.1 sampleOrcid written accepted
  exact ⟨written, accepted, changed 8 '7' (by decide) (by decide), swapped 14 (by decide),
    checkOrcid_detects.2 _ fun _ => by decide⟩

end Format

end DatasetForm
