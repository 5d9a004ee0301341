import DatasetForm.Proofs.Text.Case
import DatasetForm.Text.Quoted
import DatasetForm.Text.Utf8Message
import Mathlib.Data.List.TakeWhile

/-!
Texts without halves of surrogate pairs, which are those that can be written.
-/

set_option autoImplicit false
set_option relaxedAutoImplicit false

namespace DatasetForm.Text

theorem isHalf_iff {c : Char} : isHalf c = true ↔ 0x7D800 ≤ c.toNat ∧ c.toNat ≤ 0x7DFFF := by
  rw [isHalf, isHalfCode, isHighHalf, isLowHalf, halfDistance, Bool.or_eq_true, Bool.and_eq_true, Bool.and_eq_true,
    decide_eq_true_iff, decide_eq_true_iff, decide_eq_true_iff, decide_eq_true_iff]
  omega

theorem isHalf_of_lt {c : Char} (small : c.toNat < 0x7D800) : isHalf c = false := by
  rw [Bool.eq_false_iff, Ne, isHalf_iff]
  omega

/-- The text holds no half of a surrogate pair. -/
def IsWhole (text : String) : Prop :=
  ∀ c ∈ text.toList, isHalf c = false

instance (text : String) : Decidable (IsWhole text) :=
  decidableForallMem (fun c => isHalf c = false) text.toList

private theorem drop_length_takeWhile (p : Char → Bool) (cs : List Char) :
    cs.drop (cs.takeWhile p).length = cs.dropWhile p := by
  induction cs with
  | nil => rfl
  | cons c cs ih =>
    rw [List.takeWhile_cons, List.dropWhile_cons]
    split
    · exact ih
    · rfl

theorem halfFault?_eq_none_iff {text : String} : halfFault? text = none ↔ IsWhole text := by
  have first := List.head?_dropWhile_not (fun c => !isHalf c) text.toList
  have whole : IsWhole text ↔ (text.toList.dropWhile fun c => !isHalf c) = [] := by
    rw [List.dropWhile_eq_nil_iff]
    simp [IsWhole]
  rw [halfFault?, drop_length_takeWhile, whole, Option.map_eq_none_iff, List.head?_eq_none_iff]
  cases rest : text.toList.dropWhile fun c => !isHalf c with
  | nil => simp
  | cons c cs =>
    rw [rest] at first
    have half : isHalf c = true := by simpa using first
    simp [half]

/-! ## Texts that are whole -/

variable {s t : String} {c : Char}

@[simp] theorem isWhole_append : IsWhole (s ++ t) ↔ IsWhole s ∧ IsWhole t := by
  rw [IsWhole, String.toList_append, List.forall_mem_append, IsWhole, IsWhole]

theorem IsWhole.append (left : IsWhole s) (right : IsWhole t) : IsWhole (s ++ t) :=
  isWhole_append.mpr ⟨left, right⟩

theorem IsWhole.subset (whole : IsWhole t) (within : s.toList ⊆ t.toList) : IsWhole s :=
  fun c member => whole c (within member)

private theorem isHalf_of_isDigit (digit : c.isDigit = true) : isHalf c = false := by
  obtain ⟨-, high⟩ := Char.isDigit_iff_toNat.mp digit
  exact isHalf_of_lt (Nat.lt_of_le_of_lt high (by decide))

theorem isHalf_of_mem_toDigits {n : Nat} (member : c ∈ Nat.toDigits 10 n) : isHalf c = false :=
  isHalf_of_isDigit (Nat.isDigit_of_mem_toDigits (by decide) (by decide) member)

@[simp] theorem isWhole_repr (n : Nat) : IsWhole n.repr := by
  intro c member
  rw [Nat.toList_repr] at member
  exact isHalf_of_mem_toDigits member

@[simp] theorem isWhole_toString_int (n : Int) : IsWhole (toString n) := by
  have minus : IsWhole "-" := by decide
  cases n with
  | ofNat n => exact isWhole_repr n
  | negSucc n => exact isWhole_append.mpr ⟨minus, isWhole_repr (n + 1)⟩

private theorem hexDigit_ascii : ∀ n < 16, 0x20 ≤ (Nat.digitChar n).toNat ∧ (Nat.digitChar n).toNat < 0x80 := by
  decide

theorem ascii_of_mem_hexDigits {width n : Nat} (member : c ∈ hexDigits width n) : 0x20 ≤ c.toNat ∧ c.toNat < 0x80 := by
  induction width generalizing n with
  | zero => cases member
  | succ width ih =>
    rw [hexDigits, List.mem_append, List.mem_singleton] at member
    rcases member with before | rfl
    · exact ih before
    · exact hexDigit_ascii _ (Nat.mod_lt n (by decide))

private theorem isHalf_of_mem_escapeChar {mark d : Char} (whole : isHalf d = false)
    (member : c ∈ escapeChar mark d) : isHalf c = false := by
  have coded (lead : List Char) (width : Nat) (lead_whole : ∀ c ∈ lead, isHalf c = false)
      (member : c ∈ lead ++ hexDigits width (codeOf d)) : isHalf c = false := by
    rcases List.mem_append.mp member with front | digit
    · exact lead_whole c front
    · exact isHalf_of_lt (Nat.lt_trans (ascii_of_mem_hexDigits digit).2 (by decide))
  have slashed {e : Char} (letter : isHalf e = false) (member : c ∈ ['\\', e]) : isHalf c = false := by
    rcases List.mem_cons.mp member with rfl | there
    · decide
    · rwa [List.mem_singleton.mp there]
  rw [escapeChar] at member
  split at member
  · exact slashed whole member
  split at member
  · exact slashed (by decide) member
  split at member
  · exact slashed (by decide) member
  split at member
  · exact slashed (by decide) member
  cases printable : isPrintable d with
  | true =>
    rw [printable, if_pos rfl, List.mem_singleton] at member
    rw [member]
    exact whole
  | false =>
    simp only [printable, Bool.false_eq_true, if_false, escapeCode] at member
    split at member
    · exact coded ['\\', 'x'] 2 (by decide) member
    split at member
    · exact coded ['\\', 'u'] 4 (by decide) member
    · exact coded ['\\', 'U'] 8 (by decide) member

theorem IsWhole.quoted (whole : IsWhole t) : IsWhole (quoted t) := by
  intro c member
  have mark : isHalf (quoteMark t.toList) = false := by
    rw [quoteMark]
    split <;> decide
  rw [Text.quoted, String.toList_ofList, List.cons_append, List.mem_cons, List.mem_append, List.mem_flatMap,
    List.mem_singleton] at member
  rcases member with rfl | ⟨d, inText, written⟩ | rfl
  · exact mark
  · exact isHalf_of_mem_escapeChar (whole d inText) written
  · exact mark

end DatasetForm.Text
