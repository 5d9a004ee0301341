import DatasetForm.Proofs.Text.Resolver

/-!
Decimal digits of the scripts of the world. Each has an ASCII digit of the same value; writing that in its place
(`plainDigit`) changes neither what digits write nor which characters are blanks, letters or part of a resolver.
-/

set_option autoImplicit false
set_option relaxedAutoImplicit false

namespace DatasetForm.Text

variable {c : Char} {cs : List Char}

/-- The ASCII digit of the value of a decimal digit; other characters stay. -/
def plainDigit (c : Char) : Char :=
  match digitValue? c with
  | some n => Nat.digitChar n
  | none => c

/-- A text with all its decimal digits in ASCII. -/
def plainDigits (text : String) : String :=
  String.ofList (text.toList.map plainDigit)

/-- All decimal digits among the characters are of ASCII. -/
def HasPlainDigits (cs : List Char) : Prop :=
  ∀ c ∈ cs, isDigit c = true → isAsciiDigit c = true

instance (cs : List Char) : Decidable (HasPlainDigits cs) :=
  inferInstanceAs (Decidable (∀ c ∈ cs, _))

@[simp] theorem toList_plainDigits (text : String) : (plainDigits text).toList = text.toList.map plainDigit :=
  String.toList_ofList

theorem ascii_of_isAlnum (alnum : isAlnum c = true) : c.toNat < 0x80 := by
  simp only [isAlnum, isLowerAlnum, isCapital, Bool.or_eq_true, Bool.and_eq_true, decide_eq_true_eq] at alnum
  omega

private theorem isAsciiDigit_digitChar {n : Nat} (less : n < 10) : isAsciiDigit (Nat.digitChar n) = true := by
  rw [isAsciiDigit_iff, Nat.toNat_digitChar_of_lt_ten less]
  omega

private theorem digitValue?_digitChar {n : Nat} (less : n < 10) : digitValue? (Nat.digitChar n) = some n := by
  rw [digitValue?_of_isAsciiDigit (isAsciiDigit_digitChar less), Nat.toNat_digitChar_of_lt_ten less,
    Nat.add_sub_cancel_left]

theorem plainDigit_of_not_isDigit (notDigit : isDigit c = false) : plainDigit c = c := by
  rw [isDigit, Option.isSome_eq_false_iff, Option.isNone_iff_eq_none] at notDigit
  rw [plainDigit, notDigit]

theorem plainDigit_of_isAsciiDigit (digit : isAsciiDigit c = true) : plainDigit c = c := by
  have ⟨least, most⟩ := isAsciiDigit_iff.mp digit
  have less : c.toNat - 0x30 < 10 := by omega
  rw [plainDigit, digitValue?_of_isAsciiDigit digit, ← Char.toNat_inj, Nat.toNat_digitChar_of_lt_ten less]
  omega

theorem plainDigit_of_ascii (ascii : c.toNat < 0x80) : plainDigit c = c := by
  cases digit : isDigit c with
  | true => exact plainDigit_of_isAsciiDigit (isAsciiDigit_of_ascii ascii digit)
  | false => exact plainDigit_of_not_isDigit digit

theorem isAsciiDigit_plainDigit (digit : isDigit c = true) : isAsciiDigit (plainDigit c) = true := by
  obtain ⟨n, value⟩ := Option.isSome_iff_exists.mp digit
  obtain ⟨-, -, -, less⟩ := exists_zero value
  rw [plainDigit, value]
  exact isAsciiDigit_digitChar less

@[simp] theorem digitValue?_plainDigit (c : Char) : digitValue? (plainDigit c) = digitValue? c := by
  cases value : digitValue? c with
  | none => rw [plainDigit, value, value]
  | some n =>
    obtain ⟨-, -, -, less⟩ := exists_zero value
    rw [plainDigit, value]
    exact digitValue?_digitChar less

@[simp] theorem isDigit_plainDigit (c : Char) : isDigit (plainDigit c) = isDigit c := by
  rw [isDigit, digitValue?_plainDigit, isDigit]

/-- Characters with plain digits stay when all digits are written in ASCII. -/
theorem HasPlainDigits.map_eq (plain : HasPlainDigits cs) : cs.map plainDigit = cs := by
  have each : ∀ c ∈ cs, plainDigit c = id c := by
    intro c member
    cases digit : isDigit c with
    | true => exact plainDigit_of_isAsciiDigit (plain c member digit)
    | false => exact plainDigit_of_not_isDigit digit
  rw [List.map_congr_left each, List.map_id]

/-! ## Blanks, letters and resolvers -/

theorem isBlank_plainDigit (c : Char) : isBlank (plainDigit c) = isBlank c := by
  cases digit : isDigit c with
  | true =>
    have digit' : isDigit (plainDigit c) = true := (isDigit_plainDigit c).trans digit
    rw [isBlank_of_isDigit digit, isBlank_of_isDigit digit']
  | false => rw [plainDigit_of_not_isDigit digit]

theorem trim_map_plainDigit (cs : List Char) : trim (cs.map plainDigit) = (trim cs).map plainDigit :=
  trim_map isBlank_plainDigit cs

theorem hasPlainDigits_trim_iff : HasPlainDigits (trim cs) ↔ HasPlainDigits cs := by
  constructor
  · intro plain c member digit
    exact plain c ((mem_trim (isBlank_of_isDigit digit) cs).mpr member) digit
  · intro plain c member
    exact plain c (trim_subset cs member)

theorem upperAscii_plainDigit (c : Char) : upperAscii (plainDigit c) = plainDigit (upperAscii c) := by
  cases digit : isDigit c with
  | true =>
    have digit' : isDigit (plainDigit c) = true := (isDigit_plainDigit c).trans digit
    rw [upperAscii_of_isDigit digit, upperAscii_of_isDigit digit']
  | false =>
    have digit' : isDigit (upperAscii c) = false := (isDigit_upperAscii c).trans digit
    rw [plainDigit_of_not_isDigit digit, plainDigit_of_not_isDigit digit']

/-- A resolver without digits stands before a text with all its digits in ASCII exactly as before the text. -/
theorem dropResolver_map_plainDigit {prefixes : List String}
    (undigited : ∀ written ∈ prefixes, ∀ p ∈ written.toList, isDigit p = false) (cs : List Char) :
    dropResolver prefixes (cs.map plainDigit) = (dropResolver prefixes cs).map plainDigit := by
  apply dropResolver_map
  intro written member p inside c
  have notDigit := undigited written member p inside
  cases digit : isDigit c with
  | false => rw [plainDigit_of_not_isDigit digit]
  | true =>
    have digit' : isDigit (plainDigit c) = true := (isDigit_plainDigit c).trans digit
    rw [lowerAscii_of_isDigit digit, lowerAscii_of_isDigit digit']
    constructor
    · rintro rfl
      exact absurd digit' (Bool.eq_false_iff.mp notDigit)
    · rintro rfl
      exact absurd digit (Bool.eq_false_iff.mp notDigit)

end DatasetForm.Text
