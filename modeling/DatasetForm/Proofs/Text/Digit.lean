import DatasetForm.Proofs.Text.Trim
import DatasetForm.Text.Digit
import Mathlib.Data.Nat.Digits.Defs

/-!
Reading decimal digits gives the number that they write to base ten.
-/

set_option autoImplicit false
set_option relaxedAutoImplicit false

namespace DatasetForm.Text

private theorem isDigit_ofNat : ∀ code ∈ blankCodes, isDigit (Char.ofNat code) = false := by
  decide

theorem isBlank_of_isDigit {c : Char} (digit : isDigit c = true) : isBlank c = false := by
  rw [Bool.eq_false_iff]
  intro blank
  have never := isDigit_ofNat c.toNat (mem_blankCodes blank)
  rw [Char.ofNat_toNat, digit] at never
  cases never

/-- The characters are decimal digits that write a number. -/
def Writes (cs : List Char) (n : Nat) : Prop :=
  ∃ digits : List Nat, cs.map digitValue? = digits.map some ∧ n = Nat.ofDigits 10 digits.reverse

/-- Reading goes on from the number that was read before. -/
private theorem foldl_read (cs : List Char) (read : Option Nat) (n : Nat) :
    cs.foldl (fun read c => read.bind fun m => (digitValue? c).map (10 * m + ·)) read = some n ↔
      ∃ (m : Nat) (digits : List Nat), read = some m ∧ cs.map digitValue? = digits.map some ∧
        n = 10 ^ digits.length * m + Nat.ofDigits 10 digits.reverse := by
  induction cs generalizing read with
  | nil =>
    constructor
    · intro h
      exact ⟨n, [], h, rfl, by simp⟩
    · rintro ⟨m, digits, rfl, hdigits, rfl⟩
      have : digits = [] := List.map_eq_nil_iff.mp hdigits.symm
      simp [this]
  | cons c cs ih =>
    rw [List.foldl_cons, ih]
    constructor
    · rintro ⟨m, digits, hm, hdigits, rfl⟩
      obtain ⟨before, rfl, hm⟩ := Option.bind_eq_some_iff.mp hm
      obtain ⟨digit, hdigit, rfl⟩ := Option.map_eq_some_iff.mp hm
      refine ⟨before, digit :: digits, rfl, by simp [hdigit, hdigits], ?_⟩
      rw [List.reverse_cons, Nat.ofDigits_append, Nat.ofDigits_singleton, List.length_reverse,
        List.length_cons]
      ring
    · rintro ⟨m, digits, rfl, hdigits, rfl⟩
      cases digits with
      | nil => simp at hdigits
      | cons digit digits =>
        simp only [List.map_cons, List.cons.injEq] at hdigits
        refine ⟨10 * m + digit, digits, by simp [hdigits.1], hdigits.2, ?_⟩
        rw [List.reverse_cons, Nat.ofDigits_append, Nat.ofDigits_singleton, List.length_reverse,
          List.length_cons]
        ring

theorem readDigits?_eq_some_iff (cs : List Char) (n : Nat) : readDigits? cs = some n ↔ Writes cs n := by
  rw [readDigits?, foldl_read]
  constructor
  · rintro ⟨m, digits, hm, hdigits, rfl⟩
    refine ⟨digits, hdigits, ?_⟩
    rw [← Option.some.inj hm, Nat.mul_zero, Nat.zero_add]
  · rintro ⟨digits, hdigits, rfl⟩
    exact ⟨0, digits, rfl, hdigits, by simp⟩

theorem Writes.isDigit {cs : List Char} {n : Nat} (h : Writes cs n) {c : Char} (hc : c ∈ cs) :
    isDigit c = true := by
  obtain ⟨digits, hdigits, _⟩ := h
  have : digitValue? c ∈ digits.map some := hdigits ▸ List.mem_map_of_mem hc
  obtain ⟨digit, _, hdigit⟩ := List.mem_map.mp this
  rw [DatasetForm.Text.isDigit, ← hdigit]
  rfl

/-- Decimal digits always write a number. -/
theorem exists_writes {cs : List Char} (digits : cs.all isDigit = true) : ∃ n, Writes cs n := by
  have values : cs.map digitValue? = (cs.filterMap digitValue?).map some := by
    induction cs with
    | nil => rfl
    | cons c cs ih =>
      rw [List.all_cons, Bool.and_eq_true] at digits
      obtain ⟨digit, value⟩ := Option.isSome_iff_exists.mp digits.1
      rw [List.map_cons, List.filterMap_cons_some value, List.map_cons, value, ih digits.2]
  exact ⟨_, _, values, rfl⟩

theorem Writes.unique {cs : List Char} {m n : Nat} (first : Writes cs m) (second : Writes cs n) : m = n := by
  have reads := (readDigits?_eq_some_iff cs m).mpr first
  rw [(readDigits?_eq_some_iff cs n).mpr second] at reads
  exact (Option.some.inj reads).symm

/-! ## ASCII -/

theorem isAsciiDigit_iff {c : Char} : isAsciiDigit c = true ↔ 0x30 ≤ c.toNat ∧ c.toNat ≤ 0x39 := by
  rw [isAsciiDigit, Bool.and_eq_true, decide_eq_true_eq, decide_eq_true_eq]

theorem digitValue?_of_isAsciiDigit {c : Char} (digit : isAsciiDigit c = true) :
    digitValue? c = some (c.toNat - 0x30) := by
  have range := isAsciiDigit_iff.mp digit
  have first : digitZeros.find? (fun start => start ≤ c.toNat && c.toNat < start + 10) = some 0x30 := by
    rw [digitZeros, List.find?_cons_of_pos]
    rw [Bool.and_eq_true, decide_eq_true_eq, decide_eq_true_eq]
    omega
  rw [digitValue?, first, Option.map_some]

theorem isDigit_of_isAsciiDigit {c : Char} (digit : isAsciiDigit c = true) : isDigit c = true := by
  rw [isDigit, digitValue?_of_isAsciiDigit digit, Option.isSome_some]

/-- A decimal digit stands among the ten from the zero of its script on. -/
theorem exists_zero {c : Char} {n : Nat} (value : digitValue? c = some n) :
    ∃ start ∈ digitZeros, c.toNat = start + n ∧ n < 10 := by
  obtain ⟨start, found, rfl⟩ := Option.map_eq_some_iff.mp value
  have range := List.find?_some found
  rw [Bool.and_eq_true, decide_eq_true_eq, decide_eq_true_eq] at range
  exact ⟨start, List.mem_of_find?_eq_some found, by omega, by omega⟩

private theorem digitZeros_past : ∀ start ∈ digitZeros, start = 0x30 ∨ 0x80 ≤ start := by
  decide

theorem isAsciiDigit_of_ascii {c : Char} (ascii : c.toNat < 0x80) (digit : isDigit c = true) :
    isAsciiDigit c = true := by
  obtain ⟨n, value⟩ := Option.isSome_iff_exists.mp digit
  obtain ⟨start, member, code, less⟩ := exists_zero value
  have past := digitZeros_past start member
  rw [isAsciiDigit_iff]
  omega

private theorem readDigits?_ascii {cs : List Char} (digits : ∀ c ∈ cs, isAsciiDigit c = true) :
    readDigits? cs = some (Nat.ofDigitChars 10 cs 0) := by
  rw [readDigits?, Nat.ofDigitChars]
  generalize 0 = read
  induction cs generalizing read with
  | nil => rfl
  | cons c cs ih =>
    have value : digitValue? c = some (c.toNat - '0'.toNat) := digitValue?_of_isAsciiDigit (digits c List.mem_cons_self)
    have next := ih (fun other member => digits other (List.mem_cons_of_mem c member))
    simpa only [List.foldl_cons, value, Option.bind_some, Option.map_some] using next _

/-- The text of a number writes it. -/
theorem writes_toDigits (n : Nat) : Writes (Nat.toDigits 10 n) n := by
  rw [← readDigits?_eq_some_iff]
  have digits : ∀ c ∈ Nat.toDigits 10 n, isAsciiDigit c = true := by
    intro c member
    rw [isAsciiDigit_iff]
    exact Char.isDigit_iff_toNat.mp (Nat.isDigit_of_mem_toDigits (by decide) (by decide) member)
  rw [readDigits?_ascii digits, Nat.ofDigitChars_ten_toDigits]

end DatasetForm.Text
