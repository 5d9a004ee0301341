import DatasetForm.Format.Year
import DatasetForm.Proofs.Text.Digit
import DatasetForm.Proofs.Value.Order
import DatasetForm.Proofs.Value.Part

/-!
Publication years as texts: the number that four decimal digits write is judged like a year given as a number. A number
need not have four digits, so that a year and its decimal text are judged alike exactly within bounds that let in no
other years (`checkYear_decimal`).
-/

set_option autoImplicit false
set_option relaxedAutoImplicit false

namespace DatasetForm

namespace Format

/-- Four digits that write a year. -/
structure IsYearText (digit : Char → Bool) (cs : List Char) (year : Nat) : Prop where
  four : cs.length = 4
  digits : ∀ c ∈ cs, digit c = true
  writes : Text.Writes cs year

theorem readYear?_eq_some_iff (text : String) (year : Nat) :
    readYear? text = some year ↔ text.length = 4 ∧ Text.Writes text.toList year := by
  rw [← Text.readDigits?_eq_some_iff, ← String.length_toList, readYear?]
  constructor
  · intro read
    split at read
    next chars => exact ⟨by rw [chars]; rfl, by rw [chars]; exact read⟩
    · cases read
  · rintro ⟨four, read⟩
    obtain ⟨a, b, c, d, chars⟩ := List.length_eq_four.mp four
    rw [chars] at read ⊢
    exact read

theorem readYear?_eq_some_iff_isYearText {text : String} {year : Nat} :
    readYear? text = some year ↔ IsYearText Text.isDigit text.toList year := by
  rw [readYear?_eq_some_iff, ← String.length_toList]
  constructor
  · rintro ⟨four, writes⟩
    exact ⟨four, fun _ => writes.isDigit, writes⟩
  · intro year
    exact ⟨year.four, year.writes⟩

/-- A text is accepted when it writes a year that is accepted as a number. -/
theorem checkYear_text_iff {least most : Value} {today : Date} {text : String} :
    checkYear least most today (.text text) = .ok (.accepted none) ↔
      ∃ year, IsYearText Text.isDigit (Value.text text).trimmedText.toList year ∧
        checkYear least most today (.int year) = .ok (.accepted none) := by
  simp only [← readYear?_eq_some_iff_isYearText, checkYear]
  cases readYear? (Value.text text).trimmedText with
  | none => simp
  | some year => simp

/-! ## Years as numbers -/

theorem checkYearRange_int (least most year : Int) :
    checkYearRange (.int least) (.int most) year =
      .ok (if least ≤ year ∧ year ≤ most then .accepted none else .refused (.yearRange (.int least) (.int most))) := by
  rw [checkYearRange, Value.compares_less_int, Value.compares_greater_int]
  by_cases early : year < least
  · have outside : ¬(least ≤ year ∧ year ≤ most) := by omega
    rw [decide_eq_true early, if_neg outside]
  · by_cases late : most < year
    · have outside : ¬(least ≤ year ∧ year ≤ most) := by omega
      rw [decide_eq_false early, decide_eq_true late, if_neg outside]
    · have inside : least ≤ year ∧ year ≤ most := by omega
      rw [decide_eq_false early, decide_eq_false late, if_pos inside]

/-- The last year that is accepted, as a value; null where no bound is set. -/
def boundValue : Option Int → Value
  | none => .null
  | some most => .int most

theorem lastYear_boundValue (most : Option Int) (today : Date) :
    lastYear (boundValue most) today = .int (most.getD (today.year + 1)) := by
  cases most <;> rfl

theorem checkYear_int_iff {least year : Int} {most : Option Int} {today : Date} :
    checkYear (.int least) (boundValue most) today (.int year) = .ok (.accepted none) ↔
      least ≤ year ∧ year ≤ most.getD (today.year + 1) := by
  rw [checkYear, lastYear_boundValue, checkYearRange_int, Except.ok.injEq]
  split
  next inside => exact iff_of_true rfl inside
  next outside => exact iff_of_false nofun outside

/-! ## Decimal texts of numbers -/

private theorem length_toDigits_eq_four_iff (n : Nat) : (Nat.toDigits 10 n).length = 4 ↔ 1000 ≤ n ∧ n ≤ 9999 := by
  have atMostFour : (Nat.toDigits 10 n).length ≤ 4 ↔ n < 10 ^ 4 := Nat.length_toDigits_le_iff (by decide) (by decide)
  have atMostThree : (Nat.toDigits 10 n).length ≤ 3 ↔ n < 10 ^ 3 := Nat.length_toDigits_le_iff (by decide) (by decide)
  omega

/-- There is nothing to trim at a number. -/
private theorem trim_toString (number : Int) : Text.trim (toString number).toList = (toString number).toList := by
  have visible : ∀ c ∈ (toString number).toList, Text.isBlank c = false := by
    have digits (n : Nat) : ∀ c ∈ n.repr.toList, Text.isBlank c = false := by
      intro c member
      rw [Nat.toList_repr] at member
      exact Text.isBlank_of_isDigit ((Text.writes_toDigits n).isDigit member)
    cases number with
    | ofNat n => exact digits n
    | negSucc n =>
      have minus : ∀ c ∈ "-".toList, Text.isBlank c = false := by decide
      intro c member
      have either : c ∈ "-".toList ∨ c ∈ (n + 1).repr.toList := by
        rw [← List.mem_append, ← String.toList_append]
        exact member
      exact either.elim (minus c) (digits (n + 1) c)
  have trimmed : Text.IsTrimmed (toString number).toList := by
    constructor
    · intro c first
      exact visible c (List.mem_of_mem_head? first)
    · intro c last
      exact visible c (List.mem_of_mem_getLast? last)
  exact trimmed.trim_eq

theorem readYear?_toString {number : Int} {year : Nat} :
    readYear? (toString number) = some year ↔ (1000 ≤ number ∧ number ≤ 9999) ∧ (year : Int) = number := by
  rw [readYear?_eq_some_iff, ← String.length_toList]
  cases number with
  | ofNat n =>
    have chars : (toString (Int.ofNat n)).toList = Nat.toDigits 10 n := Nat.toList_repr
    rw [chars, length_toDigits_eq_four_iff]
    constructor
    · rintro ⟨four, writes⟩
      have same := writes.unique (Text.writes_toDigits n)
      simp only [Int.ofNat_eq_natCast]
      omega
    · rintro ⟨four, same⟩
      simp only [Int.ofNat_eq_natCast] at four same
      have value : year = n := by omega
      exact ⟨by omega, value ▸ Text.writes_toDigits n⟩
  | negSucc n =>
    have minus : '-' ∈ (toString (Int.negSucc n)).toList := by
      have chars : toString (Int.negSucc n) = "-" ++ (n + 1).repr := rfl
      simp [chars]
    constructor
    · rintro ⟨-, writes⟩
      have digit := writes.isDigit minus
      cases digit
    · rintro ⟨four, -⟩
      omega

/-- The decimal text of a year is accepted exactly when the year itself is and has four digits. Hence all years are
judged like their texts exactly when the bounds let in no year, or only years of four digits. -/
theorem checkYear_decimal (today : Date) :
    (∀ (least most : Value) (year : Int),
      checkYear least most today (.text (toString year)) = .ok (.accepted none) ↔
        (1000 ≤ year ∧ year ≤ 9999) ∧ checkYear least most today (.int year) = .ok (.accepted none)) ∧
    ∀ (least : Int) (most : Option Int),
      (∀ year : Int, checkYear (.int least) (boundValue most) today (.int year) = .ok (.accepted none) ↔
        checkYear (.int least) (boundValue most) today (.text (toString year)) = .ok (.accepted none)) ↔
      most.getD (today.year + 1) < least ∨ 1000 ≤ least ∧ most.getD (today.year + 1) ≤ 9999 := by
  have decimal (least most : Value) (year : Int) :
      checkYear least most today (.text (toString year)) = .ok (.accepted none) ↔
        (1000 ≤ year ∧ year ≤ 9999) ∧ checkYear least most today (.int year) = .ok (.accepted none) := by
    have trimmed : (Value.text (toString year)).trimmedText = toString year := by
      rw [← String.toList_inj, toList_trimmedText, trim_toString]
    rw [checkYear_text_iff]
    simp only [← readYear?_eq_some_iff_isYearText, trimmed, readYear?_toString]
    constructor
    · rintro ⟨_, ⟨four, rfl⟩, accepted⟩
      exact ⟨four, accepted⟩
    · rintro ⟨four, accepted⟩
      have natural : (year.toNat : Int) = year := Int.toNat_of_nonneg (by omega)
      exact ⟨year.toNat, ⟨four, natural⟩, natural ▸ accepted⟩
  refine ⟨decimal, fun least most => ?_⟩
  simp only [decimal, checkYear_int_iff]
  generalize most.getD (today.year + 1) = last
  constructor
  · intro alike
    by_cases empty : last < least
    · exact .inl empty
    · -- the bounds themselves are the years to look at
      have first := (alike least).mp (by omega)
      have final := (alike last).mp (by omega)
      omega
  · intro bounds year
    omega

/-- A year of three digits that is accepted as a number and refused as a text. -/
theorem checkYear_decimal_early :
    let today : Date := ⟨2024, 6, 15, by decide⟩
    toString (999 : Int) = "999" ∧
      checkYear (.int 500) (.int 2000) today (.int 999) = .ok (.accepted none) ∧
      checkYear (.int 500) (.int 2000) today (.text "999") = .ok (.refused .yearForm) ∧
      ¬(checkYear (.int 500) (.int 2000) today (.int 999) = .ok (.accepted none) ↔
        checkYear (.int 500) (.int 2000) today (.text (toString (999 : Int))) = .ok (.accepted none)) := by
  intro today
  have text : toString (999 : Int) = "999" := by decide
  have number : checkYear (.int 500) (.int 2000) today (.int 999) = .ok (.accepted none) := rfl
  have written : checkYear (.int 500) (.int 2000) today (.text "999") = .ok (.refused .yearForm) := rfl
  refine ⟨text, number, written, fun alike => ?_⟩
  rw [text, written] at alike
  cases alike.mp number

end Format

end DatasetForm
