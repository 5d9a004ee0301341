import DatasetForm.Dates.Token
import DatasetForm.Proofs.Calendar.Date
import DatasetForm.Proofs.Text.Digit

/-!
Days as texts. A text names a day when it is written `YYYY`, `YYYY-MM` or `YYYY-MM-DD` in decimal digits and the
calendar has the day (`dayOf?_eq_some_iff`), and every day is read back from its own text (`dayOf?_text`).
-/

set_option autoImplicit false
set_option relaxedAutoImplicit false

namespace DatasetForm

open Text (isDigit isBlank readDigits? trim)

/-- Decimal digits, `width` of them, that write a number. -/
structure IsNumeral (width : Nat) (cs : List Char) (n : Nat) : Prop where
  length : cs.length = width
  writes : Text.Writes cs n

/-- A date as it is written, with the numbers of the first day that it names: a year of four digits, after it perhaps
a hyphen and a month of two, and after that perhaps a hyphen and a day of two. -/
inductive IsDateText : List Char → Nat → Nat → Nat → Prop
  | year {ys : List Char} {year : Nat} : IsNumeral 4 ys year → IsDateText ys year 1 1
  | month {ys ms : List Char} {year month : Nat} : IsNumeral 4 ys year → IsNumeral 2 ms month →
      IsDateText (ys ++ '-' :: ms) year month 1
  | day {ys ms ds : List Char} {year month day : Nat} : IsNumeral 4 ys year → IsNumeral 2 ms month →
      IsNumeral 2 ds day → IsDateText (ys ++ '-' :: ms ++ '-' :: ds) year month day

theorem isNumeral_iff {width n : Nat} {cs : List Char} :
    IsNumeral width cs n ↔ cs.length = width ∧ readDigits? cs = some n := by
  rw [Text.readDigits?_eq_some_iff]
  exact ⟨fun numeral => ⟨numeral.length, numeral.writes⟩, fun ⟨length, writes⟩ => ⟨length, writes⟩⟩

theorem IsNumeral.isDigit {width n : Nat} {cs : List Char} (numeral : IsNumeral width cs n) :
    ∀ c ∈ cs, isDigit c = true :=
  fun _ => numeral.writes.isDigit

namespace IsDateText

variable {cs : List Char} {year month day : Nat}

theorem mem (date : IsDateText cs year month day) : ∀ c ∈ cs, isDigit c = true ∨ c = '-' := by
  have digits {width n : Nat} {ns : List Char} (numeral : IsNumeral width ns n) :
      ∀ c ∈ ns, isDigit c = true ∨ c = '-' := fun c member => .inl (numeral.isDigit c member)
  cases date with
  | year ys => exact digits ys
  | month ys ms =>
    simp only [List.forall_mem_append, List.forall_mem_cons]
    exact ⟨digits ys, .inr trivial, digits ms⟩
  | day ys ms ds =>
    simp only [List.forall_mem_append, List.forall_mem_cons]
    exact ⟨⟨digits ys, .inr trivial, digits ms⟩, .inr trivial, digits ds⟩

/-- A date holds digits and hyphens only. -/
theorem not_mem {c : Char} (digit : isDigit c = false) (hyphen : c ≠ '-') (date : IsDateText cs year month day) :
    c ∉ cs := by
  intro member
  rcases date.mem c member with found | rfl
  · rw [digit] at found
    cases found
  · exact hyphen rfl

theorem trim_eq (date : IsDateText cs year month day) : trim cs = cs := by
  have visible : ∀ c ∈ cs, isBlank c = false := by
    intro c member
    rcases date.mem c member with digit | rfl
    · exact Text.isBlank_of_isDigit digit
    · rfl
  refine Text.IsTrimmed.trim_eq ⟨?_, ?_⟩
  · exact fun c first => visible c (List.mem_of_mem_head? first)
  · exact fun c last => visible c (List.mem_of_getLast? last)

end IsDateText

theorem isNumeral_padded {width n : Nat} (positive : 0 < width) (fits : n < 10 ^ width) :
    IsNumeral width (Date.padded width n) n := by
  have short : (Nat.toDigits 10 n).length ≤ width := (Nat.length_toDigits_le_iff (by decide) positive).mpr fits
  obtain ⟨digits, values, value⟩ := Text.writes_toDigits n
  refine ⟨?_, List.replicate (width - (Nat.toDigits 10 n).length) 0 ++ digits, ?_, ?_⟩
  · rw [Date.padded, List.length_append, List.length_replicate]
    omega
  · have zero : Text.digitValue? '0' = some 0 := by decide
    rw [Date.padded, List.map_append, List.map_append, List.map_replicate, List.map_replicate, zero, values]
  · rw [List.reverse_append, List.reverse_replicate, Nat.ofDigits_append_replicate_zero]
    exact value

theorem Date.isDateText_chars (d : Date) : IsDateText d.chars d.year d.month d.day := by
  have numbers := d.isGregorian
  refine .day (isNumeral_padded (by decide) ?_) (isNumeral_padded (by decide) ?_) (isNumeral_padded (by decide) ?_)
  · exact Nat.lt_of_le_of_lt numbers.years.2 (by decide)
  · exact Nat.lt_of_le_of_lt numbers.months.2 (by decide)
  · exact Nat.lt_of_le_of_lt numbers.days.2 (by decide)

namespace DateToken

theorem dayNumbers?_eq_some_iff {cs : List Char} {year month day : Nat} :
    dayNumbers? cs = some (year, month, day) ↔ IsDateText cs year month day := by
  constructor
  · intro found
    unfold dayNumbers? at found
    split at found
    next y₁ y₂ y₃ y₄ =>
      obtain ⟨_, ys, same⟩ := Option.map_eq_some_iff.mp found
      cases same
      exact .year (isNumeral_iff.mpr ⟨rfl, ys⟩)
    next y₁ y₂ y₃ y₄ m₁ m₂ =>
      obtain ⟨_, ys, found⟩ := Option.bind_eq_some_iff.mp found
      obtain ⟨_, ms, same⟩ := Option.bind_eq_some_iff.mp found
      cases same
      exact .month (isNumeral_iff.mpr ⟨rfl, ys⟩) (isNumeral_iff.mpr ⟨rfl, ms⟩)
    next y₁ y₂ y₃ y₄ m₁ m₂ d₁ d₂ =>
      obtain ⟨_, ys, found⟩ := Option.bind_eq_some_iff.mp found
      obtain ⟨_, ms, found⟩ := Option.bind_eq_some_iff.mp found
      obtain ⟨_, ds, same⟩ := Option.bind_eq_some_iff.mp found
      cases same
      exact .day (isNumeral_iff.mpr ⟨rfl, ys⟩) (isNumeral_iff.mpr ⟨rfl, ms⟩) (isNumeral_iff.mpr ⟨rfl, ds⟩)
    · cases found
  · intro date
    cases date with
    | year ys =>
      have year := (isNumeral_iff.mp ys).2
      obtain ⟨y₁, y₂, y₃, y₄, rfl⟩ := List.length_eq_four.mp ys.length
      simp [dayNumbers?, year]
    | month ys ms =>
      have year := (isNumeral_iff.mp ys).2
      have month := (isNumeral_iff.mp ms).2
      obtain ⟨y₁, y₂, y₃, y₄, rfl⟩ := List.length_eq_four.mp ys.length
      obtain ⟨m₁, m₂, rfl⟩ := List.length_eq_two.mp ms.length
      simp [dayNumbers?, year, month]
    | day ys ms ds =>
      have year := (isNumeral_iff.mp ys).2
      have month := (isNumeral_iff.mp ms).2
      have day := (isNumeral_iff.mp ds).2
      obtain ⟨y₁, y₂, y₃, y₄, rfl⟩ := List.length_eq_four.mp ys.length
      obtain ⟨m₁, m₂, rfl⟩ := List.length_eq_two.mp ms.length
      obtain ⟨d₁, d₂, rfl⟩ := List.length_eq_two.mp ds.length
      simp [dayNumbers?, year, month, day]

theorem dayOf?_eq_some_iff {text : String} {d : Date} :
    dayOf? text = some d ↔ IsDateText (trim text.toList) d.year d.month d.day := by
  rw [dayOf?, Option.bind_eq_some_iff]
  constructor
  · rintro ⟨⟨year, month, day⟩, found, made⟩
    obtain ⟨rfl, rfl, rfl⟩ := Date.ofNumbers?_eq_some_iff.mp made
    exact dayNumbers?_eq_some_iff.mp found
  · intro date
    exact ⟨_, dayNumbers?_eq_some_iff.mpr date, Date.ofNumbers?_eq_some_iff.mpr ⟨rfl, rfl, rfl⟩⟩

/-- A text names a day exactly when it writes one that the calendar has. -/
theorem exists_dayOf?_iff {text : String} :
    (∃ d, dayOf? text = some d) ↔
      ∃ year month day, IsDateText (trim text.toList) year month day ∧ IsGregorian year month day := by
  constructor
  · rintro ⟨d, found⟩
    exact ⟨_, _, _, dayOf?_eq_some_iff.mp found, d.isGregorian⟩
  · rintro ⟨year, month, day, date, exist⟩
    exact ⟨⟨year, month, day, (isCalendarDay_iff ..).mpr exist⟩, dayOf?_eq_some_iff.mpr date⟩

theorem dayOf?_text (d : Date) : dayOf? d.text = some d := by
  have date := d.isDateText_chars
  rw [dayOf?_eq_some_iff, Date.text, String.toList_ofList, date.trim_eq]
  exact date

/-- The text of a day is a token with nothing but a date. -/
theorem parse_dayText (d : Date) : parse d.text = ⟨d.text, none, none⟩ := by
  have date := d.isDateText_chars
  have noTime : 'T' ∉ d.chars := date.not_mem (by decide) (by decide)
  rw [parse, Date.text, String.toList_ofList, date.trim_eq, parseChars, Text.cutAt_of_not_mem noTime]

end DateToken

end DatasetForm
