import DatasetForm.Calendar.Date

/-!
The days of the proleptic Gregorian calendar (`isCalendarDay_iff`), and their order: the earlier year comes first,
then the earlier month, then the earlier day.
-/

set_option autoImplicit false
set_option relaxedAutoImplicit false

namespace DatasetForm

/-- Four divides the year, and if it is a century, so does 400. -/
def IsLeap (year : Nat) : Prop :=
  4 ∣ year ∧ (100 ∣ year → 400 ∣ year)

/-- The calendar has this day: thirty days have April, June, September and November, February has 28 or, in a leap
year, 29, and all other months have 31. -/
structure IsGregorian (year month day : Nat) : Prop where
  years : 1 ≤ year ∧ year ≤ 9999
  months : 1 ≤ month ∧ month ≤ 12
  days : 1 ≤ day ∧ day ≤ 31
  short : month ∈ [4, 6, 9, 11] → day ≤ 30
  february : month = 2 → day ≤ 28 ∨ day = 29 ∧ IsLeap year

theorem isLeapYear_iff (year : Nat) : isLeapYear year = true ↔ IsLeap year := by
  simp only [isLeapYear, IsLeap, Bool.and_eq_true, Bool.or_eq_true, beq_iff_eq, bne_iff_ne, Nat.dvd_iff_mod_eq_zero]
  omega

/-- A month has at least the days that the calendar gives it, and no others. -/
private theorem le_daysInMonth_iff {year month day : Nat} (positive : 1 ≤ day) :
    day ≤ daysInMonth year month ↔ (1 ≤ month ∧ month ≤ 12) ∧ day ≤ 31 ∧ (month ∈ [4, 6, 9, 11] → day ≤ 30) ∧
      (month = 2 → day ≤ 28 ∨ day = 29 ∧ IsLeap year) := by
  rw [← isLeapYear_iff]
  simp only [List.mem_cons, List.not_mem_nil, or_false]
  unfold daysInMonth
  split <;> grind

theorem isCalendarDay_iff (year month day : Nat) :
    isCalendarDay year month day = true ↔ IsGregorian year month day := by
  simp only [isCalendarDay, Bool.and_eq_true, decide_eq_true_eq]
  constructor
  · rintro ⟨⟨⟨first, last⟩, positive⟩, most⟩
    obtain ⟨months, days, short, february⟩ := (le_daysInMonth_iff positive).mp most
    exact ⟨⟨first, last⟩, months, ⟨positive, days⟩, short, february⟩
  · rintro ⟨years, months, ⟨positive, days⟩, short, february⟩
    exact ⟨⟨years, positive⟩, (le_daysInMonth_iff positive).mpr ⟨months, days, short, february⟩⟩

namespace Date

theorem isGregorian (d : Date) : IsGregorian d.year d.month d.day :=
  (isCalendarDay_iff ..).mp d.isDay

theorem ofNumbers?_eq_some_iff {year month day : Nat} {d : Date} :
    ofNumbers? year month day = some d ↔ year = d.year ∧ month = d.month ∧ day = d.day := by
  rw [ofNumbers?]
  constructor
  · intro made
    split at made
    · cases made
      exact ⟨rfl, rfl, rfl⟩
    · cases made
  · rintro ⟨rfl, rfl, rfl⟩
    rw [dif_pos d.isDay]

theorem before_iff (a b : Date) :
    a.before b = true ↔ a.year < b.year ∨ a.year = b.year ∧
      (a.month < b.month ∨ a.month = b.month ∧ a.day < b.day) := by
  rw [before, beq_iff_eq, order, Ordering.then_eq_lt, Ordering.then_eq_lt, Nat.compare_eq_lt, Nat.compare_eq_lt,
    Nat.compare_eq_lt, Nat.compare_eq_eq, Nat.compare_eq_eq]

theorem before_irrefl (d : Date) : d.before d = false := by
  rw [Bool.eq_false_iff, Ne, before_iff]
  omega

/-- Of two different days, one comes before the other. -/
theorem before_of_ne {a b : Date} (other : a ≠ b) (late : a.before b = false) : b.before a = true := by
  obtain ⟨y, m, d, isDay⟩ := a
  obtain ⟨y', m', d', isDay'⟩ := b
  rw [Bool.eq_false_iff, Ne, before_iff] at late
  rw [before_iff]
  simp only [ne_eq, mk.injEq] at other
  dsimp only at late ⊢
  omega

end Date

end DatasetForm
