import DatasetForm.Proofs.Dates.Day
import DatasetForm.Proofs.Rule.Dates

/-!
What the order of a date row means. A date of reduced precision names all days of a year or a month, and a token may
carry a clock time; the rules compare the first days that the two parts name. A start that lies after the end by days
is always found (`findsDisorder_of_isLaterByDay`). On one day the clock times are not looked at, and within a year or
month that the end names every start but on the first day is taken to lie after it (`order_judged_iff`).
-/

set_option autoImplicit false
set_option relaxedAutoImplicit false

namespace DatasetForm

/-- The days that a date as it is written names: those of a year, those of a month, or one. -/
inductive Covers : List Char → Date → Prop
  | year {ys : List Char} {day : Date} : IsNumeral 4 ys day.year → Covers ys day
  | month {ys ms : List Char} {day : Date} : IsNumeral 4 ys day.year → IsNumeral 2 ms day.month →
      Covers (ys ++ '-' :: ms) day
  | day {ys ms ds : List Char} {day : Date} : IsNumeral 4 ys day.year → IsNumeral 2 ms day.month →
      IsNumeral 2 ds day.day → Covers (ys ++ '-' :: ms ++ '-' :: ds) day

/-- A clock time written `hh:mm:ss`, and the second of the day that it names. -/
inductive IsClockTime : List Char → Nat → Prop
  | clock {hs ms ss : List Char} {hour minute second : Nat} : IsNumeral 2 hs hour → IsNumeral 2 ms minute →
      IsNumeral 2 ss second → hour ≤ 23 → minute ≤ 59 → second ≤ 59 →
      IsClockTime (hs ++ ':' :: ms ++ ':' :: ss) (3600 * hour + 60 * minute + second)

theorem IsDateText.unique {cs : List Char} {year month day year' month' day' : Nat}
    (date : IsDateText cs year month day) (other : IsDateText cs year' month' day') :
    year = year' ∧ month = month' ∧ day = day' := by
  have numbers := DateToken.dayNumbers?_eq_some_iff.mpr date
  rw [DateToken.dayNumbers?_eq_some_iff.mpr other] at numbers
  cases numbers
  exact ⟨rfl, rfl, rfl⟩

theorem IsDateText.covers {cs : List Char} {year month day : Nat} (date : IsDateText cs year month day) {d : Date}
    (years : d.year = year) (months : d.month = month) (days : d.day = day) : Covers cs d := by
  cases date with
  | year ys => exact .year (years ▸ ys)
  | month ys ms => exact .month (years ▸ ys) (months ▸ ms)
  | day ys ms ds => exact .day (years ▸ ys) (months ▸ ms) (days ▸ ds)

/-- A date of reduced precision is read as the first of the days that it names. -/
theorem Covers.first {cs : List Char} {day : Date} (covers : Covers cs day) {year month number : Nat}
    (date : IsDateText cs year month number) :
    day.year = year ∧ (month = 1 ∧ number = 1 ∨ day.month = month ∧ (number = 1 ∨ day.day = number)) := by
  cases covers with
  | year ys =>
    obtain ⟨rfl, rfl, rfl⟩ := date.unique (.year ys)
    exact ⟨rfl, .inl ⟨rfl, rfl⟩⟩
  | month ys ms =>
    obtain ⟨rfl, rfl, rfl⟩ := date.unique (.month ys ms)
    exact ⟨rfl, .inr ⟨rfl, .inl rfl⟩⟩
  | day ys ms ds =>
    obtain ⟨rfl, rfl, rfl⟩ := date.unique (.day ys ms ds)
    exact ⟨rfl, .inr ⟨rfl, .inr rfl⟩⟩

namespace DateToken

/-- The days that the date of a token names. -/
def Names (token : String) (day : Date) : Prop :=
  Covers (Text.trim (parse token).date.toList) day

/-- The token carries a clock time of universal time, the one of this second of the day. -/
def IsAtSecond (token : String) (second : Nat) : Prop :=
  (parse token).zone = some "Z" ∧ ∃ time, (parse token).time = some time ∧ IsClockTime time.toList second

variable {token : String} {first day : Date}

theorem names_first (named : day? token = some first) : Names token first :=
  (dayOf?_eq_some_iff.mp named).covers rfl rfl rfl

/-- No day that a token names comes before the day that it is read as. -/
theorem not_before_first (named : day? token = some first) (names : Names token day) : day.before first = false := by
  have numbers := Covers.first names (dayOf?_eq_some_iff.mp named)
  have exist := day.isGregorian
  have := exist.months
  have := exist.days
  rw [Bool.eq_false_iff, Ne, Date.before_iff]
  omega

end DateToken

namespace DateRange

open DateToken (Names IsAtSecond day?)

/-- Every day that the start names comes after every day that the end names. -/
def IsLaterByDay (range : DateRange) : Prop :=
  ∀ day, Names (range.start.getD "") day → ∀ other, Names (range.stop.getD "") other → other.before day = true

/-- The parts name one day, and at the start it is later than at the end. -/
def IsLaterByClock (range : DateRange) : Prop :=
  day? (range.start.getD "") = day? (range.stop.getD "") ∧ ∃ second earlier,
    IsAtSecond (range.start.getD "") second ∧ IsAtSecond (range.stop.getD "") earlier ∧ earlier < second

/-- The start lies within the year, the month or the day that the end names. -/
def IsInside (range : DateRange) : Prop :=
  ∀ day, Names (range.start.getD "") day → Names (range.stop.getD "") day

end DateRange

namespace Rule

open DateRange (PartNamesDay latestDay)
open DateToken (day?)

/-- Some rule of date rows of a type finds that the start comes after the end. -/
def FindsDisorder (kind : String) (today : Date) (range : DateRange) (context : Value) : Prop :=
  ∃ rules, dateRules (.text kind) today = .ok rules ∧
    ∃ rule ∈ rules, rule.check range.row.toValue context = .ok (some (.error .dateOrder))

/-- What is wrong with a part is not its place among the two. -/
private theorem dateParts_ne_dateOrder {allowsFuture : Bool} {today : Date} {range : DateRange} :
    dateParts allowsFuture today range.row.toValue ≠ .ok (some (.error .dateOrder)) := by
  rw [dateParts_row]
  intro found
  rcases Option.or_eq_some_iff.mp (Except.ok.inj found) with start | ⟨-, stop⟩
  · obtain ⟨complaint, same⟩ := exists_of_mem_partOutcome start
    cases same
  · obtain ⟨complaint, same⟩ := exists_of_mem_partOutcome stop
    cases same

section

variable {range : DateRange} {first last : Date} (start : day? (range.start.getD "") = some first)
  (stop : day? (range.stop.getD "") = some last)
include start stop

/-- The first days that the parts name are compared. -/
theorem dateOrder_days :
    dateOrder range.row.toValue = .ok (if last.before first then some (.error .dateOrder) else none) := by
  have filled {part : Option String} {day : Date} (named : day? (part.getD "") = some day) :
      trimmedPart part ≠ "" := by
    intro blank
    rw [day?, ← DateToken.parse_strip, ← trimmedPart, blank] at named
    cases named
  have both : ¬(trimmedPart range.start = "" ∨ trimmedPart range.stop = "") :=
    not_or.mpr ⟨filled start, filled stop⟩
  rw [dateOrder_row, if_neg both, start, stop, orderOutcome]

/-- The rules of a type find the start after the end exactly when its first day comes after that of the end. -/
theorem findsDisorder_iff (kind : String) (today : Date) (context : Value) :
    FindsDisorder kind today range context ↔ last.before first = true := by
  have order := dateOrder_days start stop
  constructor
  · rintro ⟨rules, made, rule, member, found⟩
    rw [← Except.ok.inj made] at member
    rcases List.mem_pair.mp member with rfl | rfl
    · exact absurd found dateParts_ne_dateOrder
    · have answer := order.symm.trans found
      by_contra late
      rw [if_neg late] at answer
      cases answer
  · intro late
    refine ⟨_, rfl, _, List.mem_cons_of_mem _ (List.mem_singleton_self _), ?_⟩
    exact order.trans (by rw [if_pos late])

theorem findsDisorder_of_isLaterByDay (later : range.IsLaterByDay) (kind : String) (today : Date) (context : Value) :
    FindsDisorder kind today range context := by
  rw [findsDisorder_iff start stop]
  exact later first (DateToken.names_first start) last (DateToken.names_first stop)

/-- On one day the clock times are not looked at. -/
theorem not_findsDisorder_of_isLaterByClock (later : range.IsLaterByClock) (kind : String) (today : Date)
    (context : Value) : ¬FindsDisorder kind today range context := by
  have same : first = last := by
    have days := later.1
    rw [start, stop] at days
    exact Option.some.inj days
  rw [findsDisorder_iff start stop, same, Date.before_irrefl]
  exact Bool.false_ne_true

/-- Within the year or month that the end names, only its first day is not taken to lie after the end. -/
theorem findsDisorder_iff_ne (inside : range.IsInside) (kind : String) (today : Date) (context : Value) :
    FindsDisorder kind today range context ↔ first ≠ last := by
  have named := inside first (DateToken.names_first start)
  rw [findsDisorder_iff start stop]
  constructor
  · rintro late rfl
    rw [Date.before_irrefl] at late
    cases late
  · exact fun other => Date.before_of_ne other (DateToken.not_before_first stop named)

/-- When the type allows the days of both parts, the order decides what its rules find. -/
theorem evaluate_dateOrder {kind : String} {today : Date} (allowed : PartNamesDay (latestDay kind today) range.start)
    (allowed' : PartNamesDay (latestDay kind today) range.stop) (context : Value) :
    (dateRules (.text kind) today).map (evaluate · range.row.toValue context) =
      .ok (if last.before first then some (.error .dateOrder) else none) := by
  have parts : dateParts (!DateType.isPastOnlyName (.text kind)) today range.row.toValue = .ok none := by
    rw [dateParts_row, (partOutcome_ofKind_eq_none_iff ..).mpr allowed, Option.none_or,
      (partOutcome_ofKind_eq_none_iff ..).mpr allowed']
  rw [evaluate_dateRules_of_ok parts (dateOrder_days start stop), Option.none_or]

/-- For two parts that name days, the order is found as the parts mean it exactly when the start is not merely later by
the clock, and when it begins the year or month that the end names in case it lies inside. A start that is later by
days is always found; and where the type allows both parts, what is found is what its rules answer. -/
theorem order_judged_iff (kind : String) (today : Date) (context : Value) :
    (((range.IsLaterByDay ∨ range.IsLaterByClock → FindsDisorder kind today range context) ∧
        (range.IsInside → ¬FindsDisorder kind today range context)) ↔
          ¬range.IsLaterByClock ∧ (range.IsInside → first = last)) ∧
      (range.IsLaterByDay → FindsDisorder kind today range context) ∧
      (PartNamesDay (latestDay kind today) range.start → PartNamesDay (latestDay kind today) range.stop →
        ((dateRules (.text kind) today).map (evaluate · range.row.toValue context) =
          .ok (some (.error .dateOrder)) ↔ FindsDisorder kind today range context)) := by
  have byDay (later : range.IsLaterByDay) := findsDisorder_of_isLaterByDay start stop later kind today context
  have inside (inside : range.IsInside) := findsDisorder_iff_ne start stop inside kind today context
  have notByClock (later : range.IsLaterByClock) :=
    not_findsDisorder_of_isLaterByClock start stop later kind today context
  refine ⟨⟨?_, ?_⟩, byDay, ?_⟩
  · rintro ⟨finds, misses⟩
    refine ⟨fun later => notByClock later (finds (.inr later)), fun within => ?_⟩
    exact not_ne_iff.mp fun other => misses within ((inside within).mpr other)
  · rintro ⟨byClock, begins⟩
    refine ⟨fun later => byDay (later.resolve_right byClock), fun within => ?_⟩
    exact fun finds => (inside within).mp finds (begins within)
  · intro allowed allowed'
    rw [evaluate_dateOrder start stop allowed allowed', findsDisorder_iff start stop]
    cases last.before first <;> simp

end

/-- A range from a day to the month before. -/
private def backwards : DateRange :=
  ⟨"collected", some "2023-06-15T10:00:00Z", some "2023-05"⟩

theorem order_judged_iff_backwards :
    day? "2023-06-15T10:00:00Z" = some ⟨2023, 6, 15, by decide⟩ ∧ day? "2023-05" = some ⟨2023, 5, 1, by decide⟩ ∧
      backwards.IsLaterByDay ∧ FindsDisorder "collected" ⟨2024, 6, 15, by decide⟩ backwards .null := by
  have start : day? "2023-06-15T10:00:00Z" = some ⟨2023, 6, 15, by decide⟩ := rfl
  have stop : day? "2023-05" = some ⟨2023, 5, 1, by decide⟩ := rfl
  have later : backwards.IsLaterByDay := by
    intro day names other names'
    have numbers := Covers.first names (DateToken.dayOf?_eq_some_iff.mp start)
    have numbers' := Covers.first names' (DateToken.dayOf?_eq_some_iff.mp stop)
    dsimp only at numbers numbers'
    rw [Date.before_iff]
    omega
  refine ⟨start, stop, later, ?_⟩
  have judged := @order_judged_iff backwards _ _ start stop "collected" ⟨2024, 6, 15, by decide⟩ .null
  exact judged.2.1 later

/-- A range from a day to the year in which it lies. -/
private def withinYear : DateRange :=
  ⟨"coverage", some "2023-06-15", some "2023"⟩

/-- A range that ends on the day of its start, two hours before it. -/
private def withinDay : DateRange :=
  ⟨"coverage", some "2023-01-01T12:00:00Z", some "2023-01-01T10:00:00Z"⟩

private theorem isInside_withinYear : withinYear.IsInside := by
  intro day names
  have start : day? "2023-06-15" = some ⟨2023, 6, 15, by decide⟩ := rfl
  have year : day.year = 2023 := (Covers.first names (DateToken.dayOf?_eq_some_iff.mp start)).1
  exact .year (year ▸ isNumeral_iff.mpr ⟨rfl, rfl⟩)

private theorem isLaterByClock_withinDay : withinDay.IsLaterByClock := by
  have zero : IsNumeral 2 ['0', '0'] 0 := isNumeral_iff.mpr ⟨rfl, rfl⟩
  have ten : IsNumeral 2 ['1', '0'] 10 := isNumeral_iff.mpr ⟨rfl, rfl⟩
  have twelve : IsNumeral 2 ['1', '2'] 12 := isNumeral_iff.mpr ⟨rfl, rfl⟩
  have noon : DateToken.IsAtSecond "2023-01-01T12:00:00Z" 43200 :=
    ⟨rfl, _, rfl, .clock twelve zero zero (by decide) (by decide) (by decide)⟩
  have morning : DateToken.IsAtSecond "2023-01-01T10:00:00Z" 36000 :=
    ⟨rfl, _, rfl, .clock ten zero zero (by decide) (by decide) (by decide)⟩
  have start : day? "2023-01-01T12:00:00Z" = some ⟨2023, 1, 1, by decide⟩ := rfl
  have stop : day? "2023-01-01T10:00:00Z" = some ⟨2023, 1, 1, by decide⟩ := rfl
  exact ⟨start.trans stop.symm, _, _, noon, morning, by decide⟩

/-- A start within the year that the end names is taken to lie after it, and a start two hours after the end is not. -/
theorem findsDisorder_misjudged :
    (withinYear.IsInside ∧
      (dateRules (.text "coverage") ⟨2024, 6, 15, by decide⟩).map (evaluate · withinYear.row.toValue .null) =
        .ok (some (.error .dateOrder))) ∧
      withinDay.IsLaterByClock ∧
        (dateRules (.text "coverage") ⟨2024, 6, 15, by decide⟩).map (evaluate · withinDay.row.toValue .null) =
          .ok none :=
  ⟨⟨isInside_withinYear, rfl⟩, isLaterByClock_withinDay, rfl⟩

end Rule

end DatasetForm
