import DatasetForm.Format.Day
import DatasetForm.Proofs.Dates.Day
import DatasetForm.Proofs.Value.Part

/-!
Dates in a form. The normal form of an accepted date is the text of the day that it names, so that checking it again
changes nothing (`dates_exact`).
-/

set_option autoImplicit false
set_option relaxedAutoImplicit false

namespace DatasetForm

namespace Format

open Text (trim)
open DateToken (dayOf? parse)

variable {bounds : DayBounds} {today day : Date} {value : Value} {normal : Option String}

theorem checkDay_eq_accepted_iff :
    checkDay bounds today value = .accepted normal ↔
      ∃ day, dayOf? (parse value.trimmedText).date = some day ∧ bounds.complaint? today day = none ∧
        normal = some day.text := by
  have blank : value.isBlank = true → dayOf? (parse value.trimmedText).date = none := by
    intro blank
    rw [Value.isBlank, beq_iff_eq] at blank
    rw [blank]
    rfl
  rw [checkDay]
  cases found : dayOf? (parse value.trimmedText).date with
  | none => cases value.isBlank <;> simp
  | some day =>
    have filled : value.isBlank = false := by
      rw [Bool.eq_false_iff]
      intro empty
      rw [blank empty] at found
      cases found
    cases judged : bounds.complaint? today day with
    | none => simp [filled, judged, eq_comm]
    | some complaint => simp [filled, judged]

/-- The text of a day names the day. -/
theorem dayOf?_parse_text (day : Date) : dayOf? (parse (Value.text day.text).trimmedText).date = some day := by
  have trimmed : (Value.text day.text).trimmedText = Text.strip day.text := rfl
  rw [trimmed, DateToken.parse_strip, DateToken.parse_dayText, DateToken.dayOf?_text]

/-- A text names a day exactly when, blanks around it aside, it writes one that the calendar has, and it is that day;
every day is read from its own text; and what is kept of an accepted date is accepted again, as it is. -/
theorem dates_exact :
    (∀ text day, dayOf? text = some day ↔ IsDateText (trim text.toList) day.year day.month day.day) ∧
      (∀ text, (∃ day, dayOf? text = some day) ↔
        ∃ year month day, IsDateText (trim text.toList) year month day ∧ IsGregorian year month day) ∧
      (∀ day, dayOf? day.text = some day) ∧
      ∀ bounds today value normal, checkDay bounds today value = .accepted normal →
        ∃ kept, normal = some kept ∧ checkDay bounds today (.text kept) = .accepted (some kept) := by
  refine ⟨fun _ _ => DateToken.dayOf?_eq_some_iff, fun _ => DateToken.exists_dayOf?_iff, DateToken.dayOf?_text, ?_⟩
  intro bounds today value normal accepted
  obtain ⟨day, -, allowed, rfl⟩ := checkDay_eq_accepted_iff.mp accepted
  refine ⟨day.text, rfl, ?_⟩
  exact checkDay_eq_accepted_iff.mpr ⟨day, dayOf?_parse_text day, allowed, rfl⟩

/-- The last day of a February, in digits of another script. -/
private def leapDay : Value :=
  .text " ٢٠٢٤-02-29T23:59Z "

theorem dates_exact_leapDay :
    let bounds : DayBounds := { most := some ⟨2024, 2, 29, by decide⟩ }
    checkDay bounds ⟨2023, 6, 15, by decide⟩ leapDay = .accepted (some "2024-02-29") ∧
      checkDay bounds ⟨2023, 6, 15, by decide⟩ (.text "2024-02-29") = .accepted (some "2024-02-29") := by
  intro bounds
  have accepted : checkDay bounds ⟨2023, 6, 15, by decide⟩ leapDay = .accepted (some "2024-02-29") := rfl
  obtain ⟨kept, same, again⟩ := dates_exact.2.2.2 _ _ _ _ accepted
  rw [← Option.some.inj same] at again
  exact ⟨accepted, again⟩

end Format

end DatasetForm
