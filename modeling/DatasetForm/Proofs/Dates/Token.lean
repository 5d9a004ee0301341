import DatasetForm.Proofs.Dates.Day
import DatasetForm.Proofs.Dates.Zone

/-!
Where the characters of a date token go: a date that names a day and a zone hold digits and their signs only,
so that any other character stands in the clock time.
-/

set_option autoImplicit false
set_option relaxedAutoImplicit false

namespace DatasetForm.DateToken

open Text (trim)

/-- A date that names a day holds no slash. -/
theorem slash_not_mem_of_dayOf? {date : String} {day : Date} (h : dayOf? date = some day) :
    '/' ∉ date.toList := by
  intro mem
  exact (dayOf?_eq_some_iff.mp h).not_mem (by decide) (by decide) ((Text.mem_trim rfl _).mpr mem)

/-- The zone takes no slash with it. -/
private theorem slash_mem_splitZone (cs : List Char) : '/' ∈ (splitZone cs).1 ↔ '/' ∈ cs := by
  obtain ⟨rest, rfl⟩ | ⟨rest, o, written⟩ | bare := zone_cases cs
  · simp [splitZone_universal]
  · obtain ⟨long, short⟩ := o.not_mem (c := '/') (by decide) (by decide) (by decide)
    rcases written with rfl | rfl
    · simp [splitZone_chars, long]
    · simp [splitZone_compact, short]
  · rw [splitZone_bare bare]

/-- A slash in a token stands in its date or in its clock time. -/
theorem slash_mem_parse (token : String) :
    '/' ∈ trim token.toList ↔
      '/' ∈ (parse token).date.toList ∨ ∃ time ∈ (parse token).time, '/' ∈ time.toList := by
  rw [parse, parseChars]
  split
  · rename_i date found
    simp [Text.eq_of_cutAt_none found]
  · rename_i date rest found
    rw [Text.eq_append_of_cutAt found]
    simp [slash_mem_splitZone]

end DatasetForm.DateToken
