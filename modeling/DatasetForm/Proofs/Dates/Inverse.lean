import DatasetForm.Proofs.Dates.Token
import DatasetForm.Proofs.Value.Part

/-!
Taking date tokens apart and putting them together are inverse to each other. Parts that could be those of a token
come back from their token (`AreParts.parse_text`), and a token comes back from its parts but for the spelling of
its offset, unless nothing or only a zone follows its `T`: then the clock time is empty, and it is not written again.
-/

set_option autoImplicit false
set_option relaxedAutoImplicit false

namespace DatasetForm

open Text (isBlank isDigit trim strip IsTrimmed)

/-- A zone as tokens write it: a `Z` or an offset. -/
inductive Zone
  | universal
  | offset (o : Offset)

namespace Zone

def chars : Zone → List Char
  | .universal => ['Z']
  | .offset o => o.chars

def text (zone : Zone) : String :=
  String.ofList zone.chars

private theorem isBlank_getLast {zone : Zone} {before : List Char} {c : Char}
    (last : c ∈ (before ++ zone.chars).getLast?) : isBlank c = false := by
  cases zone with
  | universal =>
    have same : 'Z' = c := by simpa [chars] using last
    rw [← same]
    decide
  | offset o =>
    have same : o.m₂ = c := by simpa [chars, Offset.chars] using last
    rw [← same]
    exact Text.isBlank_of_isDigit (List.all_eq_true.mp o.areDigits o.m₂ (List.mem_cons_self ..))

end Zone

namespace DateToken

/-- Parts of which a token can be put together: there is no `T` and no leading blank in the date, and a clock time,
which does not end in a blank or in a zone of its own when there is no zone after it. -/
structure AreParts (date time : String) (zone : Option Zone) : Prop where
  separator : 'T' ∉ date.toList
  start : ∀ c ∈ date.toList.head?, isBlank c = false
  filled : time ≠ ""
  last : zone = none → ∀ c ∈ time.toList.getLast?, isBlank c = false
  bare : zone = none → IsBare time.toList

/-- The characters of a zone that may be missing. -/
private def zoneChars (zone : Option Zone) : List Char :=
  (zone.map Zone.chars).getD []

private theorem toList_text {time : String} (filled : time ≠ "") (date : String) (zone : Option Zone) :
    (text ⟨date, some time, zone.map Zone.text⟩).toList =
      date.toList ++ 'T' :: (time.toList ++ zoneChars zone) := by
  have zones : (partText (zone.map Zone.text)).toList = zoneChars zone := by
    cases zone with
    | none => rfl
    | some zone => exact String.toList_ofList
  have written : (partText (some time) == "") = false := by simpa [partText] using filled
  simp only [text, written, Bool.false_eq_true, ↓reduceIte, String.toList_append, zones, List.append_assoc]
  rfl

private theorem parse_of_separated {s : String} {date rest : List Char}
    (separated : trim s.toList = date ++ 'T' :: rest) (first : 'T' ∉ date) :
    parse s = ⟨String.ofList date, some (String.ofList (splitZone rest).1),
      (splitZone rest).2.map String.ofList⟩ := by
  rw [parse, parseChars, separated, Text.cutAt_append first]

private theorem parse_of_not_mem {s : String} (none : 'T' ∉ trim s.toList) :
    parse s = ⟨strip s, Option.none, Option.none⟩ := by
  rw [parse, parseChars, Text.cutAt_of_not_mem none, strip]

private theorem splitZone_zoneChars {time : List Char} {zone : Option Zone}
    (bare : zone = none → IsBare time) :
    splitZone (time ++ zoneChars zone) = (time, zone.map Zone.chars) := by
  cases zone with
  | none => rw [zoneChars, Option.map_none, Option.getD_none, List.append_nil, splitZone_bare (bare rfl)]
  | some zone =>
    cases zone with
    | universal => exact splitZone_universal time
    | offset o => exact splitZone_chars time o

namespace AreParts

variable {date time : String} {zone : Option Zone} (parts : AreParts date time zone)
include parts

private theorem isTrimmed : IsTrimmed (date.toList ++ 'T' :: (time.toList ++ zoneChars zone)) := by
  have filled : time.toList ≠ [] := fun empty => parts.filled (String.toList_eq_nil_iff.mp empty)
  constructor
  · intro c first
    cases chars : date.toList with
    | nil =>
      have same : 'T' = c := by simpa [chars] using first
      rw [← same]
      decide
    | cons d ds => exact parts.start c (by simpa [chars] using first)
  · intro c last
    -- the clock time is there, so the end of the token is past its `T`
    have tail : c ∈ (time.toList ++ zoneChars zone).getLast? := by
      rw [List.getLast?_append, List.getLast?_cons] at last
      cases found : (time.toList ++ zoneChars zone).getLast? with
      | none => simp [filled] at found
      | some d => simpa [found] using last
    cases zone with
    | none => exact parts.last rfl c (by simpa [zoneChars] using tail)
    | some zone => exact Zone.isBlank_getLast tail

/-- Parts come back from their token. -/
theorem parse_text :
    parse (text ⟨date, some time, zone.map Zone.text⟩) = ⟨date, some time, zone.map Zone.text⟩ := by
  have written := toList_text parts.filled date zone
  have trimmed : trim (text ⟨date, some time, zone.map Zone.text⟩).toList =
      date.toList ++ 'T' :: (time.toList ++ zoneChars zone) := by
    rw [written, parts.isTrimmed.trim_eq]
  rw [parse_of_separated trimmed parts.separator, splitZone_zoneChars parts.bare, String.ofList_toList,
    String.ofList_toList, Option.map_map]
  rfl

end AreParts

/-- What a token with a `T` is taken apart into. Only an offset may have been spelled differently there. -/
private theorem parse_separated {s : String} (separated : 'T' ∈ trim s.toList) :
    ∃ date time zone, parse s = ⟨String.ofList date, some (String.ofList time), zone.map Zone.text⟩ ∧
      'T' ∉ date ∧ (zone = none → IsBare time) ∧
      (trim s.toList = date ++ 'T' :: (time ++ zoneChars zone) ∨
        ∃ o, zone = some (.offset o) ∧ trim s.toList = date ++ 'T' :: (time ++ o.compact)) := by
  obtain ⟨date, rest, cut, first⟩ := List.eq_append_cons_of_mem separated
  have parsed := parse_of_separated cut first
  obtain ⟨time, rfl⟩ | ⟨time, o, rfl | rfl⟩ | bare := zone_cases rest
  · rw [splitZone_universal] at parsed
    exact ⟨date, time, some .universal, parsed, first, nofun, .inl cut⟩
  · rw [splitZone_chars] at parsed
    exact ⟨date, time, some (.offset o), parsed, first, nofun, .inl cut⟩
  · rw [splitZone_compact] at parsed
    exact ⟨date, time, some (.offset o), parsed, first, nofun, .inr ⟨o, rfl, cut⟩⟩
  · rw [splitZone_bare bare] at parsed
    refine ⟨date, rest, none, parsed, first, fun _ => bare, .inl ?_⟩
    rw [zoneChars, Option.map_none, Option.getD_none, List.append_nil, cut]

/-- The parts of a token with a clock time can be put together again. -/
private theorem areParts_of_parse {s : String} {date time : List Char} {zone : Option Zone}
    (first : 'T' ∉ date) (filled : time ≠ []) (bare : zone = none → IsBare time)
    (written : trim s.toList = date ++ 'T' :: (time ++ zoneChars zone) ∨
      ∃ o, zone = some (.offset o) ∧ trim s.toList = date ++ 'T' :: (time ++ o.compact)) :
    AreParts (String.ofList date) (String.ofList time) zone := by
  have trimmed := Text.isTrimmed_trim s.toList
  refine ⟨?_, ?_, ?_, ?_, ?_⟩
  · rwa [String.toList_ofList]
  · intro c head
    rw [String.toList_ofList] at head
    have start : c ∈ (trim s.toList).head? := by
      rcases written with same | ⟨o, -, same⟩ <;> simp [same, Option.mem_def.mp head]
    exact trimmed.head c start
  · intro empty
    exact filled (by simpa using congrArg String.toList empty)
  · rintro rfl c last
    rw [String.toList_ofList] at last
    rcases written with same | ⟨o, never, -⟩
    · have stop : c ∈ (trim s.toList).getLast? := by
        rw [same, zoneChars, Option.map_none, Option.getD_none, List.append_nil, List.getLast?_append,
          List.getLast?_cons, Option.mem_def.mp last]
        rfl
      exact trimmed.last c stop
    · cases never
  · intro none
    rw [String.toList_ofList]
    exact bare none

section Rewritten

variable {s : String} (clocked : (parse s).time ≠ some "")
include clocked

/-- An offset at the end of a token is written with a colon. -/
private theorem toList_text_compact {before : List Char} {o : Offset} (separated : 'T' ∈ before)
    (compact : trim s.toList = before ++ o.compact) : (text (parse s)).toList = before ++ o.chars := by
  obtain ⟨date, time, rfl, first⟩ := List.eq_append_cons_of_mem separated
  rw [List.append_assoc, List.cons_append] at compact
  have parsed := parse_of_separated compact first
  rw [splitZone_compact] at parsed
  have filled : String.ofList time ≠ "" := by
    intro empty
    rw [parsed, empty] at clocked
    exact clocked rfl
  have put := toList_text filled (String.ofList date) (some (.offset o))
  rw [String.toList_ofList, String.toList_ofList] at put
  rw [parsed, List.append_assoc, List.cons_append]
  exact put

private theorem text_of_spelled
    (spelled : ∀ before (o : Offset), 'T' ∈ before → trim s.toList ≠ before ++ o.compact) :
    text (parse s) = strip s := by
  by_cases separated : 'T' ∈ trim s.toList
  · obtain ⟨date, time, zone, parsed, -, -, written⟩ := parse_separated separated
    have filled : String.ofList time ≠ "" := by
      intro empty
      rw [parsed, empty] at clocked
      exact clocked rfl
    have put := toList_text filled (String.ofList date) zone
    rw [← parsed, String.toList_ofList, String.toList_ofList] at put
    rcases written with same | ⟨o, -, same⟩
    · rw [← String.toList_inj, put, ← same, Text.toList_strip]
    · -- an offset without a colon is what the token does not end in
      refine absurd ?_ (spelled (date ++ 'T' :: time) o (by simp))
      rw [same, List.append_assoc, List.cons_append]
  · rw [parse_of_not_mem separated]
    rfl

private theorem parse_text_of_clocked : parse (text (parse s)) = parse s := by
  by_cases separated : 'T' ∈ trim s.toList
  · obtain ⟨date, time, zone, parsed, first, bare, written⟩ := parse_separated separated
    have filled : time ≠ [] := by
      rintro rfl
      rw [parsed] at clocked
      exact clocked rfl
    have parts := areParts_of_parse first filled bare written
    rw [parsed]
    exact parts.parse_text
  · have written : text (parse s) = strip s := by
      rw [parse_of_not_mem separated]
      rfl
    rw [written, parse_strip]

end Rewritten

/-- Without a clock time only the date is written. -/
private theorem parse_text_of_unclocked {s : String} (unclocked : (parse s).time = some "") :
    parse (text (parse s)) = ⟨strip (parse s).date, none, none⟩ := by
  have written : text (parse s) = (parse s).date := by simp [text, partText, unclocked]
  rw [written]
  by_cases separated : 'T' ∈ trim s.toList
  · obtain ⟨date, time, zone, parsed, first, -⟩ := parse_separated separated
    apply parse_of_not_mem
    rw [Text.mem_trim (by decide), parsed, String.toList_ofList]
    exact first
  · rw [parse_of_not_mem separated] at unclocked
    cases unclocked

/-- Values are put together like the texts in them. -/
theorem buildFrom_parts (t : DateToken) :
    buildFrom (.text t.date) (DateRow.partValue t.time) (DateRow.partValue t.zone) = .ok (.text t.text) := by
  obtain ⟨date, time, zone⟩ := t
  cases time with
  | none => simp [buildFrom, DateRow.partValue, Value.isTruthy, text, partText]
  | some time =>
    by_cases unclocked : time = ""
    · simp [buildFrom, DateRow.partValue, Value.isTruthy, text, partText, unclocked]
    · cases zone with
      | none =>
        simp [buildFrom, DateRow.partValue, Value.isTruthy, Value.toText, text, partText, unclocked]
      | some zone =>
        by_cases unzoned : zone = "" <;>
          simp [buildFrom, DateRow.partValue, Value.isTruthy, Value.toText, text, partText, unclocked,
            unzoned]

/-- Taking tokens apart and putting them together are inverse. Parts come back from their token; and a token that
has a clock time, or no `T`, comes back from its parts without the blanks at its ends, where an offset at its end,
after the `T`, is written with a colon. -/
theorem parse_text_inverse :
    (∀ date time zone, AreParts date time zone →
      parse (text ⟨date, some time, zone.map Zone.text⟩) = ⟨date, some time, zone.map Zone.text⟩) ∧
    (∀ s, ('T' ∉ trim s.toList ∨ ∃ time, (parse s).time = some time ∧ time ≠ "") →
      (∀ before (o : Offset), 'T' ∈ before → trim s.toList = before ++ o.compact →
        (text (parse s)).toList = before ++ o.chars) ∧
      ((∀ before (o : Offset), 'T' ∈ before → trim s.toList ≠ before ++ o.compact) →
        text (parse s) = strip s)) := by
  refine ⟨fun date time zone parts => parts.parse_text, fun s shape => ?_⟩
  have clocked : (parse s).time ≠ some "" := by
    rcases shape with none | ⟨time, found, filled⟩
    · rw [parse_of_not_mem none]
      nofun
    · rw [found]
      exact fun empty => filled (Option.some.inj empty)
  exact ⟨fun before o separated compact => toList_text_compact clocked separated compact, text_of_spelled clocked⟩

/-- A time that looks like an offset before a `Z`, a time that starts with a `T`, and an offset without a colon. -/
theorem parse_text_inverse_offsets :
    AreParts "2023-05" "10:00+02:00" (some .universal) ∧
      parse "2023-05T10:00+02:00Z" = ⟨"2023-05", some "10:00+02:00", some "Z"⟩ ∧
      AreParts "" "T9:30+2:00" none ∧
      parse "TT9:30+2:00" = ⟨"", some "T9:30+2:00", none⟩ ∧
      (parse " 2023T10:00-0530 ").time = some "10:00" ∧
      (text (parse " 2023T10:00-0530 ")).toList = "2023T10:00".toList ++ "-05:30".toList := by
  have start (c : Char) (first : c ∈ "2023-05".toList.head?) : isBlank c = false := by
    have same : '2' = c := Option.some.inj first
    rw [← same]
    decide
  have last (c : Char) (ends : c ∈ "T9:30+2:00".toList.getLast?) : isBlank c = false := by
    have same : '0' = c := Option.some.inj ends
    rw [← same]
    decide
  have stacked : AreParts "2023-05" "10:00+02:00" (some .universal) :=
    ⟨by decide, start, by decide, nofun, nofun⟩
  have repeated : AreParts "" "T9:30+2:00" none :=
    ⟨by decide, nofun, by decide, fun _ => last, fun _ => (isBare_iff _).mpr (by decide)⟩
  have stackedText : text ⟨"2023-05", some "10:00+02:00", some "Z"⟩ = "2023-05T10:00+02:00Z" := by decide
  have repeatedText : text ⟨"", some "T9:30+2:00", none⟩ = "TT9:30+2:00" := by decide
  have clocked : (parse " 2023T10:00-0530 ").time = some "10:00" := by decide
  have stackedParts := parse_text_inverse.1 _ _ _ stacked
  have repeatedParts := parse_text_inverse.1 _ _ _ repeated
  obtain ⟨compact, -⟩ := parse_text_inverse.2 " 2023T10:00-0530 " (.inr ⟨"10:00", clocked, by decide⟩)
  exact ⟨stacked, stackedText ▸ stackedParts, repeated, repeatedText ▸ repeatedParts, clocked,
    compact "2023T10:00".toList ⟨'-', '0', '5', '3', '0', rfl, rfl⟩ (by decide) (by decide)⟩

/-- Taking a token apart that was put together from the parts of another gives those parts, unless their clock time
is empty: of such a token only the date is written. -/
theorem parse_text_parse (s : String) :
    (parse (text (parse s)) = parse s ↔ (parse s).time ≠ some "") ∧
      parse (text (parse s)) =
        if (parse s).time = some "" then ⟨strip (parse s).date, none, none⟩ else parse s := by
  by_cases unclocked : (parse s).time = some ""
  · have written := parse_text_of_unclocked unclocked
    rw [if_pos unclocked, written]
    refine ⟨⟨fun same => ?_, fun clocked => absurd unclocked clocked⟩, rfl⟩
    rw [← same] at unclocked
    cases unclocked
  · rw [if_neg unclocked]
    have same := parse_text_of_clocked unclocked
    exact ⟨⟨fun _ => unclocked, fun _ => same⟩, same⟩

/-- Nothing follows the `T`, and the `T` is not written again. -/
theorem parse_text_parse_unclocked :
    parse "2023T" = ⟨"2023", some "", none⟩ ∧ text (parse "2023T") = "2023" ∧
      parse "2023" = ⟨"2023", none, none⟩ ∧ parse (text (parse "2023T")) ≠ parse "2023T" := by
  decide

end DateToken

end DatasetForm
