import DatasetForm.Proofs.Dates.Token
import DatasetForm.Proofs.Rule.Dates

/-!
What becomes of a date row that is written to a record and read back. The first slash of the stored text
ends the start, so that rows whose start holds no slash come back as they were, and no others do. The rules
look at the date part of a token only and let a slash in its clock time pass. The other way round, what is read
of any text comes back from storage, unless it is nothing (`reread_stored`).
-/

set_option autoImplicit false
set_option relaxedAutoImplicit false

namespace DatasetForm

open Text (IsTrimmed cutAt trim)

/-- A text, nothing when it is empty. -/
def filledText (text : String) : Option String :=
  if text = "" then none else some text

namespace DateRow

private theorem part?_of_isTrimmed {text : String} (h : IsTrimmed text.toList) :
    part? text.toList = filledText text := by
  rw [part?, h.trim_eq, filledText]
  cases chars : text.toList with
  | nil =>
    have : text = "" := String.toList_eq_nil_iff.mp chars
    simp [this]
  | cons c cs =>
    have : text ≠ "" := by
      rintro rfl
      simp at chars
    simp [this, ← chars]

private theorem part?_eq_filledText (cs : List Char) : part? cs = filledText (String.ofList (trim cs)) := by
  have trimmed : IsTrimmed (String.ofList (trim cs)).toList := by
    rw [String.toList_ofList]
    exact Text.isTrimmed_trim cs
  rw [← part?_of_isTrimmed trimmed, String.toList_ofList, part?, part?, Text.trim_trim]

theorem part?_eq_none_iff {cs : List Char} : part? cs = none ↔ ∀ c ∈ cs, Text.isBlank c = true := by
  rw [part?_eq_filledText, filledText, ← Text.trim_eq_nil_iff]
  simp

/-- A part that was read has no blanks around it. -/
private theorem filledText_trimmedPart (cs : List Char) : filledText (trimmedPart (part? cs)) = part? cs := by
  rw [part?_eq_filledText]
  by_cases empty : String.ofList (trim cs) = ""
  · rw [empty]
    rfl
  · have kept : trimmedPart (some (String.ofList (trim cs))) = String.ofList (trim cs) := by
      rw [← String.toList_inj, trimmedPart, Text.toList_strip, Option.getD_some, String.toList_ofList, Text.trim_trim]
    have read : filledText (String.ofList (trim cs)) = some (String.ofList (trim cs)) := if_neg empty
    rw [read, kept, read]

/-- The parts of a stored text are kept as they are read. -/
private theorem filledText_parse (stored : String) :
    filledText (trimmedPart (parse stored).1) = (parse stored).1 ∧
      filledText (trimmedPart (parse stored).2) = (parse stored).2 := by
  have parts : ∃ xs ys, parse stored = (part? xs, part? ys) := by
    rw [parse]
    cases cutAt '/' (trim stored.toList) with
    | mk before after =>
      cases after with
      | none => exact ⟨before, [], rfl⟩
      | some rest => exact ⟨before, rest, rfl⟩
  obtain ⟨xs, ys, parsed⟩ := parts
  rw [parsed]
  exact ⟨filledText_trimmedPart xs, filledText_trimmedPart ys⟩

/-- A start without a slash and an end are read back as they were written. -/
theorem parse_of_compose? {start stop stored : String} (hstart : IsTrimmed start.toList)
    (hstop : IsTrimmed stop.toList) (slash : '/' ∉ start.toList) (h : compose? start stop = some stored) :
    parse stored = (filledText start, filledText stop) := by
  have joined : parse (start ++ "/" ++ stop) = (filledText start, filledText stop) := by
    have ends : IsTrimmed (start.toList ++ '/' :: stop.toList) := hstart.append_cons '/' hstop rfl
    simp only [parse, String.toList_append, List.append_assoc, show "/".toList = ['/'] from rfl,
      List.singleton_append, ends.trim_eq, Text.cutAt_append slash, part?_of_isTrimmed hstart,
      part?_of_isTrimmed hstop]
  by_cases noStart : start = ""
  · by_cases noStop : stop = ""
    · simp [compose?, noStart, noStop] at h
    · subst noStart
      have : stored = "" ++ "/" ++ stop := by
        simpa [compose?, noStop] using h.symm
      rw [this, joined]
  · by_cases noStop : stop = ""
    · have : stored = start := by
        simpa [compose?, noStart, noStop] using h.symm
      subst noStop
      simp only [parse, this, hstart.trim_eq, Text.cutAt_of_not_mem slash, part?_of_isTrimmed hstart]
      rfl
    · have : stored = start ++ "/" ++ stop := by
        simpa [compose?, noStart, noStop] using h.symm
      rw [this, joined]

/-- No start that is read from a stored text holds a slash. -/
theorem not_mem_parse_start {stored start : String} (h : (parse stored).1 = some start) :
    '/' ∉ start.toList := by
  have first : part? (cutAt '/' (trim stored.toList)).1 = some start := by
    rw [← h, parse]
    cases (cutAt '/' (trim stored.toList)) with
    | mk before after => cases after <;> rfl
  unfold part? at first
  split at first
  · simp at first
  · rename_i trimmed _
    rw [← Option.some.inj first, String.toList_ofList]
    intro slash
    exact Text.not_mem_cutAt '/' (trim stored.toList) ((Text.mem_trim rfl _).mp slash)

end DateRow

namespace DateRange

/-- The range with its parts as a record keeps them: without blanks around them, and missing when they are
blank. -/
def kept (range : DateRange) : DateRange :=
  { range with start := filledText (trimmedPart range.start), stop := filledText (trimmedPart range.stop) }

/-- Write a range as a record keeps it, and read it back under its type. -/
def throughStorage (range : DateRange) : Except Failure DateRow :=
  range.row.serialize.bind fun stored => DateRow.parseValue (.text stored) (.text range.kind)

theorem isFilled_row (range : DateRange) :
    range.row.isFilled = .ok (trimmedPart range.start != "" || trimmedPart range.stop != "") := by
  by_cases h : trimmedPart range.start = "" <;> simp [DateRow.isFilled, h, Except.map]

theorem serialize_row {range : DateRange} (filled : range.row.isFilled = .ok true) :
    ∃ stored, DateRow.compose? (trimmedPart range.start) (trimmedPart range.stop) = some stored ∧
      range.row.serialize = .ok stored := by
  have part : trimmedPart range.start ≠ "" ∨ trimmedPart range.stop ≠ "" := by
    simpa [isFilled_row] using filled
  obtain ⟨stored, h⟩ : ∃ stored,
      DateRow.compose? (trimmedPart range.start) (trimmedPart range.stop) = some stored := by
    by_cases start : trimmedPart range.start = "" <;> by_cases stop : trimmedPart range.stop = "" <;>
      simp_all [DateRow.compose?]
  exact ⟨stored, h, by simp [DateRow.serialize, h]⟩

theorem serialize_empty {range : DateRange} (empty : range.row.isFilled = .ok false) :
    range.row.serialize = .error (.emptyDateRow (.text range.kind)) := by
  have parts : trimmedPart range.start = "" ∧ trimmedPart range.stop = "" := by
    simpa [isFilled_row] using empty
  simp [DateRow.serialize, DateRow.compose?, parts, row]

private theorem parseValue_text (stored kind : String) :
    DateRow.parseValue (.text stored) (.text kind) =
      .ok (DateRange.row ⟨kind, (DateRow.parse stored).1, (DateRow.parse stored).2⟩) := by
  have text : (Value.text stored).textOrEmpty "strip" = .ok stored :=
    DateRow.textOrEmpty_partValue (some stored) "strip"
  rw [DateRow.parseValue, text]
  rfl

private theorem row_inj {a b : DateRange} (h : a.row = b.row) : a = b := by
  have part {p q : Option String} (h : DateRow.partValue p = DateRow.partValue q) : p = q := by
    cases p <;> cases q <;> simp_all [DateRow.partValue]
  obtain ⟨_, _, _⟩ := a
  obtain ⟨_, _, _⟩ := b
  simp only [row, DateRow.mk.injEq, Value.text.injEq] at h
  simp [h.1, part h.2.1, part h.2.2]

/-- A range that is not empty comes back from storage exactly when its start holds no slash. -/
theorem throughStorage_eq_iff {range : DateRange} (filled : range.row.isFilled = .ok true) :
    range.throughStorage = .ok range.kept.row ↔ '/' ∉ (trimmedPart range.start).toList := by
  have trimmed (part : Option String) : IsTrimmed (trimmedPart part).toList := by
    rw [trimmedPart, Text.toList_strip]
    exact Text.isTrimmed_trim _
  obtain ⟨stored, composed, written⟩ := serialize_row filled
  have read : range.throughStorage =
      .ok (DateRange.row ⟨range.kind, (DateRow.parse stored).1, (DateRow.parse stored).2⟩) := by
    rw [throughStorage, written]
    exact parseValue_text stored range.kind
  rw [read, Except.ok.injEq]
  constructor
  · intro same
    have start := congrArg DateRange.start (row_inj same)
    by_cases blank : trimmedPart range.start = ""
    · simp [blank]
    · exact DateRow.not_mem_parse_start (start.trans (if_neg blank))
  · intro slash
    rw [DateRow.parse_of_compose? (trimmed _) (trimmed _) slash composed]
    rfl

/-- Writing fails on the ranges with nothing in them and on no others; what is written of any other comes back,
its parts trimmed, exactly when the start holds no slash. -/
theorem serialize_parse_domain (range : DateRange) :
    (range.row.serialize = .error (.emptyDateRow (.text range.kind)) ↔ range.row.isFilled = .ok false) ∧
      (range.row.isFilled = .ok false ∨ ∃ stored, range.row.serialize = .ok stored ∧
        (DateRow.parseValue (.text stored) (.text range.kind) = .ok range.kept.row ↔
          '/' ∉ (trimmedPart range.start).toList)) := by
  cases filled : trimmedPart range.start != "" || trimmedPart range.stop != "" with
  | false =>
    have empty : range.row.isFilled = .ok false := by rw [isFilled_row, filled]
    exact ⟨iff_of_true (serialize_empty empty) empty, .inl empty⟩
  | true =>
    have full : range.row.isFilled = .ok true := by rw [isFilled_row, filled]
    obtain ⟨stored, -, written⟩ := serialize_row full
    have back := throughStorage_eq_iff full
    rw [throughStorage, written] at back
    refine ⟨?_, .inr ⟨stored, written, back⟩⟩
    rw [written, full]
    simp

/-- Of the rows that the rules of a type accept, those come back from storage whose start has no slash in its
clock time. -/
theorem throughStorage_of_accepted (kind : String) (today : Date) (range : DateRange) (context : Value)
    (filled : range.row.isFilled = .ok true)
    (accepted : (Rule.dateRules (.text kind) today).map
      (Rule.evaluate · range.row.toValue context) = .ok none) :
    range.throughStorage = .ok range.kept.row ↔
      ∀ time ∈ (DateToken.parse (range.start.getD "")).time, '/' ∉ time.toList := by
  obtain ⟨outcome, found, sound, _⟩ := Rule.evaluate_dateRules kind today range context
  rw [found, Except.ok.injEq] at accepted
  have token := DateToken.slash_mem_parse (range.start.getD "")
  rw [throughStorage_eq_iff filled, trimmedPart, Text.toList_strip]
  rcases (sound.mp accepted).start with blank | ⟨day, named, _⟩
  · -- A blank start has no characters, and no time.
    have nothing : Text.trim (range.start.getD "").toList = [] := by
      rw [← Text.toList_strip, ← trimmedPart, blank]
      rfl
    rw [nothing] at token ⊢
    have absent := not_or.mp (mt token.mpr List.not_mem_nil)
    simpa using absent.2
  · have date := DateToken.slash_not_mem_of_dayOf? named
    rw [token]
    simp [date]

/-- A range from a clock time with an offset to a month. -/
private def fromOffset : DateRange :=
  ⟨"issued", some " 2023-05-01T10:00+0200", some "2023-06"⟩

theorem throughStorage_fromOffset :
    fromOffset.row.isFilled = .ok true ∧
      (Rule.dateRules (.text "issued") ⟨2024, 6, 15, by decide⟩).map
        (Rule.evaluate · fromOffset.row.toValue .null) = .ok none ∧
      fromOffset.throughStorage =
        .ok (DateRange.row ⟨"issued", some "2023-05-01T10:00+0200", some "2023-06"⟩) := by
  have filled : fromOffset.row.isFilled = .ok true := rfl
  have accepted : (Rule.dateRules (.text "issued") ⟨2024, 6, 15, by decide⟩).map
      (Rule.evaluate · fromOffset.row.toValue .null) = .ok none := rfl
  have time : ∀ time ∈ (DateToken.parse (fromOffset.start.getD "")).time, '/' ∉ time.toList := by decide
  exact ⟨filled, accepted, (throughStorage_of_accepted "issued" _ fromOffset .null filled accepted).mpr time⟩

/-- A range that starts within a span of clock times. -/
private def fromSpan : DateRange :=
  ⟨"other", some "2023-05-01T10:00/12:00", some "2023-05-02"⟩

/-- The rules accept a span of clock times, and storage tears it apart at its slash. -/
theorem throughStorage_fromSpan :
    fromSpan.row.isFilled = .ok true ∧
      (Rule.dateRules (.text "other") ⟨2024, 6, 15, by decide⟩).map
        (Rule.evaluate · fromSpan.row.toValue .null) = .ok none ∧
      fromSpan.throughStorage =
        .ok (DateRange.row ⟨"other", some "2023-05-01T10:00", some "12:00/2023-05-02"⟩) ∧
      fromSpan.throughStorage ≠ .ok fromSpan.kept.row := by
  refine ⟨rfl, rfl, rfl, ?_⟩
  rw [Ne, throughStorage_eq_iff rfl]
  decide

/-! ## Texts that are read and written again -/

/-- The range that a stored text stands for. -/
def ofStored (kind stored : String) : DateRange :=
  ⟨kind, (DateRow.parse stored).1, (DateRow.parse stored).2⟩

/-- What is read of a text comes back from storage, unless it is nothing. -/
private theorem throughStorage_ofStored {kind stored : String}
    (filled : (ofStored kind stored).row.isFilled = .ok true) :
    (ofStored kind stored).throughStorage = .ok (ofStored kind stored).row := by
  obtain ⟨start, stop⟩ := DateRow.filledText_parse stored
  have kept : (ofStored kind stored).kept = ofStored kind stored := by
    rw [DateRange.kept, ofStored, start, stop]
  have unslashed : '/' ∉ (trimmedPart (ofStored kind stored).start).toList := by
    rw [ofStored]
    by_cases blank : trimmedPart (DateRow.parse stored).1 = ""
    · simp [blank]
    · rw [filledText, if_neg blank] at start
      exact DateRow.not_mem_parse_start start.symm
  have back := (throughStorage_eq_iff filled).mpr unslashed
  rwa [kept] at back

/-- The text is blank but for one slash at most. -/
def IsHollow (stored : String) : Prop :=
  ∃ before after, (∀ c ∈ before ++ after, Text.isBlank c = true) ∧
    (stored.toList = before ++ after ∨ stored.toList = before ++ '/' :: after)

theorem parse_eq_none_iff (stored : String) : DateRow.parse stored = (none, none) ↔ IsHollow stored := by
  rw [DateRow.parse]
  constructor
  · intro nothing
    obtain ⟨first, last, chars, blank, blank'⟩ := Text.exists_trimmed_off stored.toList
    split at nothing
    next start cut =>
      have empty := DateRow.part?_eq_none_iff.mp (congrArg Prod.fst nothing)
      rw [Text.eq_of_cutAt_none cut] at chars
      refine ⟨first ++ start, last, ?_, .inl chars⟩
      simp only [List.mem_append]
      rintro c ((member | member) | member)
      · exact blank c member
      · exact empty c member
      · exact blank' c member
    next start rest cut =>
      have empty := DateRow.part?_eq_none_iff.mp (congrArg Prod.fst nothing)
      have empty' := DateRow.part?_eq_none_iff.mp (congrArg Prod.snd nothing)
      rw [Text.eq_append_of_cutAt cut] at chars
      refine ⟨first ++ start, rest ++ last, ?_, .inr (by simp [chars])⟩
      simp only [List.mem_append]
      rintro c ((member | member) | (member | member))
      · exact blank c member
      · exact empty c member
      · exact empty' c member
      · exact blank' c member
  · rintro ⟨before, after, blank, chars | chars⟩
    · rw [chars, Text.trim_eq_nil_iff.mpr blank]
      rfl
    · have visible : Text.isBlank '/' = false := rfl
      have alone : Text.IsTrimmed ['/'] := ⟨by simpa using visible, by simpa using visible⟩
      have slash : trim (before ++ ['/'] ++ after) = ['/'] :=
        alone.trim_surrounded (by decide) (fun c member => blank c (List.mem_append_left after member))
          fun c member => blank c (List.mem_append_right before member)
      rw [chars, List.append_cons, slash]
      rfl

/-- Whatever text is read as a range, either nothing is found in it, since it is blank but for one slash at most, or the
range that is found can be written, and what is written is read as that range again and written as the same text. -/
theorem reread_stored (kind stored : String) :
    ∃ range : DateRange, DateRow.parseValue (.text stored) (.text kind) = .ok range.row ∧
      (range.start = none ∧ range.stop = none ↔ IsHollow stored) ∧
      (range.start = none ∧ range.stop = none ∨
        ∃ text, range.row.serialize = .ok text ∧
          ∃ again, DateRow.parseValue (.text text) (.text kind) = .ok again ∧ again = range.row ∧
            again.serialize = .ok text) := by
  refine ⟨ofStored kind stored, parseValue_text stored kind, ?_, ?_⟩
  · rw [← parse_eq_none_iff, Prod.ext_iff]
    rfl
  · have either := isFilled_row (ofStored kind stored)
    cases filled : trimmedPart (DateRow.parse stored).1 != "" || trimmedPart (DateRow.parse stored).2 != "" with
    | false =>
      obtain ⟨start, stop⟩ := DateRow.filledText_parse stored
      simp only [Bool.or_eq_false_iff, bne_eq_false_iff_eq] at filled
      rw [filled.1, filledText, if_pos rfl] at start
      rw [filled.2, filledText, if_pos rfl] at stop
      exact .inl ⟨start.symm, stop.symm⟩
    | true =>
      have full : (ofStored kind stored).row.isFilled = .ok true := either.trans (congrArg Except.ok filled)
      obtain ⟨text, -, written⟩ := serialize_row full
      have back := throughStorage_ofStored full
      rw [throughStorage, written] at back
      exact .inr ⟨text, written, _, back, rfl, written⟩

end DateRange

end DatasetForm
