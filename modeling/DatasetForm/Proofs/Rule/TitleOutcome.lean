import DatasetForm.Proofs.Rule.Titles
import Mathlib.Data.List.Basic

/-!
The outcome of each row of titles, in terms of the row and the rows before it (`Title.outcomeAfter`). Judging all
rows beside each other gives just these outcomes, so that rows which come later change nothing.
-/

set_option autoImplicit false
set_option relaxedAutoImplicit false

namespace DatasetForm

namespace Rule

/-- Does a length lie above the share of a limit that the ratio gives? The share is the product as it is computed,
rounded when one of the two is a binary number. -/
def isAboveShare (most ratio : Value) (length : Nat) : Bool :=
  match (most.times ratio).bind fun share => share.compares .less (.int length) with
  | .ok above => above
  | .error _ => false

end Rule

/-- An error when a condition holds. -/
def Outcome.errorIf (condition : Prop) [Decidable condition] (complaint : Complaint) : Option Outcome :=
  if condition then some (.error complaint) else none

/-- The outcome of a title that comes after others: the first of these that holds. -/
def Title.outcomeAfter (most : Int) (ratio : Value) (earlier : List Title) (title : Title) : Option Outcome :=
  let length := (Text.strip title.text).length
  if title.IsMain ∧ length = 0 then some (.error .mainTitleBlank)
  else if most < length then some (.error (.tooLong "Title" (.int most) length))
  else if ∃ other ∈ earlier, Title.Repeats other title then some (.error .duplicateTitle)
  else if ∃ other ∈ earlier, Title.BothMain other title then some (.error .extraMainTitle)
  else if Rule.isAboveShare (.int most) ratio length then
    some (.warning (.nearLimit "Title" length (.int most)))
  else none

namespace Rule

variable {settings : Settings} {most : Int}

/-- A ratio within its range is a number. -/
private theorem ratio_number (inRange : settings.checkRanges = .ok ()) :
    (∃ b, settings.lengthWarningRatio = .bool b) ∨ (∃ n, settings.lengthWarningRatio = .int n) ∨
      ∃ x, settings.lengthWarningRatio = .float x := by
  cases compared : (Value.int 0).compares .less settings.lengthWarningRatio with
  | ok answer => exact Value.number_of_compares compared
  | error failure =>
    rw [Settings.checkRanges, compared] at inRange
    cases inRange

/-- The share of a limit that has a binary number is a number, and lengths compare with it. -/
theorem exists_share (binary : (Binary64.ofInt? most).isSome) (inRange : settings.checkRanges = .ok ()) :
    ∃ share, (Value.int most).times settings.lengthWarningRatio = .ok share ∧
      ∀ length : Nat, ∃ above, share.compares .less (.int length) = .ok above := by
  rcases ratio_number inRange with ⟨b, ratio⟩ | ⟨n, ratio⟩ | ⟨x, ratio⟩
  · rw [ratio]
    exact ⟨_, rfl, fun length => ⟨_, Value.compares_less_int ..⟩⟩
  · rw [ratio]
    exact ⟨_, rfl, fun length => ⟨_, Value.compares_less_int ..⟩⟩
  · obtain ⟨limit, isLimit⟩ := Option.isSome_iff_exists.mp binary
    refine ⟨.float (limit.mul x), ?_, fun length => Value.compares_float_int .less (limit.mul x) length⟩
    simp [ratio, Value.times, Value.toBinary, isLimit, Except.map]

theorem judge_nearLimit (binary : (Binary64.ofInt? most).isSome) (inRange : settings.checkRanges = .ok ())
    (field text : String) (context : Value) (short : ¬most < (Text.strip text).length) :
    (nearLimit field (.int most) settings.lengthWarningRatio).judge (.text text) context =
      if isAboveShare (.int most) settings.lengthWarningRatio (Text.strip text).length then
        some (.warning (.nearLimit field (Text.strip text).length (.int most)))
      else none := by
  obtain ⟨share, product, comparable⟩ := exists_share binary inRange
  obtain ⟨above, compared⟩ := comparable (Text.strip text).length
  have length : Format.textLength (.text text) = (Text.strip text).length := rfl
  have within : (Text.strip text).length ≤ most := Int.not_lt.mp short
  simp only [judge, nearLimit, isNearLimit, isAboveShare, Value.orEmpty_text, length, product, bind,
    Except.bind, compared, Value.compares_lessOrEqual_int, within]
  cases above <;> rfl

theorem errorIf_eq_none_iff {condition : Prop} [Decidable condition] {complaint : Complaint} :
    Outcome.errorIf condition complaint = none ↔ ¬condition := by
  simp [Outcome.errorIf]

/-- The rule for lengths near a limit warns or fails, and blames for nothing. -/
theorem nearLimit_ne_error {field : String} {most ratio value context : Value} {complaint : Complaint}
    (blame : ∀ failure, complaint ≠ .failed failure) :
    (nearLimit field most ratio).judge value context ≠ some (.error complaint) := by
  intro found
  cases near : isNearLimit most ratio (Format.textLength value.orEmpty) with
  | error failure =>
    simp only [judge, nearLimit, near, Except.map, Option.some.injEq] at found
    exact blame failure (congrArg Outcome.complaint found).symm
  | ok near' =>
    simp only [judge, nearLimit, near, Except.map] at found
    cases near' <;> cases found

/-- The rules of a title row, each by itself: the two that look at rows beside it see the rows before it. -/
theorem evaluate_titleRules_eq {titles : List Title} {index : Nat} {title : Title}
    (found : titles[index]? = some title) (settings : Settings) :
    evaluate (titleRules index (.text title.kind) (titles.map Title.row) settings) (.text title.text)
        (contextOf (titles.map Title.row)) =
      (Outcome.errorIf (Title.slug title.kind = TitleType.mainTitle.slug ∧ Text.strip title.text = "")
        .mainTitleBlank).or
      (((maxLength "Title" settings.titleMaxLength).judge (.text title.text) .null).or
      ((Outcome.errorIf (∃ earlier ∈ titles.take index, Title.Repeats earlier title) .duplicateTitle).or
      ((Outcome.errorIf (∃ earlier ∈ titles.take index, Title.BothMain earlier title) .extraMainTitle).or
      ((nearLimit "Title" settings.titleMaxLength settings.lengthWarningRatio).judge
        (.text title.text) .null)))) := by
  have required : (mainRequired (Title.slugOf (.text title.kind) == TitleType.mainTitle.slug)).judge
      (.text title.text) (contextOf (titles.map Title.row)) = Outcome.errorIf
        (Title.slug title.kind = TitleType.mainTitle.slug ∧ Text.strip title.text = "") .mainTitleBlank := by
    have slug : Title.slugOf (.text title.kind) = Title.slug title.kind := rfl
    have blank : (Value.text title.text).isBlank = (Text.strip title.text == "") := rfl
    simp [mainRequired, judge_plain, slug, blank, Outcome.errorIf]
  rw [titleRules, evaluate_cons, evaluate_cons, evaluate_cons, evaluate_cons, evaluate_cons, evaluate_nil,
    Option.or_none, required, judge_uniqueTitle found, judge_singleMain found]
  rfl

theorem evaluate_titleRules_outcomeAfter {titles : List Title} {index : Nat} {title : Title}
    (found : titles[index]? = some title) (limit : settings.titleMaxLength = .int most)
    (binary : (Binary64.ofInt? most).isSome) (inRange : settings.checkRanges = .ok ())
    (isSlug : Title.slug title.kind = title.kind) :
    evaluate (titleRules index (.text title.kind) (titles.map Title.row) settings) (.text title.text)
        (contextOf (titles.map Title.row)) =
      title.outcomeAfter most settings.lengthWarningRatio (titles.take index) := by
  have length : Format.textLength (.text title.text) = (Text.strip title.text).length := rfl
  have blank : (Text.strip title.text).length = 0 ↔ Text.strip title.text = "" := String.length_eq_zero_iff
  rw [evaluate_titleRules_eq found, limit, judge_maxLength, length, isSlug, Title.outcomeAfter]
  simp only [Outcome.errorIf, Title.IsMain, blank]
  split
  · rfl
  rw [Option.none_or]
  split
  · rfl
  next short =>
    rw [Option.none_or, judge_nearLimit binary inRange "Title" title.text .null short]
    split
    · rfl
    · rw [Option.none_or]
      split <;> rfl

theorem revalidate_rows (settings : Settings) (titles : List Title) :
    revalidate settings (titles.map Title.row) = titles.mapIdx fun index title =>
      evaluate (titleRules index (.text title.kind) (titles.map Title.row) settings) (.text title.text)
        (contextOf (titles.map Title.row)) := by
  rw [revalidate, List.mapIdx_eq_zipIdx_map, List.zipIdx_map, List.map_map]
  rfl

private theorem revalidate_slugs {titles : List Title} (limit : settings.titleMaxLength = .int most)
    (binary : (Binary64.ofInt? most).isSome) (inRange : settings.checkRanges = .ok ())
    (slugs : ∀ title ∈ titles, Title.slug title.kind = title.kind) :
    revalidate settings (titles.map Title.row) = titles.mapIdx fun index title =>
      title.outcomeAfter most settings.lengthWarningRatio (titles.take index) := by
  rw [revalidate_rows]
  refine List.ext_getElem? fun index => ?_
  rw [List.getElem?_mapIdx, List.getElem?_mapIdx]
  cases found : titles[index]? with
  | none => rfl
  | some title =>
    have isSlug := slugs title (List.mem_of_getElem? found)
    exact congrArg some (evaluate_titleRules_outcomeAfter found limit binary inRange isSlug)

/-- Each row has the outcome that the rows before it give it, so that its outcome does not depend on the rows
after it. A main title with nothing in it is told so first. -/
theorem revalidate_outcomesAfter (settings : Settings) (most : Int) (titles later : List Title)
    (limit : settings.titleMaxLength = .int most) (binary : (Binary64.ofInt? most).isSome)
    (inRange : settings.checkRanges = .ok ())
    (slugs : ∀ title ∈ titles ++ later, Title.slug title.kind = title.kind) :
    (revalidate settings (titles.map Title.row) = titles.mapIdx fun index title =>
        title.outcomeAfter most settings.lengthWarningRatio (titles.take index)) ∧
      (revalidate settings ((titles ++ later).map Title.row)).take titles.length =
        revalidate settings (titles.map Title.row) ∧
      (Outcome.error .mainTitleBlank).message = "Main title is required" := by
  have first := revalidate_slugs limit binary inRange fun title member =>
    slugs title (List.mem_append_left later member)
  refine ⟨first, ?_, rfl⟩
  rw [revalidate_slugs limit binary inRange slugs, first]
  refine List.ext_getElem? fun index => ?_
  rw [List.getElem?_take, List.getElem?_mapIdx, List.getElem?_mapIdx]
  split
  next inside =>
    rw [List.getElem?_append_left inside, List.take_append_of_le_length inside.le]
  next outside =>
    rw [List.getElem?_eq_none (Nat.not_lt.mp outside)]
    rfl

/-- Rows of which each but the first has something wrong with it. -/
private def snowTitles : List Title :=
  [⟨"Ice cores", "main-title"⟩, ⟨"ICE  cores", "main-title"⟩, ⟨" ", "main-title"⟩, ⟨"Snow", "main-title"⟩,
    ⟨"Snow depths", "subtitle"⟩, ⟨"Snow depth", "subtitle"⟩]

theorem revalidate_snowTitles :
    let settings := { titleMaxLength := 10 : Limits }.settings
    settings.titleMaxLength = .int 10 ∧ (Binary64.ofInt? 10).isSome ∧ settings.checkRanges = .ok () ∧
      (∀ title ∈ snowTitles ++ [⟨"Snow depth", "subtitle"⟩], Title.slug title.kind = title.kind) ∧
      (revalidate settings (snowTitles.map Title.row)).map (Option.map Outcome.line) =
        [none, some "[ERROR] This title already exists", some "[ERROR] Main title is required",
          some "[ERROR] Only one main title is allowed",
          some "[ERROR] Title must not exceed 10 characters (current: 11)",
          some "[WARNING] Title is approaching maximum length (10/10)"] := by
  intro settings
  have binary : (Binary64.ofInt? 10).isSome := by decide +kernel
  have slugs : ∀ title ∈ snowTitles ++ [⟨"Snow depth", "subtitle"⟩], Title.slug title.kind = title.kind := by
    decide +kernel
  have outcomes := (revalidate_outcomesAfter settings 10 snowTitles _ rfl binary rfl slugs).1
  refine ⟨rfl, binary, rfl, slugs, ?_⟩
  rw [outcomes]
  decide +kernel

end Rule

end DatasetForm
