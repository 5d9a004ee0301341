import DatasetForm.Proofs.Rule.Field
import DatasetForm.Proofs.Title.Siblings
import DatasetForm.Rule.Titles

/-!
When the rules of a title row block, if the rows hold texts and the types are slugs: when it is a main title
with nothing in it, when it is too long, when it repeats an earlier row, and when an earlier row is the main
title.
-/

set_option autoImplicit false
set_option relaxedAutoImplicit false

namespace DatasetForm

/-- The title at a position among others has nothing wrong with it. -/
structure Title.IsSound (limits : Limits) (titles : List Title) (index : Nat) (title : Title) : Prop where
  filled : title.IsMain → Text.strip title.text ≠ ""
  short : (Text.strip title.text).length ≤ limits.titleMaxLength
  fresh : ¬Title.HasEarlier Title.Repeats [] titles index
  single : ¬Title.HasEarlier Title.BothMain [] titles index

/-- Every title is sound at its position when no main title is blank, none is too long, and no two of them repeat
each other or are both main titles. -/
theorem Title.forall_isSound_iff (limits : Limits) (titles : List Title) :
    (∀ index title, titles[index]? = some title → Title.IsSound limits titles index title) ↔
      (∀ title ∈ titles, title.IsMain → Text.strip title.text ≠ "") ∧
        (∀ title ∈ titles, (Text.strip title.text).length ≤ limits.titleMaxLength) ∧
        (titles.Pairwise fun earlier title => ¬Title.Repeats earlier title) ∧
        titles.Pairwise fun earlier title => ¬Title.BothMain earlier title := by
  rw [← forall_not_hasEarlier_iff, ← forall_not_hasEarlier_iff]
  constructor
  · intro sound
    have each : ∀ title ∈ titles, ∃ index, Title.IsSound limits titles index title := by
      intro title member
      obtain ⟨index, found⟩ := List.getElem?_of_mem member
      exact ⟨index, sound index title found⟩
    refine ⟨?_, ?_, ?_, ?_⟩
    · intro title member
      obtain ⟨index, title_sound⟩ := each title member
      exact title_sound.filled
    · intro title member
      obtain ⟨index, title_sound⟩ := each title member
      exact title_sound.short
    · intro index repeated
      obtain ⟨title, found, -⟩ := id repeated
      exact (sound index title found).fresh repeated
    · intro index extra
      obtain ⟨title, found, -⟩ := id extra
      exact (sound index title found).single extra
  · rintro ⟨filled, short, fresh, single⟩ index title found
    have member : title ∈ titles := List.mem_of_getElem? found
    exact ⟨filled title member, short title member, fresh index, single index⟩

namespace Rule

theorem rowsOf_contextOf (rows : List TitleRow) : TitleRow.rowsOf (contextOf rows) = .ok rows := by
  have items : (contextOf rows).itemsOrNone = .ok (rows.map TitleRow.toValue) := by
    cases rows <;> rfl
  have read : (rows.map TitleRow.toValue).mapM TitleRow.ofValue = .ok rows := by
    induction rows with
    | nil => rfl
    | cons row rows ih =>
      have first : TitleRow.ofValue row.toValue = .ok row := rfl
      rw [List.map_cons, List.mapM_cons, first, ih (by cases rows <;> rfl)]
      rfl
  rw [TitleRow.rowsOf, items]
  exact read

theorem currentRows_contextOf (index : Int) (value : Value) (rows made : List TitleRow) :
    currentRows index value (contextOf rows) made = .ok (withCurrent index value rows) := by
  have current : currentRows index value (contextOf rows) made =
      (TitleRow.rowsOf (contextOf rows)).map (withCurrent index value) := rfl
  rw [current, rowsOf_contextOf, Except.map]

section

variable {titles : List Title} {index : Nat} {title : Title} (found : titles[index]? = some title)
include found

/-- A row that holds a text is not changed by its own value. -/
theorem withCurrent_rows :
    withCurrent index (.text title.text) (titles.map Title.row) = titles.map Title.row := by
  have text : (Value.text title.text).orEmpty.toText = title.text := by
    rw [Value.orEmpty_text, Value.toText]
  refine List.ext_getElem? fun position => ?_
  rw [withCurrent, if_pos (Int.natCast_nonneg index), Int.toNat_natCast, List.getElem?_modify, text,
    List.getElem?_map]
  by_cases here : index = position
  · subst here
    simp [found, Title.row]
  · simp [here]

theorem currentRows_rows (made : List TitleRow) :
    currentRows index (.text title.text) (contextOf (titles.map Title.row)) made =
      .ok (titles.map Title.row) := by
  rw [currentRows_contextOf, withCurrent_rows found]

end

theorem blamed_natCast (index : Nat) (complaint : Complaint) (positions : List Nat) :
    blamed index complaint positions = if index ∈ positions then some (.error complaint) else none := by
  have blames : (positions.any fun position => (position : Int) == index) = decide (index ∈ positions) := by
    rw [Bool.eq_iff_iff]
    simp
  simp [blamed, blames]

private theorem blocks_of_mem_blamed {index : Int} {complaint : Complaint} {positions : List Nat}
    {outcome : Outcome} (found : outcome ∈ blamed index complaint positions) : outcome.blocks = true := by
  rw [blamed] at found
  split at found
  · cases found
    rfl
  · cases found

@[simp] theorem isBlocking_mainRequired (isMain : Bool) (value context : Value) :
    Outcome.isBlocking ((mainRequired isMain).judge value context) = (isMain && value.isBlank) := by
  rw [mainRequired, judge_plain]
  cases isMain && value.isBlank <;> rfl

theorem neverWarns_mainRequired (isMain : Bool) : (mainRequired isMain).NeverWarns := by
  intro value context outcome found
  rw [mainRequired, judge_plain] at found
  split at found
  · cases found
    rfl
  · cases found

theorem neverWarns_uniqueTitle (index : Int) (made : List TitleRow) (debounce : Value) :
    (uniqueTitle index made debounce).NeverWarns := by
  refine neverWarns_of_check fun value context outcome found => ?_
  simp only [uniqueTitle, bind, Except.bind] at found
  split at found
  · cases found
  next rows current =>
    split at found
    · cases found
    next positions repeated => exact blocks_of_mem_blamed (Except.ok.inj found)

theorem neverWarns_singleMain (index : Int) (made : List TitleRow) :
    (singleMain index made).NeverWarns := by
  refine neverWarns_of_check fun value context outcome found => ?_
  simp only [singleMain] at found
  cases current : currentRows index value context made with
  | error failure =>
    rw [current] at found
    cases found
  | ok rows =>
    rw [current] at found
    exact blocks_of_mem_blamed (Except.ok.inj found)

section

variable {titles : List Title} {index : Nat} {title : Title} (found : titles[index]? = some title)
include found

theorem judge_uniqueTitle (made : List TitleRow) (debounce : Value) :
    (uniqueTitle index made debounce).judge (.text title.text) (contextOf (titles.map Title.row)) =
      if ∃ earlier ∈ titles.take index, Title.Repeats earlier title then some (.error .duplicateTitle)
      else none := by
  obtain ⟨positions, repeated, blames⟩ := Title.repeats_rows titles
  simp only [judge, uniqueTitle, currentRows_rows found, repeated, bind, Except.bind, pure, Except.pure,
    blamed_natCast, blames, Title.hasEarlier_iff found]

theorem judge_singleMain (made : List TitleRow) :
    (singleMain index made).judge (.text title.text) (contextOf (titles.map Title.row)) =
      if ∃ earlier ∈ titles.take index, Title.BothMain earlier title then some (.error .extraMainTitle)
      else none := by
  simp only [judge, singleMain, currentRows_rows found, Except.map, blamed_natCast,
    Title.mem_extraMains_rows, Title.hasEarlier_iff found]

theorem isBlocking_uniqueTitle (made : List TitleRow) (debounce : Value) :
    Outcome.isBlocking ((uniqueTitle index made debounce).judge (.text title.text)
      (contextOf (titles.map Title.row))) = false ↔ ¬Title.HasEarlier Title.Repeats [] titles index := by
  rw [judge_uniqueTitle found, Title.hasEarlier_iff found]
  split <;> simp [*]

theorem isBlocking_singleMain (made : List TitleRow) :
    Outcome.isBlocking ((singleMain index made).judge (.text title.text)
      (contextOf (titles.map Title.row))) = false ↔ ¬Title.HasEarlier Title.BothMain [] titles index := by
  rw [judge_singleMain found, Title.hasEarlier_iff found]
  split <;> simp [*]

theorem evaluate_titleRules (limits : Limits) (binary : (Binary64.ofInt? limits.titleMaxLength).isSome)
    (isSlug : Title.slug title.kind = title.kind) :
    Outcome.isBlocking (evaluate
      (titleRules index (.text title.kind) (titles.map Title.row) limits.settings)
      (.text title.text) (contextOf (titles.map Title.row))) = false ↔
        title.IsSound limits titles index := by
  have filled : (Title.slugOf (.text title.kind) == TitleType.mainTitle.slug &&
      (Value.text title.text).isBlank) = false ↔ (title.IsMain → Text.strip title.text ≠ "") := by
    have slug : Title.slugOf (.text title.kind) = title.kind := isSlug
    have blank : (Value.text title.text).isBlank = (Text.strip title.text == "") := rfl
    rw [slug, blank, Bool.and_eq_false_imp, beq_eq_false_iff_ne, beq_iff_eq, Title.IsMain]
  have short : decide (limits.titleMaxLength < Format.textLength (.text title.text)) = false ↔
      (Text.strip title.text).length ≤ limits.titleMaxLength := by
    rw [decide_eq_false_iff_not, Int.not_lt]
    rfl
  rw [titleRules, isBlocking_evaluate_cons (neverWarns_mainRequired _),
    isBlocking_evaluate_cons (neverWarns_maxLength _ _),
    isBlocking_evaluate_cons (neverWarns_uniqueTitle _ _ _),
    isBlocking_evaluate_cons (neverWarns_singleMain _ _), isBlocking_evaluate_singleton]
  simp only [Limits.settings, Bool.or_eq_false_iff, isBlocking_mainRequired, filled, isBlocking_maxLength,
    short, isBlocking_uniqueTitle found, isBlocking_singleMain found, isBlocking_nearLimit _ binary, and_true]
  constructor
  · rintro ⟨filled, short, fresh, single⟩
    exact ⟨filled, short, fresh, single⟩
  · rintro ⟨filled, short, fresh, single⟩
    exact ⟨filled, short, fresh, single⟩

end

end Rule

end DatasetForm
