import DatasetForm.Proofs.Rule.Tiers

/-!
What becomes of a value that is no text. The rules of the abstract and of titles turn it into one in two ways. Those
for required fields and for lengths take its text, and only null has none. Those that compare titles, and the warning
near a limit, take the empty text for whatever counts as missing. The two ways part on hollow values: false, zero,
and empty lists, tuples and mappings have a text and still count as missing. All other values are judged by their
text (`judgedByText_iff`).
-/

set_option autoImplicit false
set_option relaxedAutoImplicit false

namespace DatasetForm

namespace Value

/-- A value that is neither null nor a text, and counts as missing nevertheless. -/
inductive IsHollow : Value → Prop
  | no : IsHollow (.bool false)
  | zero : IsHollow (.int 0)
  | floatZero {x : Binary64} (zero : x.isZero = true) : IsHollow (.float x)
  | list : IsHollow (.list [])
  | tuple : IsHollow (.tuple [])
  | mapping : IsHollow (.mapping [])

variable {value : Value}

theorem isHollow_of_not_isTruthy (present : value ≠ .null) (missing : value.isTruthy = false) :
    (∃ s, value = .text s) ∨ value.IsHollow := by
  cases value with
  | null => exact absurd rfl present
  | text s => exact .inl ⟨s, rfl⟩
  | bool b =>
    obtain rfl : b = false := missing
    exact .inr .no
  | int n =>
    obtain rfl : n = 0 := by simpa [isTruthy] using missing
    exact .inr .zero
  | float x => exact .inr (.floatZero (by simpa [isTruthy] using missing))
  | list items =>
    obtain rfl : items = [] := by simpa [isTruthy] using missing
    exact .inr .list
  | tuple items =>
    obtain rfl : items = [] := by simpa [isTruthy] using missing
    exact .inr .tuple
  | mapping entries =>
    obtain rfl : entries = [] := by simpa [isTruthy] using missing
    exact .inr .mapping
  | _ => cases missing

theorem IsHollow.orEmpty (hollow : value.IsHollow) : value.orEmpty = .text "" := by
  cases hollow with
  | floatZero zero => simp [Value.orEmpty, isTruthy, zero]
  | _ => rfl

/-- A value that is present and not hollow is kept as it is where the empty text stands for missing ones. -/
theorem orEmpty_of_not_isHollow (present : value ≠ .null) (solid : ¬value.IsHollow) : value.orEmpty = value := by
  cases truthy : value.isTruthy with
  | true => simp [orEmpty, truthy]
  | false =>
    obtain ⟨s, rfl⟩ := (isHollow_of_not_isTruthy present truthy).resolve_right solid
    exact orEmpty_text s

/-- The text of a hollow value is short, and not blank. -/
theorem IsHollow.length (hollow : value.IsHollow) :
    Format.textLength value ∈ [1, 2, 3, 4, 5] := by
  cases hollow with
  | @floatZero x zero =>
    cases x with
    | finite negative significand exponent =>
      obtain rfl : significand = 0 := by simpa [Binary64.isZero] using zero
      have text : (Value.float (.finite negative 0 exponent)).toText = if negative then "-0.0" else "0.0" := by
        cases negative <;> rfl
      rw [Format.textLength, trimmedText, text]
      · cases negative <;> decide +kernel
      · exact Value.noConfusion
    | _ => cases zero
  | _ => decide +kernel

theorem IsHollow.present (hollow : value.IsHollow) : value ≠ .null := by
  rintro rfl
  cases hollow

theorem IsHollow.filled (hollow : value.IsHollow) : 0 < Format.textLength value := by
  have length := hollow.length
  simp only [List.mem_cons, List.not_mem_nil, or_false] at length
  omega

theorem IsHollow.isBlank (hollow : value.IsHollow) : value.isBlank = false := by
  rw [Value.isBlank, beq_eq_false_iff_ne, Ne, ← String.length_eq_zero_iff]
  exact Nat.pos_iff_ne_zero.mp hollow.filled

theorem trimmedText_toText (present : value ≠ .null) :
    (Value.text value.toText).trimmedText = value.trimmedText := by
  cases value with
  | null => exact absurd rfl present
  | _ => rfl

end Value

namespace Rule

variable {value context : Value}

/-- Where the empty text stands for missing values, a rule reads a value by the text of what stands for it. -/
theorem judge_nearLimit_orEmpty (field : String) (most ratio : Value) :
    (nearLimit field most ratio).judge value context =
      (nearLimit field most ratio).judge (.text value.orEmpty.toText) context := by
  have present : value.orEmpty ≠ .null := by
    rw [Value.orEmpty]
    split
    next truthy =>
      rintro rfl
      cases truthy
    · exact Value.noConfusion
  have length : Format.textLength (Value.text value.orEmpty.toText).orEmpty =
      Format.textLength value.orEmpty := by
    rw [Value.orEmpty_text, Format.textLength, Value.trimmedText_toText present, Format.textLength]
  simp only [judge, nearLimit, length]

theorem currentRows_orEmpty (index : Int) (made : List TitleRow) :
    currentRows index value context made =
      currentRows index (.text value.orEmpty.toText) context made := by
  have current : withCurrent index value = withCurrent index (.text value.orEmpty.toText) := by
    funext rows
    rw [withCurrent, withCurrent, Value.orEmpty_text, Value.toText]
  cases context <;> simp only [currentRows, current]

section

variable {index : Int} {made made' : List TitleRow} {other context' : Value}
  (same : currentRows index value context made = currentRows index other context' made')
include same

/-- The rules that compare titles see nothing but the rows as they are. -/
theorem judge_uniqueTitle_congr (debounce : Value) :
    (uniqueTitle index made debounce).judge value context =
      (uniqueTitle index made' debounce).judge other context' := by
  simp only [judge, uniqueTitle, same]

theorem judge_singleMain_congr :
    (singleMain index made).judge value context = (singleMain index made').judge other context' := by
  simp only [judge, singleMain, same]

end

/-- The rules of a title that read what stands for its value, which is the empty text for a missing one. -/
def besideRules (index : Int) (made : List TitleRow) (settings : Settings) : List Rule :=
  [uniqueTitle index made settings.debounceMs, singleMain index made,
    nearLimit "Title" settings.titleMaxLength settings.lengthWarningRatio]

theorem evaluate_besideRules_eq (index : Int) (made : List TitleRow) (settings : Settings) (value context : Value) :
    evaluate (besideRules index made settings) value context =
      ((uniqueTitle index made settings.debounceMs).judge value context).or
        (((singleMain index made).judge value context).or
          ((nearLimit "Title" settings.titleMaxLength settings.lengthWarningRatio).judge value context)) := by
  rw [besideRules, evaluate_cons, evaluate_cons, evaluate_cons, evaluate_nil, Option.or_none]

theorem evaluate_besideRules_orEmpty (index : Int) (made : List TitleRow) (settings : Settings) :
    evaluate (besideRules index made settings) value context =
      evaluate (besideRules index made settings) (.text value.orEmpty.toText) context := by
  have rows : currentRows index value context made =
      currentRows index (.text value.orEmpty.toText) context made := currentRows_orEmpty index made
  rw [evaluate_besideRules_eq, evaluate_besideRules_eq, judge_uniqueTitle_congr rows,
    judge_singleMain_congr rows, judge_nearLimit_orEmpty]

/-- The abstract's rules find in a value what they find in its text. -/
def AbstractByText (settings : Settings) (value context : Value) : Prop :=
  evaluate (abstractRules settings) value context =
    evaluate (abstractRules settings) (.text value.toText) context

/-- The rules of a title find in a value what they find in its text. -/
def TitleByText (index : Int) (kind : Value) (made : List TitleRow) (settings : Settings)
    (value context : Value) : Prop :=
  evaluate (titleRules index kind made settings) value context =
    evaluate (titleRules index kind made settings) (.text value.toText) context

section

variable (present : value ≠ .null)
include present

theorem isBlank_toText : (Value.text value.toText).isBlank = value.isBlank := by
  rw [Value.isBlank, Value.trimmedText_toText present, Value.isBlank]

theorem textLength_toText : Format.textLength (.text value.toText) = Format.textLength value := by
  rw [Format.textLength, Value.trimmedText_toText present, Format.textLength]

theorem judge_maxLength_toText (field : String) (most : Value) :
    (maxLength field most).judge (.text value.toText) context = (maxLength field most).judge value context := by
  simp only [judge, maxLength, Format.checkLength, textLength_toText present]

/-- A value has in the abstract the outcome of its text, unless the warning near the limit takes it for missing. -/
theorem abstractByText_iff (settings : Settings) (context : Value) :
    AbstractByText settings value context ↔
      (value.isBlank = false →
        (maxLength "Abstract" settings.abstractMaxLength).judge value context = none →
          (nearLimit "Abstract" settings.abstractMaxLength settings.lengthWarningRatio).judge
              (.text value.orEmpty.toText) context =
            (nearLimit "Abstract" settings.abstractMaxLength settings.lengthWarningRatio).judge
              (.text value.toText) context) := by
  have filled : (if value.isBlank then some (Outcome.error (.required "Abstract")) else none) = none ↔
      value.isBlank = false := by
    cases value.isBlank <;> simp
  rw [AbstractByText, evaluate_abstractRules_eq, evaluate_abstractRules_eq, isBlank_toText present,
    judge_maxLength_toText present, or_eq_or_iff, or_eq_or_iff, filled, judge_nearLimit_orEmpty]

theorem titleByText_iff (index : Int) (kind : Value) (made : List TitleRow) (settings : Settings)
    (context : Value) :
    TitleByText index kind made settings value context ↔
      ((mainRequired (Title.slugOf kind == TitleType.mainTitle.slug)).judge value context = none →
        (maxLength "Title" settings.titleMaxLength).judge value context = none →
          evaluate (besideRules index made settings) (.text value.orEmpty.toText) context =
            evaluate (besideRules index made settings) (.text value.toText) context) := by
  have rules : titleRules index kind made settings =
      mainRequired (Title.slugOf kind == TitleType.mainTitle.slug) ::
        maxLength "Title" settings.titleMaxLength :: besideRules index made settings := rfl
  have required (isMain : Bool) : (mainRequired isMain).judge (.text value.toText) context =
      (mainRequired isMain).judge value context := by
    rw [mainRequired, judge_plain, judge_plain, isBlank_toText present]
  rw [TitleByText, rules, evaluate_cons, evaluate_cons, evaluate_cons, evaluate_cons, required,
    judge_maxLength_toText present, or_eq_or_iff, or_eq_or_iff, evaluate_besideRules_orEmpty]

end

section

variable {titles : List Title} {index : Nat} {title : Title} (found : titles[index]? = some title)
include found

/-- Beside other titles, the row that is judged has the text it is judged by. -/
theorem withCurrent_text (text : String) :
    withCurrent index (.text text) (titles.map Title.row) =
      (titles.set index ⟨text, title.kind⟩).map Title.row := by
  refine List.ext_getElem? fun position => ?_
  rw [withCurrent, if_pos (Int.natCast_nonneg index), Int.toNat_natCast, List.getElem?_modify,
    List.getElem?_map, List.getElem?_map, List.getElem?_set, Value.orEmpty_text, Value.toText]
  by_cases here : index = position
  · subst here
    obtain ⟨inside, here⟩ := List.getElem?_eq_some_iff.mp found
    simp [inside, here, Title.row]
  · simp [here]

/-- The rows are the same whether the text stands in them already or not. -/
theorem currentRows_text (text : String) (made : List TitleRow) :
    currentRows index (.text text) (contextOf (titles.map Title.row)) made =
      currentRows index (.text text)
        (contextOf ((titles.set index ⟨text, title.kind⟩).map Title.row)) made := by
  obtain ⟨inside, -⟩ := List.getElem?_eq_some_iff.mp found
  have found' : (titles.set index ⟨text, title.kind⟩)[index]? = some ⟨text, title.kind⟩ :=
    List.getElem?_set_self inside
  have same : withCurrent index (.text text) ((titles.set index ⟨text, title.kind⟩).map Title.row) =
      (titles.set index ⟨text, title.kind⟩).map Title.row := withCurrent_rows found'
  rw [currentRows_contextOf, currentRows_contextOf, same, withCurrent_text found]

/-- What the rules find that compare a title of some text with the rows beside it. -/
theorem evaluate_besideRules_text (text : String) (made : List TitleRow) (settings : Settings) :
    evaluate (besideRules index made settings) (.text text) (contextOf (titles.map Title.row)) =
      (Outcome.errorIf (∃ earlier ∈ titles.take index, Title.Repeats earlier ⟨text, title.kind⟩)
        .duplicateTitle).or
      ((Outcome.errorIf (∃ earlier ∈ titles.take index, Title.BothMain earlier title) .extraMainTitle).or
      ((nearLimit "Title" settings.titleMaxLength settings.lengthWarningRatio).judge (.text text)
        (contextOf (titles.map Title.row)))) := by
  obtain ⟨inside, -⟩ := List.getElem?_eq_some_iff.mp found
  have found' : (titles.set index ⟨text, title.kind⟩)[index]? = some ⟨text, title.kind⟩ :=
    List.getElem?_set_self inside
  have before : (titles.set index ⟨text, title.kind⟩).take index = titles.take index :=
    List.take_set_of_le (Nat.le_refl index)
  rw [evaluate_besideRules_eq, judge_uniqueTitle_congr (currentRows_text found text made),
    judge_singleMain_congr (currentRows_text found text made), judge_uniqueTitle found',
    judge_singleMain found', before]
  rfl

end

/-- With a row to blame for a repetition, its outcome stays when there is none, and when what is left to find stays. -/
private theorem blamed_twice_iff {repeats mains : Prop} [Decidable repeats] [Decidable mains]
    {near near' : Option Outcome} (notRepeated : near ≠ some (.error .duplicateTitle)) :
    (Outcome.errorIf mains .extraMainTitle).or near =
        (Outcome.errorIf repeats .duplicateTitle).or ((Outcome.errorIf mains .extraMainTitle).or near') ↔
      ¬repeats ∧ (mains ∨ near = near') := by
  have apart : Outcome.error .extraMainTitle ≠ .error .duplicateTitle := by
    intro same
    cases same
  by_cases again : repeats
  · by_cases main : mains
    · simp [Outcome.errorIf, again, main, apart]
    · simp [Outcome.errorIf, again, main, notRepeated]
  · by_cases main : mains <;> simp [Outcome.errorIf, again, main]

section

variable {settings : Settings} {most : Int} (binary : (Binary64.ofInt? most).isSome)
  (inRange : settings.checkRanges = .ok ())
include binary inRange

/-- The warning near a limit tells a text from the empty one exactly when it warns of it. -/
theorem judge_nearLimit_empty_iff (field text : String) (context : Value) (filled : 0 < (Text.strip text).length)
    (within : (Text.strip text).length ≤ most) :
    (nearLimit field (.int most) settings.lengthWarningRatio).judge (.text "") context =
        (nearLimit field (.int most) settings.lengthWarningRatio).judge (.text text) context ↔
      isAboveShare (.int most) settings.lengthWarningRatio (Text.strip text).length = false := by
  have empty : (Text.strip "").length = 0 := by decide +kernel
  rw [judge_nearLimit binary inRange field "" context (by omega),
    judge_nearLimit binary inRange field text context (by omega), empty]
  cases above : isAboveShare (.int most) settings.lengthWarningRatio (Text.strip text).length with
  | false =>
    have below : isAboveShare (.int most) settings.lengthWarningRatio 0 = false :=
      Bool.eq_false_iff.mpr fun above' =>
        Bool.false_ne_true (above.symm.trans (isAboveShare_of_le (Nat.zero_le _) above'))
    simp [below]
  | true =>
    have lengths : (some (Outcome.warning (.nearLimit field 0 (.int most)))) ≠
        some (.warning (.nearLimit field (Text.strip text).length (.int most))) := by
      intro same
      simp only [Outcome.warning, Option.some.injEq, Outcome.mk.injEq, Complaint.nearLimit.injEq] at same
      omega
    split
    · simpa using lengths
    · simp

variable (hollow : value.IsHollow)
include hollow

/-- A hollow value has in the abstract the outcome of its text, unless the text is near the limit. -/
theorem abstractByText_iff_of_isHollow (limit : settings.abstractMaxLength = .int most) (context : Value) :
    AbstractByText settings value context ↔
      ¬(isAboveShare (.int most) settings.lengthWarningRatio (Format.textLength value) = true ∧
        Format.textLength value ≤ most) := by
  have length : (Text.strip value.toText).length = Format.textLength value := textLength_toText hollow.present
  have filled : 0 < Format.textLength value := hollow.filled
  rw [abstractByText_iff hollow.present, hollow.isBlank, limit, judge_maxLength, hollow.orEmpty]
  by_cases within : (Format.textLength value : Int) ≤ most
  · rw [Value.toText, judge_nearLimit_empty_iff binary inRange "Abstract" value.toText context (by omega)
      (by omega), length]
    simp [within]
  · simp [within, Int.not_le.mp within]

/-- A hollow value has as a title the outcome of its text, unless an earlier row repeats the text, or the text is near
the limit and nothing else is wrong with it. -/
theorem titleByText_iff_of_isHollow (limit : settings.titleMaxLength = .int most) {titles : List Title}
    {index : Nat} {title : Title} (found : titles[index]? = some title) (kind : Value) (made : List TitleRow) :
    TitleByText index kind made settings value (contextOf (titles.map Title.row)) ↔
      (Format.textLength value ≤ most →
        ¬(∃ earlier ∈ titles.take index, Title.Repeats earlier ⟨value.toText, title.kind⟩) ∧
          ((∃ earlier ∈ titles.take index, Title.BothMain earlier title) ∨
            isAboveShare (.int most) settings.lengthWarningRatio (Format.textLength value) = false)) := by
  have length : (Text.strip value.toText).length = Format.textLength value := textLength_toText hollow.present
  have filled : 0 < Format.textLength value := hollow.filled
  have required (isMain : Bool) :
      (mainRequired isMain).judge value (contextOf (titles.map Title.row)) = none := by
    rw [mainRequired, judge_plain, hollow.isBlank, Bool.and_false]
    rfl
  rw [titleByText_iff hollow.present, required, limit, judge_maxLength, hollow.orEmpty, Value.toText,
    evaluate_besideRules_text found, evaluate_besideRules_text found, limit]
  have keyless : ¬∃ earlier ∈ titles.take index, Title.Repeats earlier ⟨"", title.kind⟩ := by
    rintro ⟨earlier, -, filled, -⟩
    exact filled (show Title.key "" = "" by decide +kernel)
  have unrepeated : Outcome.errorIf (∃ earlier ∈ titles.take index, Title.Repeats earlier ⟨"", title.kind⟩)
      .duplicateTitle = none := errorIf_eq_none_iff.mpr keyless
  rw [unrepeated, Option.none_or, blamed_twice_iff (nearLimit_ne_error fun _ => Complaint.noConfusion)]
  by_cases within : (Format.textLength value : Int) ≤ most
  · have near := judge_nearLimit_empty_iff binary inRange "Title" value.toText
      (contextOf (titles.map Title.row)) (by omega) (by omega)
    rw [near, length, if_neg (by omega)]
    simp [within]
  · simp [within, Int.not_le.mp within]

end

/-- A value that is not hollow is judged by its text. -/
theorem byText_of_not_isHollow (present : value ≠ .null) (solid : ¬value.IsHollow) (settings : Settings)
    (index : Int) (kind : Value) (made : List TitleRow) (context : Value) :
    AbstractByText settings value context ∧ TitleByText index kind made settings value context := by
  rw [abstractByText_iff present, titleByText_iff present, Value.orEmpty_of_not_isHollow present solid]
  exact ⟨fun _ _ => rfl, fun _ _ => rfl⟩

/-- Settings that let an abstract have just as many characters as the text of a hollow value has tell it from
its text. -/
theorem exists_not_abstractByText (hollow : value.IsHollow) :
    ∃ settings : Settings, settings.checkRanges = .ok () ∧ ¬AbstractByText settings value .null := by
  have near : ∀ length ∈ [1, 2, 3, 4, 5], (Binary64.ofInt? (length : Nat)).isSome ∧
      isAboveShare (.int (length : Nat)) Settings.default.lengthWarningRatio length = true := by
    decide +kernel
  obtain ⟨binary, above⟩ := near _ hollow.length
  let settings := { abstractMaxLength := Format.textLength value : Limits }.settings
  have inRange : settings.checkRanges = .ok () := rfl
  refine ⟨settings, inRange, ?_⟩
  rw [abstractByText_iff_of_isHollow binary inRange hollow rfl .null]
  exact not_not_intro ⟨above, Int.le_refl _⟩

/-- A value is judged as its text is, except where the rules that take a hollow value for missing answer otherwise of
the empty text than of its own. All other values are judged by their text under all settings and beside all rows, and
every hollow one is not under some. With a limit that is a whole number and rows that hold texts, hollow values part
from their texts exactly when the text is near the limit, or repeats an earlier title. -/
theorem judgedByText_iff (present : value ≠ .null) :
    (∀ settings context, AbstractByText settings value context ↔
      (value.isBlank = false →
        (maxLength "Abstract" settings.abstractMaxLength).judge value context = none →
          (nearLimit "Abstract" settings.abstractMaxLength settings.lengthWarningRatio).judge
              (.text value.orEmpty.toText) context =
            (nearLimit "Abstract" settings.abstractMaxLength settings.lengthWarningRatio).judge
              (.text value.toText) context)) ∧
      (∀ index kind made settings context, TitleByText index kind made settings value context ↔
        ((mainRequired (Title.slugOf kind == TitleType.mainTitle.slug)).judge value context = none →
          (maxLength "Title" settings.titleMaxLength).judge value context = none →
            evaluate (besideRules index made settings) (.text value.orEmpty.toText) context =
              evaluate (besideRules index made settings) (.text value.toText) context)) ∧
      (¬value.IsHollow → ∀ settings index kind made context,
        AbstractByText settings value context ∧ TitleByText index kind made settings value context) ∧
      (value.IsHollow →
        (∃ settings : Settings, settings.checkRanges = .ok () ∧ ¬AbstractByText settings value .null) ∧
          ∀ (settings : Settings) (most : Int), (Binary64.ofInt? most).isSome → settings.checkRanges = .ok () →
            (settings.abstractMaxLength = .int most → ∀ context, AbstractByText settings value context ↔
              ¬(isAboveShare (.int most) settings.lengthWarningRatio (Format.textLength value) = true ∧
                Format.textLength value ≤ most)) ∧
              (settings.titleMaxLength = .int most → ∀ (titles : List Title) (index : Nat) (title : Title),
                titles[index]? = some title → ∀ kind made,
                  (TitleByText index kind made settings value (contextOf (titles.map Title.row)) ↔
                    (Format.textLength value ≤ most →
                      ¬(∃ earlier ∈ titles.take index, Title.Repeats earlier ⟨value.toText, title.kind⟩) ∧
                        ((∃ earlier ∈ titles.take index, Title.BothMain earlier title) ∨
                          isAboveShare (.int most) settings.lengthWarningRatio
                            (Format.textLength value) = false))))) := by
  refine ⟨abstractByText_iff present, titleByText_iff present, byText_of_not_isHollow present,
    fun hollow => ⟨exists_not_abstractByText hollow, fun settings most binary inRange => ⟨?_, ?_⟩⟩⟩
  · intro limit context
    exact abstractByText_iff_of_isHollow binary inRange hollow limit context
  · intro limit titles index title found kind made
    exact titleByText_iff_of_isHollow binary inRange hollow limit found kind made

/-- Beside a subtitle of the text False, a subtitle of that value is not found to repeat it. -/
theorem judgedByText_iff_no :
    Value.bool false ≠ .null ∧
      ¬TitleByText 1 (.text "subtitle") [] .default (.bool false)
        (contextOf ([⟨"FALSE", "subtitle"⟩, ⟨"Snow", "subtitle"⟩].map Title.row)) ∧
      AbstractByText .default (.bool false) .null ∧
      TitleByText 1 (.text "subtitle") [] .default (.bool true)
        (contextOf ([⟨"TRUE", "subtitle"⟩, ⟨"Snow", "subtitle"⟩].map Title.row)) := by
  have binary : (Binary64.ofInt? 325).isSome := by decide +kernel
  have binary' : (Binary64.ofInt? 17500).isSome := by decide +kernel
  obtain ⟨-, -, -, ofHollow⟩ := @judgedByText_iff (.bool false) Value.noConfusion
  obtain ⟨-, -, ofSolid, -⟩ := @judgedByText_iff (.bool true) Value.noConfusion
  obtain ⟨-, ofSettings⟩ := ofHollow .no
  have title := (ofSettings .default 325 binary rfl).2 rfl [⟨"FALSE", "subtitle"⟩, ⟨"Snow", "subtitle"⟩] 1 _ rfl
    (.text "subtitle") []
  have abstract := (ofSettings .default 17500 binary' rfl).1 rfl .null
  refine ⟨Value.noConfusion, ?_, ?_, ?_⟩
  · intro byText
    refine (title.mp byText (by decide +kernel)).1 ⟨⟨"FALSE", "subtitle"⟩, List.mem_cons_self, ?_⟩
    decide +kernel
  · refine abstract.mpr ?_
    rintro ⟨above, -⟩
    have below : isAboveShare (.int 17500) Settings.default.lengthWarningRatio
        (Format.textLength (.bool false)) = false := by decide +kernel
    exact Bool.false_ne_true (below.symm.trans above)
  · have solid : ¬(Value.bool true).IsHollow := fun hollow => nomatch hollow
    exact (ofSolid solid .default 1 (.text "subtitle") [] _).2

/-- Zero is not found to repeat the title 0, and a text of one character is near a limit of one, but zero is not. -/
theorem judgedByText_zero :
    let rows := [⟨.text "0", .text "subtitle"⟩, ⟨.text "x", .text "subtitle"⟩]
    let settings := { abstractMaxLength := 1 : Limits }.settings
    (Value.int 0).toText = "0" ∧
      evaluate (titleRules 1 (.text "subtitle") rows .default) (.int 0) .null = none ∧
      evaluate (titleRules 1 (.text "subtitle") rows .default) (.text "0") .null =
        some (.error .duplicateTitle) ∧
      evaluate (abstractRules settings) (.int 0) .null = none ∧
      evaluate (abstractRules settings) (.text "0") .null =
        some (.warning (.nearLimit "Abstract" 1 (.int 1))) :=
  ⟨rfl, rfl, rfl, rfl, rfl⟩

end Rule

end DatasetForm
