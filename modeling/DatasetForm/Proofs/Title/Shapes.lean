import DatasetForm.Proofs.Title.Slug
import DatasetForm.Title.Row

/-!
The shapes in which a title row is handed in: mappings, with the type under any of three keys, and pairs. All of them
give the same row exactly when the text of the type has an ASCII letter or digit (`shapes_agree_iff`). Without one it
has no slug, and then only mappings make a main title of the row.
-/

set_option autoImplicit false
set_option relaxedAutoImplicit false

namespace DatasetForm

namespace Title

open Text (isAlnum joinRuns)

/-- Words of small letters and digits, at least one, with hyphens between them. -/
def IsSlug (text : String) : Prop :=
  ∃ words, words ≠ [] ∧ (∀ word ∈ words, IsSlugWord word) ∧ text = String.ofList (joinRuns '-' words)

/-- A type has no slug exactly when there is no letter or digit in it. -/
theorem slug_eq_empty_iff (text : String) : slug text = "" ↔ ∀ c ∈ text.toList, isAlnum c = false := by
  have filled : ∀ word ∈ slugWords text.toList, word ≠ [] := fun word member => (Text.isRun_of_mem_runs member).filled
  have empty : slug text = "" ↔ slugWords text.toList = [] := by
    rw [slug, String.ofList_eq_empty_iff, slugChars, List.map_eq_nil_iff, Text.joinRuns_eq_nil_iff filled]
  rw [empty, slugWords, Text.runs_eq_nil_iff]
  constructor
  · intro separated c member
    simpa [separatesWords] using separated c (Text.subset_breakCamel '-' _ member)
  · intro none c member
    rcases Text.mem_breakCamel member with rfl | inside
    · rfl
    · rw [separatesWords, none c inside, Bool.not_false]

theorem IsSlug.ne_empty {text : String} (isSlug : IsSlug text) : text ≠ "" := by
  obtain ⟨words, some, each, rfl⟩ := isSlug
  rw [Ne, String.ofList_eq_empty_iff, Text.joinRuns_eq_nil_iff fun word member => (each word member).filled]
  exact some

theorem isSlug_slug_iff (text : String) : IsSlug (slug text) ↔ ∃ c ∈ text.toList, isAlnum c = true := by
  have filled : slug text ≠ "" ↔ ∃ c ∈ text.toList, isAlnum c = true := by
    rw [Ne, slug_eq_empty_iff]
    simp
  rw [← filled]
  constructor
  · exact IsSlug.ne_empty
  · intro some
    obtain ⟨words, each, joined⟩ := exists_words_slugChars text.toList
    refine ⟨words, ?_, each, congrArg String.ofList joined⟩
    rintro rfl
    rw [slug, joined] at some
    exact some rfl

end Title

namespace TitleRow

open Title (IsSlug slug slugOf)
open Text (isAlnum)

/-- The keys under which a mapping may have the type of a title. -/
def kindKeys : List String :=
  ["titleType", "title_type", "type"]

/-- The value is a mapping with this title and this type, in one order or the other. -/
inductive IsMappingOf (title kind : String) : Value → Prop
  | titleFirst {key : String} (known : key ∈ kindKeys) :
      IsMappingOf title kind (.mapping [(.text "title", .text title), (.text key, .text kind)])
  | kindFirst {key : String} (known : key ∈ kindKeys) :
      IsMappingOf title kind (.mapping [(.text key, .text kind), (.text "title", .text title)])

/-- The value is a pair of this title and this type. -/
inductive IsPairOf (title kind : String) : Value → Prop
  | tuple : IsPairOf title kind (.tuple [.text title, .text kind])
  | list : IsPairOf title kind (.list [.text title, .text kind])

/-- The type of a main title where there is no other. -/
def slugOrMain (kind : String) : String :=
  if slug kind = "" then TitleType.mainTitle.slug else slug kind

theorem isSlug_slugOrMain (kind : String) : IsSlug (slugOrMain kind) := by
  have mainSlug : slug TitleType.mainTitle.slug = TitleType.mainTitle.slug := by decide +kernel
  rw [slugOrMain]
  split
  · rw [← mainSlug, Title.isSlug_slug_iff]
    exact ⟨'m', by decide, rfl⟩
  next some =>
    rw [Title.isSlug_slug_iff]
    simpa [Title.slug_eq_empty_iff] using some

variable {title kind : String} {v : Value}

private theorem snakeCase_kindKeys : ∀ key ∈ kindKeys,
    Value.snakeCase key = "title_type" ∨ Value.snakeCase key = "type" := by
  decide +kernel

theorem IsMappingOf.ofValue (mapping : IsMappingOf title kind v) :
    TitleRow.ofValue v = .ok ⟨.text title, .text (slugOrMain kind)⟩ := by
  have titleKey : Value.snakeCase "title" = "title" := by decide +kernel
  cases mapping with
  | titleFirst known =>
    rcases snakeCase_kindKeys _ known with key | key <;>
      simp [TitleRow.ofValue, Value.snakeFields?, Value.snakeEntries, Value.snakeKeys, Value.toText, titleKey, key,
        Entries.ofList, Entries.insert, ofFields, Entries.field?, Entries.get?, Value.same, slugOf, slugOrMain]
  | kindFirst known =>
    rcases snakeCase_kindKeys _ known with key | key <;>
      simp [TitleRow.ofValue, Value.snakeFields?, Value.snakeEntries, Value.snakeKeys, Value.toText, titleKey, key,
        Entries.ofList, Entries.insert, ofFields, Entries.field?, Entries.get?, Value.same, slugOf, slugOrMain]

theorem IsPairOf.ofValue (pair : IsPairOf title kind v) :
    TitleRow.ofValue v = .ok ⟨.text title, .text (slug kind)⟩ := by
  have row : ofPair (.text title) (.text kind) = ⟨.text title, .text (slug kind)⟩ := by
    rw [ofPair, Value.orEmpty_text]
    rfl
  cases pair with
  | tuple => exact congrArg Except.ok row
  | list => exact congrArg Except.ok row

/-- Mappings give a row with a slug for its type, whatever the type is. Pairs give the same row exactly when there is
a letter or digit in the type, and only then a slug. A row that was made once stays as it is. -/
theorem shapes_agree_iff (title kind : String) :
    (IsSlug (slugOrMain kind) ∧
        ∀ v, IsMappingOf title kind v → ofValue v = .ok ⟨.text title, .text (slugOrMain kind)⟩) ∧
      (∀ v, IsPairOf title kind v → ofValue v = .ok ⟨.text title, .text (slug kind)⟩) ∧
      (IsSlug (slug kind) ↔ ∃ c ∈ kind.toList, isAlnum c = true) ∧
      ((∃ row, ∀ v, IsMappingOf title kind v ∨ IsPairOf title kind v → ofValue v = .ok row) ↔
        ∃ c ∈ kind.toList, isAlnum c = true) ∧
      ∀ v row, ofValue v = .ok row → ofValue row.toValue = .ok row := by
  have slugged := Title.isSlug_slug_iff kind
  have mapping := isSlug_slugOrMain kind
  refine ⟨⟨mapping, fun v mapping => mapping.ofValue⟩, fun v pair => pair.ofValue, slugged, ?_, fun _ _ _ => rfl⟩
  rw [← slugged]
  constructor
  · rintro ⟨row, agree⟩
    have mapped := agree _ (.inl (.titleFirst List.mem_cons_self))
    have paired := agree _ (.inr .tuple)
    rw [← paired, IsMappingOf.ofValue (.titleFirst List.mem_cons_self), IsPairOf.ofValue .tuple] at mapped
    have same : slugOrMain kind = slug kind := Value.text.inj (congrArg TitleRow.kind (Except.ok.inj mapped))
    exact same ▸ mapping
  · intro isSlug
    refine ⟨⟨.text title, .text (slug kind)⟩, ?_⟩
    rintro v (mapping | pair)
    · rw [mapping.ofValue, slugOrMain, if_neg isSlug.ne_empty]
    · exact pair.ofValue

/-- Rows of a main title in its old spelling. -/
theorem shapes_agree_iff_oldMain :
    ∃ row, ∀ v, IsMappingOf "Ice" "MainTitle" v ∨ IsPairOf "Ice" "MainTitle" v → ofValue v = .ok row := by
  obtain ⟨-, -, -, agree, -⟩ := shapes_agree_iff "Ice" "MainTitle"
  exact agree.mpr ⟨'M', by decide, rfl⟩

/-- With a blank type, a mapping is a main title and a pair has no type. -/
theorem shapes_blankType :
    ofValue (.mapping [(.text "title", .text "Ice"), (.text "titleType", .text "")]) =
        .ok ⟨.text "Ice", .text "main-title"⟩ ∧
      ofValue (.tuple [.text "Ice", .text ""]) = .ok ⟨.text "Ice", .text ""⟩ ∧ ¬IsSlug "" ∧
      ¬∃ row, ∀ v, IsMappingOf "Ice" "" v ∨ IsPairOf "Ice" "" v → ofValue v = .ok row := by
  have blank : slug "" = "" := by decide +kernel
  have mapped : ofValue (.mapping [(.text "title", .text "Ice"), (.text "titleType", .text "")]) =
      .ok ⟨.text "Ice", .text "main-title"⟩ := by
    rw [IsMappingOf.ofValue (.titleFirst List.mem_cons_self), slugOrMain, if_pos blank]
    rfl
  have paired : ofValue (.tuple [.text "Ice", .text ""]) = .ok ⟨.text "Ice", .text ""⟩ := by
    rw [IsPairOf.ofValue .tuple, blank]
  refine ⟨mapped, paired, fun isSlug => isSlug.ne_empty rfl, ?_⟩
  rintro ⟨row, agree⟩
  have first := agree _ (.inl (.titleFirst List.mem_cons_self))
  have second := agree _ (.inr .tuple)
  rw [← second, mapped, paired] at first
  have same : "main-title" = "" := Value.text.inj (congrArg TitleRow.kind (Except.ok.inj first))
  exact absurd same (by decide)

end TitleRow

end DatasetForm
