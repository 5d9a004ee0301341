import DatasetForm.Proofs.Rule.TitleOutcome
import DatasetForm.Proofs.Title.Slug

/-!
What the spelling of types does to the outcomes of title rows. The rule for blank main titles reads a type by its
slug; the rules that compare rows read it as it is spelled. The outcomes are those of rows with slugs for types
exactly when no row escapes blame by its spelling.
-/

set_option autoImplicit false
set_option relaxedAutoImplicit false

namespace DatasetForm

namespace Title

/-- The title with the slug of its type. -/
def slugged (title : Title) : Title :=
  { title with kind := slug title.kind }

/-- What a title is blamed for beside earlier ones if all types are slugs, it is blamed for as they are spelled.
A title that repeats another is blamed for that alone. -/
structure IsBlamedAsSpelled (earlier : List Title) (title : Title) : Prop where
  repeats : (∃ other ∈ earlier, Repeats other.slugged title.slugged) → ∃ other ∈ earlier, Repeats other title
  mains : (∃ other ∈ earlier, BothMain other.slugged title.slugged) →
    (∃ other ∈ earlier, Repeats other.slugged title.slugged) ∨ ∃ other ∈ earlier, BothMain other title

instance (earlier : List Title) (title : Title) : Decidable (IsBlamedAsSpelled earlier title) :=
  decidable_of_iff (_ ∧ _) ⟨fun blamed => ⟨blamed.1, blamed.2⟩, fun blamed => ⟨blamed.repeats, blamed.mains⟩⟩

theorem IsMain.slugged {title : Title} (main : title.IsMain) : title.slugged.IsMain := by
  have mainSlug : slug TitleType.mainTitle.slug = TitleType.mainTitle.slug := by decide +kernel
  exact (congrArg slug main).trans mainSlug

theorem Repeats.slugged {earlier title : Title} (repeated : Repeats earlier title) :
    Repeats earlier.slugged title.slugged :=
  ⟨repeated.1, repeated.2.1, congrArg slug repeated.2.2⟩

theorem BothMain.slugged {earlier title : Title} (both : BothMain earlier title) :
    BothMain earlier.slugged title.slugged :=
  ⟨both.1.slugged, both.2.slugged⟩

end Title

namespace Rule

/-- Neither the rule for blank main titles nor the limit on the length finds anything in the title. -/
structure PassesAlone (settings : Settings) (title : Title) : Prop where
  filled : ¬(Title.slug title.kind = TitleType.mainTitle.slug ∧ Text.strip title.text = "")
  short : (maxLength "Title" settings.titleMaxLength).judge (.text title.text) .null = none

/-- With more to blame a row for, its outcome stays when it is blamed for nothing more that comes to show. -/
private theorem blame_eq_iff {repeats repeats' mains mains' : Prop} [Decidable repeats] [Decidable repeats']
    [Decidable mains] [Decidable mains'] {near : Option Outcome} (more : repeats → repeats')
    (moreMains : mains → mains') (notRepeated : near ≠ some (.error .duplicateTitle))
    (notExtra : near ≠ some (.error .extraMainTitle)) :
    (Outcome.errorIf repeats' .duplicateTitle).or ((Outcome.errorIf mains' .extraMainTitle).or near) =
        (Outcome.errorIf repeats .duplicateTitle).or ((Outcome.errorIf mains .extraMainTitle).or near) ↔
      (repeats' → repeats) ∧ (mains' → repeats' ∨ mains) := by
  have apart : Outcome.error .duplicateTitle ≠ .error .extraMainTitle := by
    intro same
    cases same
  by_cases again : repeats
  · simp [Outcome.errorIf, again, more again]
  · by_cases again' : repeats'
    · by_cases main : mains
      · simp [Outcome.errorIf, again, again', main, apart]
      · simp [Outcome.errorIf, again, again', main, notRepeated.symm]
    · by_cases main : mains
      · simp [Outcome.errorIf, again, again', main, moreMains main]
      · by_cases main' : mains' <;> simp [Outcome.errorIf, again, again', main, main', notExtra.symm]

/-- Judged by the slugs of their types, rows have the outcomes that they have as their types are spelled exactly
when each row that passes by itself is blamed as it is spelled. -/
theorem revalidate_slugged_iff (settings : Settings) (titles : List Title) :
    revalidate settings ((titles.map Title.slugged).map Title.row) =
        revalidate settings (titles.map Title.row) ↔
      ∀ index title, titles[index]? = some title → PassesAlone settings title →
        Title.IsBlamedAsSpelled (titles.take index) title := by
  rw [List.ext_getElem?_iff]
  refine forall_congr' fun index => ?_
  rw [revalidate_rows, revalidate_rows, List.getElem?_mapIdx, List.getElem?_mapIdx, List.getElem?_map]
  cases found : titles[index]? with
  | none => simp
  | some title =>
    have found' : (titles.map Title.slugged)[index]? = some title.slugged := by
      rw [List.getElem?_map, found, Option.map_some]
    have kind : Title.slug title.slugged.kind = Title.slug title.kind := Title.slug_slug title.kind
    have text : title.slugged.text = title.text := rfl
    have earlier (related : Title → Title → Prop) :
        (∃ other ∈ (titles.map Title.slugged).take index, related other title.slugged) ↔
          ∃ other ∈ titles.take index, related other.slugged title.slugged := by
      rw [← List.map_take]
      simp only [List.mem_map, exists_exists_and_eq_and]
    simp only [Option.map_some, Option.some.injEq, forall_eq']
    rw [evaluate_titleRules_eq found', evaluate_titleRules_eq found, kind, text, or_eq_or_iff, or_eq_or_iff,
      blame_eq_iff]
    · rw [earlier, earlier]
      constructor
      · intro blamed passes
        obtain ⟨repeats, mains⟩ := blamed (errorIf_eq_none_iff.mpr passes.filled) passes.short
        exact ⟨repeats, mains⟩
      · intro blamed filled short
        have spelled := blamed ⟨errorIf_eq_none_iff.mp filled, short⟩
        exact ⟨spelled.repeats, spelled.mains⟩
    · rw [earlier]
      rintro ⟨other, member, repeated⟩
      exact ⟨other, member, repeated.slugged⟩
    · rw [earlier]
      rintro ⟨other, member, both⟩
      exact ⟨other, member, both.slugged⟩
    · exact nearLimit_ne_error fun _ => Complaint.noConfusion
    · exact nearLimit_ne_error fun _ => Complaint.noConfusion

/-- Titles whose types are all spelled the same old way. -/
private def oldTitles : List Title :=
  [⟨"Ice cores", "MainTitle"⟩, ⟨"Snow depth", "AlternativeTitle"⟩, ⟨"SNOW depth", "AlternativeTitle"⟩]

theorem revalidate_oldTitles :
    revalidate .default ((oldTitles.map Title.slugged).map Title.row) =
      revalidate .default (oldTitles.map Title.row) := by
  refine (revalidate_slugged_iff .default oldTitles).mpr fun index title found _ => ?_
  match index with
  | 0 | 1 | 2 =>
    cases found
    decide +kernel

/-- Two main titles whose types are spelled the old way. -/
private def oldMains : List Title :=
  [⟨"Ice cores", "MainTitle"⟩, ⟨"Snow depth", "MainTitle"⟩]

/-- Of two main titles the second is blamed only when their types are slugs. -/
theorem revalidate_oldMains :
    revalidate .default (oldMains.map Title.row) = [none, none] ∧
      revalidate .default ((oldMains.map Title.slugged).map Title.row) =
        [none, some (.error .extraMainTitle)] ∧
      revalidate .default ((oldMains.map Title.slugged).map Title.row) ≠
        revalidate .default (oldMains.map Title.row) := by
  have spelled : revalidate .default (oldMains.map Title.row) = [none, none] := rfl
  have slugs : revalidate .default ((oldMains.map Title.slugged).map Title.row) =
      [none, some (.error .extraMainTitle)] := rfl
  refine ⟨spelled, slugs, ?_⟩
  rw [spelled, slugs]
  simp

end Rule

end DatasetForm
