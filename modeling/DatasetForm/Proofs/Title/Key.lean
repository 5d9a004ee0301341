import DatasetForm.Proofs.Text.Folding
import DatasetForm.Proofs.Text.Runs
import DatasetForm.Title.Key

/-!
Keys of titles. The key of a key is only its normal form without regard to case (`keyChars_keyChars`): a key may still
hold letters and marks that folding parted and that the normal form puts together again. After a second time nothing is
left to put together, and the key of the second key is that key.
-/

set_option autoImplicit false
set_option relaxedAutoImplicit false

namespace DatasetForm

namespace Title

open Text

variable {cs : List Char} {runs_ : List (List Char)}

/-- The normal form of a text without regard to case. -/
private def folded (cs : List Char) : List Char :=
  fold (normalKC cs)

private theorem folded_joinRuns (runs_ : List (List Char)) :
    folded (joinRuns ' ' runs_) = joinRuns ' ' (runs_.map folded) := by
  induction runs_ with
  | nil => rfl
  | cons run others ih =>
    cases others with
    | nil => rfl
    | cons next others =>
      rw [joinRuns_cons_cons, folded, normalKC_append_space, fold_append, fold, fold, List.flatMap_cons, ← fold,
        ← fold, ← folded, ← folded, ih]
      rfl

private theorem forall_isBlank_folded_iff :
    (∀ c ∈ folded cs, isBlank c = true) ↔ ∀ c ∈ cs, isBlank c = true :=
  forall_isBlank_fold_iff.trans forall_isBlank_normalKC_iff

/-- A word stays one word. -/
private theorem isRun_folded {run : List Char} (isRun : IsRun isBlank run) (only : ∀ c ∈ run, IsCanonicalOnly c) :
    IsRun isBlank (folded run) := by
  constructor
  · intro nothing
    have blank : ∀ c ∈ run, isBlank c = true := by
      rw [← forall_isBlank_folded_iff, nothing]
      exact List.forall_mem_nil _
    obtain ⟨c, member⟩ := List.exists_mem_of_ne_nil run isRun.filled
    have visible := isRun.whole c member
    rw [blank c member] at visible
    cases visible
  · intro c member
    obtain ⟨d, inside, member⟩ := List.mem_flatMap.mp member
    rw [isBlank_of_mem_foldChar member]
    exact isBlank_of_mem_normalKC only isRun.whole d inside

/-- The key of a text whose words are parted by single spaces. -/
private theorem keyChars_joinRuns (isRun : ∀ run ∈ runs_, IsRun isBlank run)
    (only : ∀ run ∈ runs_, ∀ c ∈ run, IsCanonicalOnly c) :
    keyChars (joinRuns ' ' runs_) = folded (joinRuns ' ' runs_) := by
  have isRun' : ∀ run ∈ runs_.map folded, IsRun isBlank run :=
    List.forall_mem_map.mpr fun run member => isRun_folded (isRun run member) (only run member)
  rw [keyChars, ← folded, folded_joinRuns, words, runs_joinRuns rfl isRun']

/-! ## Keys of keys -/

theorem forall_mem_keyChars {P : Char → Prop} (space : P ' ') (all : ∀ c ∈ fold (normalKC cs), P c) :
    ∀ c ∈ keyChars cs, P c := by
  intro c member
  rcases mem_joinRuns member with rfl | ⟨run, found, inside⟩
  · exact space
  · exact all c (subset_of_mem_runs found inside)

theorem isFolded_of_mem_keyChars : ∀ c ∈ keyChars cs, IsFolded c :=
  forall_mem_keyChars (isFolded_of_mem_foldChar (c := ' ') List.mem_cons_self) fun _ => isFolded_of_mem_fold

theorem isCanonicalOnly_of_mem_keyChars : ∀ c ∈ keyChars cs, IsCanonicalOnly c :=
  forall_mem_keyChars rfl fun _ => isCanonicalOnly_of_mem_fold_normalKC

/-- The key of a key is its normal form without regard to case. -/
theorem keyChars_keyChars (cs : List Char) : keyChars (keyChars cs) = fold (normalKC (keyChars cs)) :=
  keyChars_joinRuns (fun _ => isRun_of_mem_runs) fun _ found _ inside =>
    isCanonicalOnly_of_mem_fold_normalKC (subset_of_mem_runs found inside)

/-- A key and its key have one normal form. -/
theorem normalKC_keyChars_keyChars (cs : List Char) : normalKC (keyChars (keyChars cs)) = normalKC (keyChars cs) := by
  rw [keyChars_keyChars]
  exact normalKC_fold_normalKC isCanonicalOnly_of_mem_keyChars isFolded_of_mem_keyChars

/-- The key of the key of a key is the key of that key. -/
theorem keyChars_keyChars_keyChars (cs : List Char) :
    keyChars (keyChars (keyChars cs)) = keyChars (keyChars cs) := by
  rw [keyChars_keyChars (keyChars cs), normalKC_keyChars_keyChars, ← keyChars_keyChars]

theorem keyChars_eq_nil_iff : keyChars cs = [] ↔ ∀ c ∈ cs, isBlank c = true := by
  rw [keyChars, words, joinRuns_eq_nil_iff fun _ member => (isRun_of_mem_runs member).filled, runs_eq_nil_iff]
  exact forall_isBlank_folded_iff

theorem toList_key (title : String) : (key title).toList = keyChars title.toList := by
  rw [key, String.toList_ofList]

/-- Keys have one normal form exactly when their keys are equal. -/
theorem normalKC_key_eq_iff {title other : String} :
    normalKC (key title).toList = normalKC (key other).toList ↔ key (key title) = key (key other) := by
  rw [← String.toList_inj]
  simp only [toList_key]
  refine ⟨fun same => by rw [keyChars_keyChars, same, ← keyChars_keyChars], fun same => ?_⟩
  rw [← normalKC_keyChars_keyChars, same, normalKC_keyChars_keyChars]

/-- A key is empty exactly for a blank title. It is its own key exactly when its normal form without regard to case is
that key, in particular when it is in normal form. The key of a key always is its own key, and it tells keys apart
exactly as their normal forms do. -/
theorem key_canonical (title : String) :
    (key title = "" ↔ ∀ c ∈ title.toList, isBlank c = true) ∧
      (key (key title) = key title ↔ fold (normalKC (key title).toList) = (key title).toList) ∧
      (normalKC (key title).toList = (key title).toList → key (key title) = key title) ∧
      key (key (key title)) = key (key title) ∧
      ∀ other, key (key title) = key (key other) ↔
        normalKC (key title).toList = normalKC (key other).toList := by
  have empty : key title = "" ↔ ∀ c ∈ title.toList, isBlank c = true := by
    rw [key, String.ofList_eq_empty_iff, keyChars_eq_nil_iff]
  refine ⟨empty, ?_, fun normal => ?_, ?_, fun other => normalKC_key_eq_iff.symm⟩
  · rw [← String.toList_inj, toList_key, toList_key, keyChars_keyChars]
  · rw [← String.toList_inj, toList_key, toList_key, keyChars_keyChars, ← toList_key, normal, toList_key,
      fold_eq_self isFolded_of_mem_keyChars]
  · rw [← String.toList_inj]
    simp only [toList_key, keyChars_keyChars_keyChars]

/-- Upsilon with dialytika and an acute: the key of the capital is the small letter with dialytika and the acute, and
the key of that, which is one letter in normal form, has all three apart. -/
theorem key_canonical_dialytika :
    key "\u03AB\u0301" = "\u03CB\u0301" ∧ key "\u03CB\u0301" = "\u03C5\u0308\u0301" ∧
      ¬∀ title, key (key title) = key title := by
  have capital : key "\u03AB\u0301" = "\u03CB\u0301" := by
    decide +kernel
  have small : key "\u03CB\u0301" = "\u03C5\u0308\u0301" := by
    decide +kernel
  refine ⟨capital, small, fun canonical => ?_⟩
  have same := canonical "\u03AB\u0301"
  rw [capital, small] at same
  exact absurd same (by decide)

end Title

end DatasetForm
