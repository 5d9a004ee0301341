import DatasetForm.Proofs.Text.Runs
import Mathlib.Data.List.DropRight

/-!
Gaps between runs. A text splits into its runs in one way only (`splitsInto_iff`). To write one mark for each gap and to
leave the marks at the ends out is to write the runs with a mark between neighbours (`stripped_collapse`).
-/

set_option autoImplicit false
set_option relaxedAutoImplicit false

namespace DatasetForm.Text

variable {separates : Char → Bool} {mark c : Char} {cs gap run rest : List Char} {runs_ : List (List Char)}

/-- The text is a gap; or it is a gap, a run that does not go on behind its end, and a text that splits into further
runs. A gap holds separators only and may be empty. -/
inductive SplitsInto (separates : Char → Bool) : (text : List Char) → (runs_ : List (List Char)) → Prop
  | gap {gap : List Char} (separated : ∀ c ∈ gap, separates c = true) : SplitsInto separates gap []
  | run {gap run rest : List Char} {runs_ : List (List Char)} (separated : ∀ c ∈ gap, separates c = true)
      (isRun : IsRun separates run) (ended : ∀ c ∈ rest.head?, separates c = true)
      (others : SplitsInto separates rest runs_) : SplitsInto separates (gap ++ (run ++ rest)) (run :: runs_)

/-! ## The runs of a text -/

theorem IsRun.runs_append (isRun : IsRun separates run) (ended : ∀ c ∈ rest.head?, separates c = true) :
    runs separates (run ++ rest) = run :: runs separates rest := by
  cases rest with
  | nil =>
    have nothing : runs separates [] = [] := rfl
    rw [List.append_nil, isRun.runs_eq, nothing]
  | cons c rest =>
    have separated : separates c = true := ended c rfl
    rw [runs_append_separator isRun separated, runs_cons_separator separated]

private theorem SplitsInto.runs_eq (split : SplitsInto separates cs runs_) : runs_ = runs separates cs := by
  induction split with
  | gap separated => exact (runs_eq_nil_iff.mpr separated).symm
  | run separated isRun ended _ ih => rw [runs_gap_append separated, isRun.runs_append ended, ← ih]

private theorem SplitsInto.cons (separated : separates c = true) (split : SplitsInto separates cs runs_) :
    SplitsInto separates (c :: cs) runs_ := by
  cases split with
  | gap others => exact .gap (List.forall_mem_cons.mpr ⟨separated, others⟩)
  | run others isRun ended split => exact .run (List.forall_mem_cons.mpr ⟨separated, others⟩) isRun ended split

/-- A run that has begun, and what follows it. -/
private theorem SplitsInto.consRun (whole : ∀ c ∈ run, separates c = false)
    (ended : ∀ c ∈ rest.head?, separates c = true) (split : SplitsInto separates rest runs_) :
    SplitsInto separates (run ++ rest) (Text.consRun run runs_) := by
  rw [Text.consRun]
  split
  next empty => rwa [List.isEmpty_iff.mp empty]
  next filled =>
    have isRun : IsRun separates run := ⟨mt List.isEmpty_iff.mpr filled, whole⟩
    exact @SplitsInto.run separates [] run rest runs_ (List.forall_mem_nil _) isRun ended split

private theorem exists_leadingRun (separates : Char → Bool) (cs : List Char) :
    ∃ rest, cs = (leadingRun separates cs).1 ++ rest ∧ (∀ c ∈ rest.head?, separates c = true) ∧
      SplitsInto separates rest (leadingRun separates cs).2 := by
  induction cs with
  | nil => exact ⟨[], rfl, nofun, .gap fun _ none => nomatch none⟩
  | cons c cs ih =>
    obtain ⟨rest, parted, ended, split⟩ := ih
    cases kind : separates c with
    | true =>
      have all : SplitsInto separates cs (runs separates cs) := by
        have begun := SplitsInto.consRun (leadingRun_whole cs).1 ended split
        rwa [← parted] at begun
      rw [leadingRun_separator kind]
      refine ⟨c :: cs, rfl, ?_, all.cons kind⟩
      rintro d ⟨⟩
      exact kind
    | false =>
      rw [← List.singleton_append, leadingRun_append (by simp [kind])]
      exact ⟨rest, by rw [List.append_assoc, ← parted], ended, split⟩

theorem splitsInto_runs (cs : List Char) : SplitsInto separates cs (runs separates cs) := by
  obtain ⟨rest, parted, ended, split⟩ := exists_leadingRun separates cs
  have all := SplitsInto.consRun (leadingRun_whole cs).1 ended split
  rwa [← parted] at all

/-- A text splits into its runs and into nothing else. -/
theorem splitsInto_iff : SplitsInto separates cs runs_ ↔ runs_ = runs separates cs := by
  refine ⟨SplitsInto.runs_eq, ?_⟩
  rintro rfl
  exact splitsInto_runs cs

theorem runs_map {f : Char → Char} (kept : ∀ c, separates (f c) = separates c) (cs : List Char) :
    runs separates (cs.map f) = (runs separates cs).map (List.map f) := by
  have split : SplitsInto separates cs (runs separates cs) := splitsInto_runs cs
  generalize runs separates cs = runs_ at split
  symm
  rw [← splitsInto_iff]
  induction split with
  | gap separated => exact .gap (by simpa [kept] using separated)
  | run separated isRun ended _ ih =>
    rw [List.map_append, List.map_append, List.map_cons]
    refine .run (by simpa [kept] using separated) ⟨by simpa using isRun.filled, ?_⟩ ?_ ih
    · simpa [kept] using isRun.whole
    · simpa [kept] using ended

/-! ## Gaps written as marks -/

/-- The text with one mark for every gap. -/
def collapse (separates : Char → Bool) (mark : Char) : List Char → List Char
  | [] => []
  | c :: cs =>
    if separates c then
      if cs.head?.any separates then collapse separates mark cs else mark :: collapse separates mark cs
    else c :: collapse separates mark cs

/-- The text without the separators at its ends. -/
def stripped (separates : Char → Bool) (cs : List Char) : List Char :=
  (cs.dropWhile separates).rdropWhile separates

theorem collapse_append (whole : ∀ c ∈ run, separates c = false) (cs : List Char) :
    collapse separates mark (run ++ cs) = run ++ collapse separates mark cs := by
  induction run with
  | nil => rfl
  | cons c run ih =>
    rw [List.forall_mem_cons] at whole
    rw [List.cons_append, collapse, whole.1, if_neg Bool.false_ne_true, ih whole.2, List.cons_append]

/-- A gap before something else is one mark. -/
theorem collapse_gap_append (filled : gap ≠ []) (separated : ∀ c ∈ gap, separates c = true)
    (ended : cs.head?.any separates = false) :
    collapse separates mark (gap ++ cs) = mark :: collapse separates mark cs := by
  induction gap with
  | nil => exact absurd rfl filled
  | cons c gap ih =>
    rw [List.forall_mem_cons] at separated
    rw [List.cons_append, collapse, separated.1, if_pos rfl]
    cases gap with
    | nil => rw [List.nil_append, ended, if_neg Bool.false_ne_true]
    | cons d gap =>
      have next : (d :: gap ++ cs).head?.any separates = true := separated.2 d List.mem_cons_self
      rw [next, if_pos rfl, ih (List.cons_ne_nil d gap) separated.2]

theorem joinRuns_cons (mark : Char) (run : List Char) (others : List (List Char)) :
    joinRuns mark (run :: others) = run ++ others.flatMap (mark :: ·) := by
  induction others generalizing run with
  | nil => rw [List.flatMap_nil, List.append_nil, joinRuns]
  | cons next others ih => rw [joinRuns_cons_cons, ih, List.flatMap_cons, List.cons_append]

private theorem IsRun.head?_append (isRun : IsRun separates run) (rest : List Char) :
    (run ++ rest).head?.any separates = false := by
  obtain ⟨c, others, rfl⟩ := List.exists_cons_of_ne_nil isRun.filled
  exact isRun.whole c List.mem_cons_self

private theorem rdropWhile_append (before after : List Char) :
    (before ++ after).rdropWhile separates =
      if after.rdropWhile separates = [] then before.rdropWhile separates
      else before ++ after.rdropWhile separates := by
  rw [List.rdropWhile, List.rdropWhile, List.rdropWhile, List.reverse_append, List.dropWhile_append]
  simp only [List.isEmpty_iff, List.reverse_eq_nil_iff]
  split
  · rfl
  · rw [List.reverse_append, List.reverse_reverse]

/-- Where a run ends, no separator is left out. -/
private theorem IsRun.rdropWhile_append (isRun : IsRun separates run) (before after : List Char) :
    (before ++ run ++ after).rdropWhile separates = before ++ run ++ after.rdropWhile separates := by
  rw [Text.rdropWhile_append]
  split
  next nothing =>
    rw [nothing, List.append_nil, List.rdropWhile_eq_self_iff]
    intro filled
    rw [List.getLast_append_of_ne_nil _ isRun.filled, isRun.whole _ (List.getLast_mem isRun.filled)]
    exact Bool.false_ne_true
  · rfl

section Marked

variable (marked : separates mark = true)
include marked

/-- A gap before a run is left out together with what it is written as. -/
private theorem dropWhile_collapse_gap (separated : ∀ c ∈ gap, separates c = true)
    (ended : cs.head?.any separates = false) :
    (collapse separates mark (gap ++ cs)).dropWhile separates = collapse separates mark cs := by
  have begun : (collapse separates mark cs).dropWhile separates = collapse separates mark cs := by
    cases cs with
    | nil => rfl
    | cons c cs =>
      have outside : separates c = false := ended
      rw [collapse, outside, if_neg Bool.false_ne_true, List.dropWhile_cons, outside, if_neg Bool.false_ne_true]
  cases gap with
  | nil => exact begun
  | cons c gap =>
    rw [collapse_gap_append (List.cons_ne_nil c gap) separated ended, List.dropWhile_cons, marked, if_pos rfl, begun]

/-- What follows a run: each further run with a mark before it. -/
private theorem SplitsInto.rdropWhile_collapse (split : SplitsInto separates rest runs_)
    (ended : ∀ c ∈ rest.head?, separates c = true) :
    (collapse separates mark rest).rdropWhile separates = runs_.flatMap (mark :: ·) := by
  induction split with
  | @gap gap separated =>
    cases gap with
    | nil => rfl
    | cons c gap =>
      have single : collapse separates mark (c :: gap ++ []) = mark :: collapse separates mark [] :=
        collapse_gap_append (List.cons_ne_nil c gap) separated rfl
      rw [List.append_nil] at single
      rw [single, collapse, List.rdropWhile_singleton, if_pos marked, List.flatMap_nil]
  | @run gap run rest runs_ separated isRun ended' split ih =>
    have filled : gap ≠ [] := by
      rintro rfl
      obtain ⟨c, later, rfl⟩ := List.exists_cons_of_ne_nil isRun.filled
      have outside : separates c = false := isRun.whole c List.mem_cons_self
      rw [ended c rfl] at outside
      cases outside
    rw [collapse_gap_append filled separated (isRun.head?_append rest), collapse_append isRun.whole, List.flatMap_cons]
    exact (isRun.rdropWhile_append [mark] _).trans (by rw [ih ended', List.singleton_append])

/-- One mark for each gap, and none at the ends: the runs with a mark between neighbours. -/
theorem stripped_collapse (cs : List Char) :
    stripped separates (collapse separates mark cs) = joinRuns mark (runs separates cs) := by
  have split : SplitsInto separates cs (runs separates cs) := splitsInto_runs cs
  generalize runs separates cs = runs_ at split
  rw [stripped]
  cases split with
  | gap separated =>
    have nothing : (collapse separates mark (cs ++ [])).dropWhile separates = collapse separates mark [] :=
      dropWhile_collapse_gap marked separated rfl
    rw [List.append_nil] at nothing
    rw [nothing]
    rfl
  | @run gap run rest runs_ separated isRun ended split =>
    rw [dropWhile_collapse_gap marked separated (isRun.head?_append rest), collapse_append isRun.whole, joinRuns_cons,
      ← split.rdropWhile_collapse marked ended]
    exact isRun.rdropWhile_append [] _

end Marked

end DatasetForm.Text
