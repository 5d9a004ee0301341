import DatasetForm.Text.Runs
import Mathlib.Data.List.Basic

/-!
What splitting a text into runs gives: texts that are not empty and hold no separator. Joined by a separator,
such texts are the runs of what they make up.
-/

set_option autoImplicit false
set_option relaxedAutoImplicit false

namespace DatasetForm.Text

variable {separates : Char → Bool} {separator : Char} {cs run : List Char}

/-- A text that is not empty and holds no separator. -/
structure IsRun (separates : Char → Bool) (run : List Char) : Prop where
  filled : run ≠ []
  whole : ∀ c ∈ run, separates c = false

theorem leadingRun_separator {c : Char} (separated : separates c = true) (cs : List Char) :
    leadingRun separates (c :: cs) = ([], runs separates cs) := by
  simp [leadingRun, runs, separated]

theorem leadingRun_append (whole : ∀ c ∈ run, separates c = false) (cs : List Char) :
    leadingRun separates (run ++ cs) =
      (run ++ (leadingRun separates cs).1, (leadingRun separates cs).2) := by
  induction run with
  | nil => rfl
  | cons c run ih =>
    rw [List.forall_mem_cons] at whole
    have rest := ih whole.2
    rw [leadingRun] at rest
    rw [leadingRun, List.cons_append, List.foldr_cons, rest, whole.1]
    rfl

private theorem isRun_of_mem_consRun {others : List (List Char)} (whole : ∀ c ∈ run, separates c = false)
    (later : ∀ r ∈ others, IsRun separates r) : ∀ r ∈ consRun run others, IsRun separates r := by
  intro r member
  rw [consRun] at member
  split at member
  · exact later r member
  next filled =>
    rcases List.mem_cons.mp member with rfl | member
    · exact ⟨mt List.isEmpty_iff.mpr filled, whole⟩
    · exact later r member

/-- The run that has begun holds no separator, though it may be empty. -/
theorem leadingRun_whole (cs : List Char) :
    (∀ c ∈ (leadingRun separates cs).1, separates c = false) ∧
      ∀ run ∈ (leadingRun separates cs).2, IsRun separates run := by
  induction cs with
  | nil => simp [leadingRun]
  | cons c cs ih =>
    cases separated : separates c with
    | true =>
      rw [leadingRun_separator separated]
      exact ⟨by simp, isRun_of_mem_consRun ih.1 ih.2⟩
    | false =>
      rw [← List.singleton_append, leadingRun_append (by simp [separated])]
      refine ⟨?_, ih.2⟩
      rw [List.singleton_append, List.forall_mem_cons]
      exact ⟨separated, ih.1⟩

theorem isRun_of_mem_runs (member : run ∈ runs separates cs) : IsRun separates run :=
  isRun_of_mem_consRun (leadingRun_whole cs).1 (leadingRun_whole cs).2 run member

private theorem mem_of_mem_consRun {others : List (List Char)} {r : List Char} (member : r ∈ consRun run others) :
    r = run ∨ r ∈ others := by
  rw [consRun] at member
  split at member
  · exact .inr member
  · exact List.mem_cons.mp member

private theorem leadingRun_subset (cs : List Char) :
    (leadingRun separates cs).1 ⊆ cs ∧ ∀ run ∈ (leadingRun separates cs).2, run ⊆ cs := by
  induction cs with
  | nil => simp [leadingRun]
  | cons c cs ih =>
    have later {r : List Char} (inside : r ⊆ cs) : r ⊆ c :: cs := List.subset_cons_of_subset c inside
    cases separated : separates c with
    | true =>
      rw [leadingRun_separator separated]
      refine ⟨List.nil_subset _, fun r member => ?_⟩
      rcases mem_of_mem_consRun member with rfl | other
      · exact later ih.1
      · exact later (ih.2 r other)
    | false =>
      rw [← List.singleton_append, leadingRun_append (by simp [separated])]
      exact ⟨List.cons_subset_cons c ih.1, fun r member => later (ih.2 r member)⟩

/-- Runs are made of what the text is made of. -/
theorem subset_of_mem_runs (member : run ∈ runs separates cs) : run ⊆ cs := by
  rcases mem_of_mem_consRun member with rfl | other
  · exact (leadingRun_subset cs).1
  · exact (leadingRun_subset cs).2 run other

theorem consRun_append (run : List Char) (others more : List (List Char)) :
    consRun run (others ++ more) = consRun run others ++ more := by
  rw [consRun, consRun]
  split <;> rfl

private theorem leadingRun_append_cons (separated : separates separator = true) (before after : List Char) :
    leadingRun separates (before ++ separator :: after) =
      ((leadingRun separates before).1, (leadingRun separates before).2 ++ runs separates after) := by
  induction before with
  | nil => exact leadingRun_separator separated after
  | cons c before ih =>
    cases kind : separates c with
    | true =>
      rw [List.cons_append, leadingRun_separator kind, leadingRun_separator kind, runs, ih, consRun_append, ← runs]
    | false =>
      have alone : ∀ d ∈ [c], separates d = false := by simpa using kind
      have first (rest : List Char) := leadingRun_append alone rest
      simp only [List.singleton_append] at first
      rw [List.cons_append, first, ih, first]

/-- A separator parts the runs before it from those behind it. -/
theorem runs_append_cons (separated : separates separator = true) (before after : List Char) :
    runs separates (before ++ separator :: after) = runs separates before ++ runs separates after := by
  rw [runs, leadingRun_append_cons separated, consRun_append, ← runs]

/-- A separator parts what is read before it from what is read behind it. -/
structure IsParted (separates : Char → Bool) (read : List Char → List (List Char)) : Prop where
  nil : read [] = []
  append_cons : ∀ c, separates c = true → ∀ before after, read (before ++ c :: after) = read before ++ read after

section Parted

variable {read : List Char → List (List Char)} {gap : List Char}

theorem IsParted.cons (parted : IsParted separates read) (separated : separates separator = true) (cs : List Char) :
    read (separator :: cs) = read cs := by
  rw [← List.nil_append (separator :: cs), parted.append_cons separator separated, parted.nil, List.nil_append]

/-- Separators in front do not count. -/
theorem IsParted.gap_append (parted : IsParted separates read) (separated : ∀ c ∈ gap, separates c = true)
    (cs : List Char) : read (gap ++ cs) = read cs := by
  induction gap with
  | nil => rfl
  | cons c gap ih =>
    rw [List.forall_mem_cons] at separated
    rw [List.cons_append, parted.cons separated.1, ih separated.2]

/-- Neither do separators at the end. -/
theorem IsParted.append_gap (parted : IsParted separates read) (separated : ∀ c ∈ gap, separates c = true)
    (cs : List Char) : read (cs ++ gap) = read cs := by
  cases gap with
  | nil => rw [List.append_nil]
  | cons c gap =>
    rw [List.forall_mem_cons] at separated
    have nothing := parted.gap_append separated.2 []
    rw [List.append_nil, parted.nil] at nothing
    rw [parted.append_cons c separated.1, nothing, List.append_nil]

end Parted

theorem isParted_runs : IsParted separates (runs separates) :=
  ⟨rfl, fun _ separated => runs_append_cons separated⟩

theorem runs_cons_separator (separated : separates separator = true) (cs : List Char) :
    runs separates (separator :: cs) = runs separates cs :=
  isParted_runs.cons separated cs

theorem runs_gap_append {gap : List Char} (separated : ∀ c ∈ gap, separates c = true) (cs : List Char) :
    runs separates (gap ++ cs) = runs separates cs :=
  isParted_runs.gap_append separated cs

theorem IsRun.runs_eq (isRun : IsRun separates run) : runs separates run = [run] := by
  have whole := leadingRun_append isRun.whole []
  have nothing : leadingRun separates [] = ([], []) := rfl
  rw [nothing, List.append_nil] at whole
  rw [runs, whole, consRun, if_neg (mt List.isEmpty_iff.mp isRun.filled)]

theorem runs_append_separator (isRun : IsRun separates run) (separated : separates separator = true)
    (cs : List Char) : runs separates (run ++ separator :: cs) = run :: runs separates cs := by
  rw [runs_append_cons separated, isRun.runs_eq, List.singleton_append]

/-- Only whether the characters of the text separate makes a difference. -/
theorem runs_congr {other : Char → Bool} (same : ∀ c ∈ cs, separates c = other c) :
    runs separates cs = runs other cs := by
  have begun : leadingRun separates cs = leadingRun other cs := by
    induction cs with
    | nil => rfl
    | cons c cs ih =>
      rw [List.forall_mem_cons] at same
      have rest := ih same.2
      rw [leadingRun, leadingRun] at rest
      rw [leadingRun, leadingRun, List.foldr_cons, List.foldr_cons, rest, same.1]
  rw [runs, runs, begun]

/-- There are no runs exactly in a text of separators. -/
theorem runs_eq_nil_iff : runs separates cs = [] ↔ ∀ c ∈ cs, separates c = true := by
  induction cs with
  | nil => simp [runs, leadingRun, consRun]
  | cons c cs ih =>
    rw [List.forall_mem_cons]
    cases kind : separates c with
    | true => rw [runs_cons_separator kind, ih, and_iff_right rfl]
    | false =>
      have whole : ∀ d ∈ [c], separates d = false := by simpa using kind
      have begun := leadingRun_append whole cs
      rw [List.singleton_append] at begun
      simp [runs, begun, consRun]

theorem joinRuns_cons_cons (separator : Char) (run next : List Char) (others : List (List Char)) :
    joinRuns separator (run :: next :: others) = run ++ separator :: joinRuns separator (next :: others) := rfl

/-- Runs that were joined come apart as they were. -/
theorem runs_joinRuns (separated : separates separator = true) {runs_ : List (List Char)}
    (each : ∀ run ∈ runs_, IsRun separates run) : runs separates (joinRuns separator runs_) = runs_ := by
  induction runs_ with
  | nil => rfl
  | cons run others ih =>
    rw [List.forall_mem_cons] at each
    cases others with
    | nil => exact each.1.runs_eq
    | cons next others =>
      rw [joinRuns_cons_cons, runs_append_separator each.1 separated, ih each.2]

theorem joinRuns_eq_nil_iff {separator : Char} {runs_ : List (List Char)} (filled : ∀ run ∈ runs_, run ≠ []) :
    joinRuns separator runs_ = [] ↔ runs_ = [] := by
  cases runs_ with
  | nil => simp [joinRuns]
  | cons run others =>
    have some : run ≠ [] := filled run List.mem_cons_self
    cases others with
    | nil => simp [joinRuns, some]
    | cons next others => simp [joinRuns_cons_cons]

theorem mem_joinRuns {c : Char} {runs_ : List (List Char)} (member : c ∈ joinRuns separator runs_) :
    c = separator ∨ ∃ run ∈ runs_, c ∈ run := by
  induction runs_ with
  | nil => cases member
  | cons run others ih =>
    cases others with
    | nil => exact .inr ⟨run, List.mem_cons_self, member⟩
    | cons next others =>
      rw [joinRuns_cons_cons, List.mem_append, List.mem_cons] at member
      rcases member with inside | between | after
      · exact .inr ⟨run, List.mem_cons_self, inside⟩
      · exact .inl between
      · rcases ih after with between | ⟨later, found, inside⟩
        · exact .inl between
        · exact .inr ⟨later, List.mem_cons_of_mem _ found, inside⟩

theorem map_joinRuns (f : Char → Char) (separator : Char) (runs_ : List (List Char)) :
    (joinRuns separator runs_).map f = joinRuns (f separator) (runs_.map (List.map f)) := by
  induction runs_ with
  | nil => rfl
  | cons run others ih =>
    cases others with
    | nil => rfl
    | cons next others =>
      rw [joinRuns_cons_cons, List.map_append, List.map_cons, ih]
      rfl

/-- Without capitals there is nothing to break. -/
theorem breakCamel_eq_self (mark : Char) (small : ∀ c ∈ cs, isCapital c = false) : breakCamel mark cs = cs := by
  induction cs with
  | nil => rfl
  | cons c cs ih =>
    rw [List.forall_mem_cons] at small
    cases cs with
    | nil => rfl
    | cons d cs =>
      have next : isCapital d = false := small.2 d List.mem_cons_self
      rw [breakCamel, next, Bool.and_false, if_neg Bool.false_ne_true, ih small.2]

/-- Two texts that are put together are broken as each of them is by itself, and between them if the first ends in a
small letter or digit and the second begins with a capital. -/
theorem breakCamel_append (mark : Char) (before after : List Char) :
    breakCamel mark (before ++ after) = breakCamel mark before ++
      (if before.getLast?.any isLowerAlnum && after.head?.any isCapital then [mark] else []) ++
        breakCamel mark after := by
  induction before with
  | nil => rfl
  | cons c before ih =>
    cases before with
    | nil =>
      cases after with
      | nil => simp [breakCamel]
      | cons d after =>
        have ends : ([c].getLast?.any isLowerAlnum && (d :: after).head?.any isCapital) =
            (isLowerAlnum c && isCapital d) := rfl
        have alone : breakCamel mark [c] = [c] := rfl
        rw [List.singleton_append, breakCamel, ends, alone]
        split <;> rfl
    | cons d before =>
      rw [List.cons_append] at ih
      rw [List.cons_append, List.cons_append, breakCamel, breakCamel, ih, List.getLast?_cons_cons]
      split <;> rfl

/-- A capital in front has nothing to be broken from. -/
theorem breakCamel_cons_eq_self (mark c : Char) (small : ∀ d ∈ cs, isCapital d = false) :
    breakCamel mark (c :: cs) = c :: cs := by
  have rest := breakCamel_eq_self mark small
  cases cs with
  | nil => rfl
  | cons d cs =>
    rw [breakCamel, small d List.mem_cons_self, Bool.and_false, if_neg Bool.false_ne_true, rest]

theorem mem_breakCamel {mark d : Char} (member : d ∈ breakCamel mark cs) : d = mark ∨ d ∈ cs := by
  fun_induction breakCamel mark cs with
  | case1 c e cs _ ih =>
    rw [List.mem_cons, List.mem_cons] at member
    rcases member with first | between | rest
    · exact .inr (first ▸ List.mem_cons_self)
    · exact .inl between
    · exact (ih rest).imp_right (List.mem_cons_of_mem c)
  | case2 c e cs _ ih =>
    rcases List.mem_cons.mp member with first | rest
    · exact .inr (first ▸ List.mem_cons_self)
    · exact (ih rest).imp_right (List.mem_cons_of_mem c)
  | case3 => exact .inr member

theorem subset_breakCamel (mark : Char) (cs : List Char) : cs ⊆ breakCamel mark cs := by
  fun_induction breakCamel mark cs with
  | case1 c d cs _ ih =>
    exact List.cons_subset_cons c (List.subset_cons_of_subset mark ih)
  | case2 c d cs _ ih => exact List.cons_subset_cons c ih
  | case3 => exact List.Subset.refl _

end DatasetForm.Text
