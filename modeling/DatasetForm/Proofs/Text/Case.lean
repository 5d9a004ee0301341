import DatasetForm.Proofs.Text.CodeTable
import DatasetForm.Text.Case
import DatasetForm.Text.Runs
import Mathlib.Data.List.Basic

/-!
Lower case is stable: a text in lower case is its own lower case. No small letter of the table is a capital of it,
and no capital sigma is left whose form would depend on the letters around it. Past ASCII, only the Kelvin sign and the
dotted capital I have a small ASCII letter in their lower case.
-/

set_option autoImplicit false
set_option relaxedAutoImplicit false

namespace DatasetForm.Text

/-- There are finitely many characters, but to decide something of those in a text, only these are looked at. -/
instance (priority := 2000) decidableForallMem (P : Char → Prop) [DecidablePred P] (cs : List Char) :
    Decidable (∀ c ∈ cs, P c) :=
  List.decidableBAll P cs

/-- The character stays as it is in lower case, wherever it stands. -/
def IsLower (c : Char) : Prop :=
  c.toNat ≠ 0x3A3 ∧ lowerChar c = [c]

instance (c : Char) : Decidable (IsLower c) :=
  inferInstanceAs (Decidable (_ ∧ _))

theorem lowerAfter_eq_self {cs : List Char} (small : ∀ c ∈ cs, IsLower c) (before : List Char) :
    lowerAfter before cs = cs := by
  induction cs generalizing before with
  | nil => rfl
  | cons c cs ih =>
    rw [List.forall_mem_cons] at small
    obtain ⟨⟨notSigma, same⟩, rest⟩ := small
    have final : (c.toNat == 0x3A3) = false := by simpa using notSigma
    rw [lowerAfter, final, Bool.false_and, Bool.false_and, if_neg Bool.false_ne_true, same, ih rest,
      List.singleton_append]

/-! ## The table -/

/-- The last small letter of a run. -/
private def lastImage (run : CaseRun) : Nat :=
  run.image + (run.last - run.first)

/-- The small letters of a run are none of the capitals of another: they lie below or above them, or they stand
between them, the capitals being every other letter. -/
private def isApart (run capitals : CaseRun) : Bool :=
  lastImage run < capitals.first || capitals.last < run.image ||
    ((run.step % 2 == 0 || run.first == run.last) && capitals.step % 2 == 0 && run.image % 2 != capitals.first % 2)

/-- The small letters of a run are characters of the first two planes, and none that has a rule of its own. -/
private def isOrdinary (run : CaseRun) : Bool :=
  0x5A < run.image && (lastImage run < 0x130 || 0x130 < run.image) &&
    (lastImage run < 0xD800 || (0xDFFF < run.image && lastImage run < 0x20000))

private theorem lowerRuns_isApart :
    (lowerRuns.all fun run => lowerRuns.all fun capitals => isApart run capitals) = true := by
  simp only [isApart, decide_lt_eq_blt]
  decide +kernel

private theorem lowerRuns_isOrdinary : lowerRuns.all isOrdinary = true := by
  decide

private theorem imageOf?_eq_some {run : CaseRun} {code image : Nat} (found : run.imageOf? code = some image) :
    run.first ≤ code ∧ code ≤ run.last ∧ (code - run.first) % run.step = 0 ∧
      image = run.image + (code - run.first) := by
  rw [CaseRun.imageOf?] at found
  split at found
  next held =>
    simp only [Bool.and_eq_true, decide_eq_true_eq, beq_iff_eq] at held
    exact ⟨held.1.1, held.1.2, held.2, (Option.some.inj found).symm⟩
  · cases found

private theorem even_of_mod_eq_zero {n step : Nat} (even : step % 2 = 0) (multiple : n % step = 0) : n % 2 = 0 :=
  Nat.mod_eq_zero_of_dvd (Nat.dvd_trans (Nat.dvd_of_mod_eq_zero even) (Nat.dvd_of_mod_eq_zero multiple))

private theorem imageOf?_of_isApart {run capitals : CaseRun} (apart : isApart run capitals = true) {code image : Nat}
    (found : run.imageOf? code = some image) : capitals.imageOf? image = none := by
  obtain ⟨low, high, place, rfl⟩ := imageOf?_eq_some found
  cases again : capitals.imageOf? (run.image + (code - run.first)) with
  | none => rfl
  | some other =>
    obtain ⟨low', high', place', -⟩ := imageOf?_eq_some again
    have within : code - run.first ≤ run.last - run.first := Nat.sub_le_sub_right high run.first
    simp only [isApart, Bool.or_eq_true, Bool.and_eq_true, decide_eq_true_eq, beq_iff_eq, bne_iff_ne] at apart
    simp only [lastImage] at apart
    rcases apart with (below | above) | ⟨⟨spaced, even⟩, parity⟩
    · omega
    · omega
    · have offset : (code - run.first) % 2 = 0 := by
        rcases spaced with spaced | single
        · exact even_of_mod_eq_zero spaced place
        · omega
      have offset' := even_of_mod_eq_zero even place'
      omega

/-- The small letter of a run is a character that is no capital of any run. -/
private theorem image_lower {code image : Nat} (found : lowerRuns.findSome? (·.imageOf? code) = some image) :
    (Char.ofNat image).toNat = image ∧ 0x5A < image ∧ image < 0x20000 ∧ image ≠ 0x130 ∧
      lowerRuns.findSome? (·.imageOf? image) = none := by
  obtain ⟨run, member, found⟩ := List.exists_of_findSome?_eq_some found
  have apart := List.all_eq_true.mp (List.all_eq_true.mp lowerRuns_isApart run member)
  have ordinary := List.all_eq_true.mp lowerRuns_isOrdinary run member
  have unmoved : lowerRuns.findSome? (·.imageOf? image) = none :=
    List.findSome?_eq_none_iff.mpr fun capitals other => imageOf?_of_isApart (apart capitals other) found
  obtain ⟨low, high, -, rfl⟩ := imageOf?_eq_some found
  have within : code - run.first ≤ run.last - run.first := Nat.sub_le_sub_right high run.first
  simp only [isOrdinary, Bool.or_eq_true, Bool.and_eq_true, decide_eq_true_eq] at ordinary
  simp only [lastImage] at ordinary
  refine ⟨?_, by omega, by omega, by omega, unmoved⟩
  have valid : (run.image + (code - run.first)).isValidChar := by
    rw [Nat.isValidChar]
    omega
  rw [Char.ofNat, dif_pos valid]
  rfl

/-! ## Lower case is lower case -/

private theorem isLower_ascii : ∀ code ∈ List.range 0x80, IsLower (lowerAscii (Char.ofNat code)) := by
  decide +kernel

/-- The small letter of a dotted capital I is followed by its dot. -/
private theorem isLower_dotted : ∀ c ∈ ['i', Char.ofNat 0x307], IsLower c := by
  decide

private theorem isLower_finalSigma : IsLower (Char.ofNat 0x3C2) := by
  decide

private theorem sigma_lowers : (lowerRuns.findSome? (·.imageOf? 0x3A3)).isSome = true := by
  decide

/-- What no run changes stays as it is. -/
private theorem isLower_of_unmoved {c : Char} (past : ¬ c.toNat < 0x80) (notDotted : c.toNat ≠ 0x130)
    (unmoved : lowerRuns.findSome? (·.imageOf? c.toNat) = none) : IsLower c := by
  constructor
  · intro sigma
    rw [sigma] at unmoved
    have moved := sigma_lowers
    rw [unmoved] at moved
    cases moved
  · have dotted : (c.toNat == 0x130) = false := by simpa using notDotted
    rw [lowerChar, if_neg past, dotted, if_neg Bool.false_ne_true, unmoved, Option.getD_none, Char.ofNat_toNat]

private theorem isLower_of_small {c : Char} (ascii : c.toNat < 0x80) (small : 0x5A < c.toNat) : IsLower c := by
  have same : lowerAscii c = c := by
    have past : ¬ c.toNat ≤ 0x5A := by omega
    simp [lowerAscii, past]
  exact ⟨by omega, by rw [lowerChar, if_pos ascii, same]⟩

theorem isLower_of_mem_lowerChar {c d : Char} (member : d ∈ lowerChar c) : IsLower d := by
  rw [lowerChar] at member
  split at member
  next ascii =>
    rw [List.mem_singleton.mp member, ← Char.ofNat_toNat c]
    exact isLower_ascii c.toNat (List.mem_range.mpr ascii)
  next past =>
    split at member
    · exact isLower_dotted d member
    next notDotted =>
      rw [List.mem_singleton] at member
      cases found : lowerRuns.findSome? (·.imageOf? c.toNat) with
      | none =>
        rw [found, Option.getD_none, Char.ofNat_toNat] at member
        subst member
        exact isLower_of_unmoved past (by simpa using notDotted) found
      | some image =>
        rw [found, Option.getD_some] at member
        obtain ⟨code, small, -, ordinary, unmoved⟩ := image_lower found
        rw [← member] at code
        by_cases ascii : d.toNat < 0x80
        · exact isLower_of_small ascii (code ▸ small)
        · exact isLower_of_unmoved ascii (code ▸ ordinary) (code ▸ unmoved)

theorem isLower_of_mem_lowerAfter {before cs : List Char} {d : Char} (member : d ∈ lowerAfter before cs) :
    IsLower d := by
  induction cs generalizing before with
  | nil => cases member
  | cons c cs ih =>
    rw [lowerAfter, List.mem_append] at member
    rcases member with first | rest
    · split at first
      · rw [List.mem_singleton.mp first]
        exact isLower_finalSigma
      · exact isLower_of_mem_lowerChar first
    · exact ih rest

theorem isLower_of_mem_lower {text : String} {d : Char} (member : d ∈ (lower text).toList) : IsLower d := by
  rw [lower, String.toList_ofList] at member
  exact isLower_of_mem_lowerAfter member

/-- A text in lower case is its own lower case. -/
theorem lower_lower (text : String) : lower (lower text) = lower text := by
  rw [lower, lowerAfter_eq_self (fun _ => isLower_of_mem_lower), String.ofList_toList]

theorem IsLower.isCapital {c : Char} (small : IsLower c) : isCapital c = false := by
  cases capital : Text.isCapital c with
  | false => rfl
  | true =>
    rw [Text.isCapital] at capital
    have bounds := capital
    simp only [Bool.and_eq_true, decide_eq_true_eq] at bounds
    have moved : Char.ofNat (c.toNat + 0x20) = c := by
      have same := small.2
      rw [lowerChar, if_pos (by omega), lowerAscii, capital, if_pos rfl] at same
      exact List.singleton_inj.mp same
    have code := congrArg Char.toNat moved
    have valid : (c.toNat + 0x20).isValidChar := .inl (by omega)
    rw [Char.ofNat, dif_pos valid] at code
    have next : c.toNat + 0x20 = c.toNat := code
    omega

/-! ## Characters beyond the letters -/

private theorem lowerAscii_lt : ∀ code ∈ List.range 0x80, (lowerAscii (Char.ofNat code)).toNat < 0x20000 := by
  decide +kernel

private theorem eq_or_lt_of_mem_lowerChar {c d : Char} (member : d ∈ lowerChar c) : d = c ∨ d.toNat < 0x20000 := by
  rw [lowerChar] at member
  split at member
  next ascii =>
    rw [List.mem_singleton.mp member, ← Char.ofNat_toNat c]
    exact .inr (lowerAscii_lt c.toNat (List.mem_range.mpr ascii))
  split at member
  · have dotted : ∀ c ∈ ['i', Char.ofNat 0x307], c.toNat < 0x20000 := by decide
    exact .inr (dotted d member)
  rw [List.mem_singleton] at member
  cases found : lowerRuns.findSome? (·.imageOf? c.toNat) with
  | none =>
    rw [found, Option.getD_none, Char.ofNat_toNat] at member
    exact .inl member
  | some image =>
    rw [found, Option.getD_some] at member
    obtain ⟨code, -, near, -⟩ := image_lower found
    rw [member, code]
    exact .inr near

/-- Lower case brings in letters of the first two planes only. -/
theorem mem_or_lt_of_mem_lower {text : String} {d : Char} (member : d ∈ (lower text).toList) :
    d ∈ text.toList ∨ d.toNat < 0x20000 := by
  suffices general : ∀ cs before, d ∈ lowerAfter before cs → d ∈ cs ∨ d.toNat < 0x20000 by
    rw [lower, String.toList_ofList] at member
    exact general _ _ member
  intro cs
  induction cs with
  | nil => exact fun before member => nomatch member
  | cons c cs ih =>
    intro before member
    rw [lowerAfter, List.mem_append] at member
    rcases member with first | rest
    · split at first
      · rw [List.mem_singleton.mp first]
        exact .inr (by decide)
      · rcases eq_or_lt_of_mem_lowerChar first with rfl | near
        · exact .inl List.mem_cons_self
        · exact .inr near
    · exact (ih _ rest).imp_left (List.mem_cons_of_mem c)

/-! ## Lower case in ASCII -/

/-- An ASCII character that is in the lower case of ASCII characters only. The letter `k` is also the lower case of the
Kelvin sign. -/
def IsPlain (c : Char) : Prop :=
  c.toNat < 0x80 ∧ c ≠ 'k'

instance (c : Char) : Decidable (IsPlain c) :=
  inferInstanceAs (Decidable (_ ∧ _))

/-- The small letters of a run are past ASCII, but for that of the Kelvin sign, a run by itself. -/
private def isPast (run : CaseRun) : Bool :=
  0x80 ≤ run.image || (run.image == 'k'.toNat && run.first == run.last)

private theorem lowerRuns_isPast : lowerRuns.all isPast = true := by
  decide

/-- Past ASCII, no character has plain characters alone for its lower case. -/
theorem lowerChar_past {c : Char} (past : ¬c.toNat < 0x80) :
    lowerChar c = ['i', Char.ofNat 0x307] ∨ ∃ d, lowerChar c = [d] ∧ ¬IsPlain d := by
  rw [lowerChar, if_neg past]
  split
  · exact .inl rfl
  refine .inr ⟨_, rfl, ?_⟩
  rintro ⟨ascii, notK⟩
  cases found : lowerRuns.findSome? (·.imageOf? c.toNat) with
  | none =>
    rw [found, Option.getD_none, Char.ofNat_toNat] at ascii
    exact past ascii
  | some image =>
    obtain ⟨code, -⟩ := image_lower found
    rw [found, Option.getD_some] at ascii notK
    rw [code] at ascii
    obtain ⟨run, member, held⟩ := List.exists_of_findSome?_eq_some found
    obtain ⟨low, high, -, rfl⟩ := imageOf?_eq_some held
    have later := List.all_eq_true.mp lowerRuns_isPast run member
    simp only [isPast, Bool.or_eq_true, Bool.and_eq_true, decide_eq_true_eq, beq_iff_eq] at later
    rcases later with later | ⟨kelvin, single⟩
    · omega
    · have same : run.image + (c.toNat - run.first) = 'k'.toNat := by omega
      rw [same] at notK
      exact notK rfl

end DatasetForm.Text
