import DatasetForm.Proofs.Rule.TitleOutcome

/-!
The tiers of the abstract. Its three rules share two limits, the most characters it may have and a share of that
which is computed with rounding. By the length of the text, exactly one of four things is found (`Tier`): nothing is
there, it is too long, it is near its limit, or it fits (`tier_iff`). A longer text is never judged more mildly than
a shorter one that has something in it (`Tier.gravity_le`).
-/

set_option autoImplicit false
set_option relaxedAutoImplicit false

namespace DatasetForm

/-- How much an outcome weighs: nothing least, then a warning, then an error. -/
def Outcome.gravity : Option Outcome → Nat
  | none => 0
  | some ⟨.warning, _⟩ => 1
  | some ⟨.error, _⟩ => 2

namespace Rule

/-- A length above the share of a limit stays above it as it grows. -/
theorem isAboveShare_of_le {most ratio : Value} {shorter longer : Nat} (le : shorter ≤ longer)
    (above : isAboveShare most ratio shorter = true) : isAboveShare most ratio longer = true := by
  cases product : most.times ratio with
  | error failure =>
    rw [isAboveShare, product] at above
    cases above
  | ok share =>
    have less : share.compares .less (.int shorter) = .ok true := by
      rw [isAboveShare, product] at above
      simp only [Except.bind] at above
      split at above
      next answer compared => rw [compared, above]
      next failure => cases above
    have less' := Value.compares_less_of_le (Int.ofNat_le.mpr le) less
    simp only [isAboveShare, product, Except.bind, less']

/-- What is found in an abstract of some length, for the most characters it may have and a share of that. -/
inductive Tier (most : Int) (share : Value) : Nat → Option Outcome → Prop
  | missing : Tier most share 0 (some (.error (.required "Abstract")))
  | tooLong {length : Nat} (exceeds : most < length) :
      Tier most share length (some (.error (.tooLong "Abstract" (.int most) length)))
  | nearLimit {length : Nat} (filled : 0 < length)
      (above : share.compares .less (.int length) = .ok true) (within : length ≤ most) :
      Tier most share length (some (.warning (.nearLimit "Abstract" length (.int most))))
  | fitting {length : Nat} (filled : 0 < length)
      (below : share.compares .less (.int length) = .ok false) (within : length ≤ most) :
      Tier most share length none

namespace Tier

variable {most : Int} {share : Value} {length longer : Nat} {outcome other : Option Outcome}

/-- No length is in two tiers, as the most characters are not fewer than none. -/
theorem unique (nonnegative : 0 ≤ most) (first : Tier most share length outcome)
    (second : Tier most share length other) : outcome = other := by
  cases first with
  | missing =>
    cases second with
    | missing => rfl
    | _ => omega
  | tooLong exceeds =>
    cases second with
    | tooLong => rfl
    | _ => omega
  | nearLimit filled above within =>
    cases second with
    | nearLimit => rfl
    | fitting _ below _ =>
      rw [above] at below
      cases below
    | _ => omega
  | fitting filled below within =>
    cases second with
    | fitting => rfl
    | nearLimit _ above _ =>
      rw [above] at below
      cases below
    | _ => omega

/-- A longer text is not judged more mildly than one that has something in it. -/
theorem gravity_le (filled : 0 < length) (le : length ≤ longer) (first : Tier most share length outcome)
    (second : Tier most share longer other) : Outcome.gravity outcome ≤ Outcome.gravity other := by
  cases first with
  | missing => exact absurd filled (Nat.lt_irrefl 0)
  | fitting => exact Nat.zero_le _
  | tooLong exceeds =>
    cases second with
    | missing => omega
    | tooLong => exact Nat.le_refl 2
    | nearLimit _ _ within => omega
    | fitting _ _ within => omega
  | nearLimit _ above _ =>
    cases second with
    | missing => omega
    | tooLong => exact Nat.le_succ 1
    | nearLimit => exact Nat.le_refl 1
    | fitting _ below _ =>
      have above := Value.compares_less_of_le (Int.ofNat_le.mpr le) above
      rw [below] at above
      cases above

end Tier

theorem evaluate_abstractRules_eq (settings : Settings) (value context : Value) :
    evaluate (abstractRules settings) value context =
      (if value.isBlank then some (.error (.required "Abstract")) else none).or
        (((maxLength "Abstract" settings.abstractMaxLength).judge value context).or
          ((nearLimit "Abstract" settings.abstractMaxLength settings.lengthWarningRatio).judge value context)) := by
  rw [abstractRules, evaluate_cons, evaluate_cons, evaluate_cons, evaluate_nil, Option.or_none, judge_required]

section

variable {settings : Settings} {most : Int} (limit : settings.abstractMaxLength = .int most)
  (binary : (Binary64.ofInt? most).isSome) (inRange : settings.checkRanges = .ok ())
include limit binary inRange

/-- What the rules of the abstract find is in the tier of its length. -/
theorem Tier.of_evaluate {share : Value}
    (product : (Value.int most).times settings.lengthWarningRatio = .ok share) (part : Option String)
    (context : Value) :
    Tier most share (trimmedPart part).length
      (evaluate (abstractRules settings) (Record.textValue part) context) := by
  have blank : (Record.textValue part).isBlank = (trimmedPart part == "") := by
    rw [Record.textValue_eq, DateRow.isBlank_partValue]
  have length : Format.textLength (Record.textValue part) = (trimmedPart part).length := by
    rw [Format.textLength, Record.textValue_eq, DateRow.trimmedText_partValue]
  rw [evaluate_abstractRules_eq, limit, judge_maxLength, blank, length]
  by_cases missing : trimmedPart part = ""
  · rw [missing]
    exact .missing
  have filled : 0 < (trimmedPart part).length :=
    Nat.pos_of_ne_zero fun none => missing (String.length_eq_zero_iff.mp none)
  rw [if_neg (by simpa using missing), Option.none_or]
  by_cases long : most < (trimmedPart part).length
  · rw [if_pos long]
    exact .tooLong long
  rw [if_neg long, Option.none_or]
  -- Only a text can be filled in, and then the warning reads it as the other rules do.
  cases part with
  | none => exact absurd rfl missing
  | some text =>
    obtain ⟨other, product', comparable⟩ := exists_share binary inRange
    obtain rfl : share = other := Except.ok.inj (product.symm.trans product')
    obtain ⟨above, compared⟩ := comparable (trimmedPart (some text)).length
    have within : (trimmedPart (some text)).length ≤ most := Int.not_lt.mp long
    have share : isAboveShare (.int most) settings.lengthWarningRatio (Text.strip text).length = above := by
      have compared' : share.compares .less (.int (Text.strip text).length) = .ok above := compared
      simp only [isAboveShare, product, Except.bind, compared']
    rw [Record.textValue, judge_nearLimit binary inRange "Abstract" text context long, share]
    cases above with
    | true => exact .nearLimit filled compared within
    | false => exact .fitting filled compared within

/-- Of an abstract exactly the tier of its length is found. -/
theorem tier_iff (nonnegative : 0 ≤ most) {share : Value}
    (product : (Value.int most).times settings.lengthWarningRatio = .ok share) (part : Option String)
    (context : Value) (outcome : Option Outcome) :
    Tier most share (trimmedPart part).length outcome ↔
      evaluate (abstractRules settings) (Record.textValue part) context = outcome := by
  have found := Tier.of_evaluate limit binary inRange product part context
  constructor
  · exact found.unique nonnegative
  · rintro rfl
    exact found

/-- The tiers partition the lengths of an abstract: what is found in it is what the one tier of its length holds, and
a longer text weighs no less than a shorter one that has something in it. -/
theorem abstract_tiers (nonnegative : 0 ≤ most) :
    ∃ share, (Value.int most).times settings.lengthWarningRatio = .ok share ∧
      (∀ part context outcome, Tier most share (trimmedPart part).length outcome ↔
        evaluate (abstractRules settings) (Record.textValue part) context = outcome) ∧
      ∀ shorter longer context, 0 < (trimmedPart shorter).length →
        (trimmedPart shorter).length ≤ (trimmedPart longer).length →
          Outcome.gravity (evaluate (abstractRules settings) (Record.textValue shorter) context) ≤
            Outcome.gravity (evaluate (abstractRules settings) (Record.textValue longer) context) := by
  obtain ⟨share, product, -⟩ := exists_share binary inRange
  refine ⟨share, product, tier_iff limit binary inRange nonnegative product, ?_⟩
  intro shorter longer context filled le
  have first := Tier.of_evaluate limit binary inRange product shorter context
  have second := Tier.of_evaluate limit binary inRange product longer context
  exact first.gravity_le filled le second

end

/-- Of at most ten characters, ten are near the limit and nine are not. -/
theorem abstract_tiers_ten :
    let settings := { abstractMaxLength := 10 : Limits }.settings
    settings.abstractMaxLength = .int 10 ∧ (Binary64.ofInt? 10).isSome ∧ settings.checkRanges = .ok () ∧
      (0 : Int) ≤ 10 ∧
      ∃ share, (Value.int 10).times settings.lengthWarningRatio = .ok share ∧
        Tier 10 share 0 (some (.error (.required "Abstract"))) ∧
        Tier 10 share 9 none ∧
        Tier 10 share 10 (some (.warning (.nearLimit "Abstract" 10 (.int 10)))) ∧
        Tier 10 share 11 (some (.error (.tooLong "Abstract" (.int 10) 11))) ∧
        1 ≤ Outcome.gravity (evaluate (abstractRules settings) (.text "Snow depths") .null) := by
  intro settings
  have binary : (Binary64.ofInt? 10).isSome := by decide +kernel
  obtain ⟨share, product, tiers, grows⟩ :=
    @abstract_tiers settings 10 rfl binary rfl (by decide)
  refine ⟨rfl, binary, rfl, by decide, share, product, ?_⟩
  have nothing := (tiers none .null _).mpr rfl
  have fits := (tiers (some " Ice cores ") .null none).mpr rfl
  have near := (tiers (some "Snow depth") .null (some (.warning (.nearLimit "Abstract" 10 (.int 10))))).mpr rfl
  have long := (tiers (some "Snow depths") .null (some (.error (.tooLong "Abstract" (.int 10) 11)))).mpr rfl
  have warned : Outcome.gravity (evaluate (abstractRules settings) (.text "Snow depth") .null) = 1 := rfl
  have heavier := grows (some "Snow depth") (some "Snow depths") .null (by decide +kernel) (by decide +kernel)
  exact ⟨nothing, fits, near, long, warned ▸ heavier⟩

end Rule

end DatasetForm
