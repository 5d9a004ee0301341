import DatasetForm.Form.Titles
import DatasetForm.Proofs.Text.Digit
import Mathlib.Data.List.TakeWhile

/-!
The names of title rows. A field goes by the name of a row when its name is the common beginning, a dot and
decimal digits of any script (`NamesRow`). What looks like such a name but holds a sign that is no decimal digit,
or more digits than are read, cannot be read (`IsReadable`).
-/

set_option autoImplicit false
set_option relaxedAutoImplicit false

namespace DatasetForm.Form

/-- The field goes by the name of a row: the common beginning, a dot and decimal digits that write a number. -/
def NamesRow (stem field : String) (number : Nat) : Prop :=
  ∃ digits, field.toList = (stem ++ ".").toList ++ digits ∧ digits ≠ [] ∧ Text.Writes digits number

/-- The name begins with the common beginning and a dot. -/
def BeginsWith (stem field : String) : Prop :=
  ∃ rest, field.toList = (stem ++ ".").toList ++ rest

/-- If all characters are signs for digits, they are decimal digits, and no more of them than are read. -/
def ReadsDigits (cs : List Char) : Prop :=
  cs.all Text.isDigitLike = true → cs.all Text.isDigit = true ∧ cs.length ≤ Failure.digitLimit

/-- What follows the common beginning and the dot, if the name begins like that, is no number or can be read. -/
def IsReadable (stem field : String) : Prop :=
  ∀ rest, field.toList = (stem ++ ".").toList ++ rest → ReadsDigits rest

theorem not_beginsWith_self (stem : String) : ¬ BeginsWith stem stem := by
  rintro ⟨rest, name⟩
  have lengths := congrArg List.length name
  simp only [String.toList_append, List.length_append] at lengths
  have dot : ".".toList.length = 1 := by decide
  omega

theorem NamesRow.beginsWith {stem field : String} {number : Nat} (names : NamesRow stem field number) :
    BeginsWith stem field := by
  obtain ⟨digits, name, -, -⟩ := names
  exact ⟨digits, name⟩

theorem NamesRow.unique {stem field : String} {m n : Nat} (first : NamesRow stem field m)
    (second : NamesRow stem field n) : m = n := by
  obtain ⟨digits, name, -, writes⟩ := first
  obtain ⟨digits', name', -, writes'⟩ := second
  have same : digits = digits' := List.append_cancel_left (name.symm.trans name')
  subst same
  exact writes.unique writes'

section RowField

variable (stem : String) (index : Nat)

theorem toList_rowField :
    (rowField stem index).toList = (stem ++ ".").toList ++ Nat.toDigits 10 index := by
  simp [rowField, toString, Nat.repr_eq_ofList_toDigits]

theorem namesRow_rowField : NamesRow stem (rowField stem index) index :=
  ⟨_, toList_rowField stem index, Nat.toDigits_ne_nil, Text.writes_toDigits index⟩

theorem beginsWith_rowField : BeginsWith stem (rowField stem index) :=
  ⟨_, toList_rowField stem index⟩

theorem rowField_injective : Function.Injective (rowField stem) := by
  intro m n same
  have second := namesRow_rowField stem n
  rw [← same] at second
  exact (namesRow_rowField stem m).unique second

theorem isReadable_rowField : IsReadable stem (rowField stem index) ↔ index < 10 ^ Failure.digitLimit := by
  have positive : 0 < Failure.digitLimit := by decide
  rw [← Nat.length_toDigits_le_iff (by decide) positive]
  have digits : (Nat.toDigits 10 index).all Text.isDigit = true :=
    List.all_eq_true.mpr fun c member => (Text.writes_toDigits index).isDigit member
  constructor
  · intro readable
    refine (readable _ (toList_rowField stem index) ?_).2
    rw [List.all_eq_true] at digits ⊢
    intro c member
    rw [Text.isDigitLike, digits c member, Bool.true_or]
  · intro short rest name _
    have same : Nat.toDigits 10 index = rest :=
      List.append_cancel_left ((toList_rowField stem index).symm.trans name)
    rw [← same]
    exact ⟨digits, short⟩

end RowField

section Stale

theorem afterStem?_eq_some_iff {stem cs rest : List Char} :
    afterStem? stem cs = some rest ↔ cs = stem ++ rest := by
  induction stem generalizing cs with
  | nil => simp [afterStem?]
  | cons s stem ih =>
    cases cs with
    | nil => simp [afterStem?]
    | cons c cs =>
      rw [afterStem?]
      by_cases same : s = c
      · subst same
        simp [ih]
      · simp [same, Ne.symm same]

private theorem isDigitLike_of_isDigit {cs : List Char} (digits : cs.all Text.isDigit = true) :
    cs.all Text.isDigitLike = true := by
  rw [List.all_eq_true] at digits ⊢
  intro c member
  rw [Text.isDigitLike, digits c member, Bool.true_or]

private theorem all_isDigit_of_writes {cs : List Char} {n : Nat} (writes : Text.Writes cs n) :
    cs.all Text.isDigit = true :=
  List.all_eq_true.mpr fun _ member => writes.isDigit member

private theorem rowNumber?_other {cs : List Char} (other : cs = [] ∨ ¬ cs.all Text.isDigitLike = true) :
    rowNumber? cs = .ok none := by
  rw [rowNumber?, if_pos]
  rcases other with rfl | other
  · rfl
  · simp [other]

private theorem rowNumber?_signs {cs : List Char} (filled : cs ≠ []) (signs : cs.all Text.isDigitLike = true) :
    rowNumber? cs =
      if (cs.takeWhile Text.isDigit).length > Failure.digitLimit then
        .error (.tooManyDigits (cs.takeWhile Text.isDigit).length)
      else match Text.readDigits? cs with
        | some n => .ok (some n)
        | none => .error (.notWhole (String.ofList cs)) := by
  unfold rowNumber?
  apply if_neg
  simp [filled, signs]

/-- Digits are read as the number that they write, and what is no number at all is passed over. -/
private theorem rowNumber?_ok {cs : List Char} (reads : ReadsDigits cs) :
    ∃ number?, rowNumber? cs = .ok number? ∧
      ∀ number, number? = some number ↔ cs ≠ [] ∧ Text.Writes cs number := by
  by_cases number : cs ≠ [] ∧ cs.all Text.isDigitLike = true
  · obtain ⟨filled, signs⟩ := number
    obtain ⟨digits, short⟩ := reads signs
    obtain ⟨n, writes⟩ := Text.exists_writes digits
    have all : cs.takeWhile Text.isDigit = cs := List.takeWhile_eq_self_iff.mpr (List.all_eq_true.mp digits)
    have read : rowNumber? cs = .ok (some n) := by
      rw [rowNumber?_signs filled signs, all, if_neg (Nat.not_lt.mpr short),
        (Text.readDigits?_eq_some_iff cs n).mpr writes]
    refine ⟨some n, read, ?_⟩
    intro m
    constructor
    · intro same
      cases same
      exact ⟨filled, writes⟩
    · rintro ⟨-, writes'⟩
      rw [writes.unique writes']
  · have other : cs = [] ∨ ¬ cs.all Text.isDigitLike = true := by
      by_contra neither
      exact number (not_or.mp neither |>.imp id not_not.mp)
    refine ⟨none, rowNumber?_other other, ?_⟩
    intro m
    constructor
    · intro same
      cases same
    · rintro ⟨filled, writes⟩
      exact absurd ⟨filled, isDigitLike_of_isDigit (all_isDigit_of_writes writes)⟩ number

private theorem readsDigits_of_ok {cs : List Char} {number? : Option Nat} (read : rowNumber? cs = .ok number?) :
    ReadsDigits cs := by
  intro signs
  by_cases empty : cs = []
  · subst empty
    exact ⟨rfl, Nat.zero_le _⟩
  · rw [rowNumber?_signs empty signs] at read
    split at read
    · cases read
    next few =>
      split at read
      next n found =>
        have digits := all_isDigit_of_writes ((Text.readDigits?_eq_some_iff cs n).mp found)
        have all : cs.takeWhile Text.isDigit = cs :=
          List.takeWhile_eq_self_iff.mpr (List.all_eq_true.mp digits)
        rw [all] at few
        exact ⟨digits, Nat.not_lt.mp few⟩
      · cases read

variable {stem field : String}

private theorem rest_of_namesRow {rest : List Char} (name : field.toList = (stem ++ ".").toList ++ rest)
    (number : Nat) : NamesRow stem field number ↔ rest ≠ [] ∧ Text.Writes rest number := by
  constructor
  · rintro ⟨digits, name', filled, writes⟩
    have same : digits = rest := List.append_cancel_left (name'.symm.trans name)
    subst same
    exact ⟨filled, writes⟩
  · rintro ⟨filled, writes⟩
    exact ⟨rest, name, filled, writes⟩

/-- A name that can be read is stale when it is that of a row at `count` or after. -/
theorem isStaleRow_ok (readable : IsReadable stem field) (count : Nat) :
    ∃ stale, isStaleRow stem count field = .ok stale ∧
      (stale = true ↔ ∃ number, count ≤ number ∧ NamesRow stem field number) := by
  unfold isStaleRow
  cases after : afterStem? (stem ++ ".").toList field.toList with
  | none =>
    refine ⟨false, rfl, ?_⟩
    constructor
    · intro never
      cases never
    · rintro ⟨number, -, digits, name, -⟩
      rw [afterStem?_eq_some_iff.mpr name] at after
      cases after
  | some rest =>
    have name := afterStem?_eq_some_iff.mp after
    obtain ⟨number?, read, reads⟩ := rowNumber?_ok (readable rest name)
    refine ⟨number?.any (count ≤ ·), by simp [read, Except.map], ?_⟩
    constructor
    · intro stale
      obtain ⟨number, found, late⟩ := (Option.any_eq_true _ _).mp stale
      exact ⟨number, of_decide_eq_true late, (rest_of_namesRow name number).mpr ((reads number).mp found)⟩
    · rintro ⟨number, late, names⟩
      have found := (reads number).mpr ((rest_of_namesRow name number).mp names)
      exact (Option.any_eq_true _ _).mpr ⟨number, found, decide_eq_true late⟩

theorem isReadable_of_ok {count : Nat} {stale : Bool} (read : isStaleRow stem count field = .ok stale) :
    IsReadable stem field := by
  intro rest name
  rw [isStaleRow, afterStem?_eq_some_iff.mpr name] at read
  cases number : rowNumber? rest with
  | error failure => simp [number, Except.map] at read
  | ok number? => exact readsDigits_of_ok number

end Stale

end DatasetForm.Form
