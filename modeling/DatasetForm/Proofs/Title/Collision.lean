import DatasetForm.Proofs.Text.Ascii
import DatasetForm.Proofs.Text.Collapse
import DatasetForm.Proofs.Title.Key

/-!
Collisions of titles. The key of a title is its folded normal form with one space for each gap and none at the ends
(`keyChars_eq_stripped`). In ASCII the normal form is the text itself and folding it is lower case, so that two titles
have one key exactly when they split at white space into the same words up to case (`key_eq_iff_of_ascii`).
-/

set_option autoImplicit false
set_option relaxedAutoImplicit false

namespace DatasetForm

namespace Text

variable {c d : Char} {cs : List Char}

/-! ## Normal form and folding in ASCII -/

theorem decomposeCompatibly_of_ascii (ascii : c.toNat < 0x80) : decomposeCompatibly c = [c] := by
  have whole : compatibleParts? c = none := by
    rw [compatibleParts?, if_pos (by omega)]
  exact expandWith_of_whole whole 3

theorem combiningClass_of_ascii (ascii : c.toNat < 0x80) : combiningClass c = 0 := by
  rw [combiningClass, if_pos (by omega)]

theorem composite?_of_ascii (ascii : d.toNat < 0x80) : composite? c d = none := by
  rw [composite?, if_pos (by omega)]

private theorem isOrdered_of_ascii (ascii : ∀ c ∈ cs, c.toNat < 0x80) : IsOrdered cs := by
  induction cs with
  | nil => exact .nil
  | cons c cs ih =>
    rw [List.forall_mem_cons] at ascii
    cases cs with
    | nil => exact .singleton c
    | cons d cs =>
      exact .cons_cons (.inl (combiningClass_of_ascii (ascii.2 d List.mem_cons_self))) (ih ascii.2)

private theorem composeFrom_of_ascii (ascii : ∀ d ∈ cs, d.toNat < 0x80) (base : Char) :
    composeFrom base [] cs = base :: cs := by
  induction cs generalizing base with
  | nil => rfl
  | cons d cs ih =>
    rw [List.forall_mem_cons] at ascii
    rw [composeFrom, composite?_of_ascii ascii.1, combiningClass_of_ascii ascii.1]
    exact congrArg (base :: ·) (ih ascii.2 d)

/-- A text in ASCII is in normal form. -/
theorem normalKC_of_ascii (ascii : ∀ c ∈ cs, c.toNat < 0x80) : normalKC cs = cs := by
  have whole : cs.flatMap decomposeCompatibly = cs := by
    rw [List.flatMap_congr fun c member => decomposeCompatibly_of_ascii (ascii c member), List.flatMap_singleton']
  rw [normalKC, whole, reorder_eq_self (isOrdered_of_ascii ascii)]
  cases cs with
  | nil => rfl
  | cons c cs =>
    rw [List.forall_mem_cons] at ascii
    rw [compose, combiningClass_of_ascii ascii.1]
    exact composeFrom_of_ascii ascii.2 c

/-- Folding a text in ASCII is lower case. -/
theorem fold_of_ascii (ascii : ∀ c ∈ cs, c.toNat < 0x80) : fold cs = cs.map lowerAscii := by
  have each : ∀ c ∈ cs, foldChar c = [lowerAscii c] := fun c member => by
    rw [foldChar, if_pos (ascii c member)]
  rw [fold, List.flatMap_congr each, List.map_eq_flatMap]

/-! ## Letters up to case -/

/-- The characters are the same, or one is the capital of the other. -/
inductive SameLetter : Char → Char → Prop
  | same (c : Char) : SameLetter c c
  | small {c d : Char} (capital : isCapital c = true) (lower : d.toNat = c.toNat + 0x20) : SameLetter c d
  | capital {c d : Char} (capital : isCapital d = true) (lower : c.toNat = d.toNat + 0x20) : SameLetter c d

private theorem toNat_lowerAscii (c : Char) :
    (lowerAscii c).toNat = if isCapital c then c.toNat + 0x20 else c.toNat := by
  rw [lowerAscii, ← isCapital]
  split
  next capital =>
    simp only [isCapital, Bool.and_eq_true, decide_eq_true_eq] at capital
    exact toNat_ofNat (by omega)
  · rfl

theorem sameLetter_iff : SameLetter c d ↔ lowerAscii c = lowerAscii d := by
  have code : lowerAscii c = lowerAscii d ↔ (lowerAscii c).toNat = (lowerAscii d).toNat := Char.toNat_inj.symm
  rw [code, toNat_lowerAscii, toNat_lowerAscii]
  have range (e : Char) : isCapital e = true ↔ 0x41 ≤ e.toNat ∧ e.toNat ≤ 0x5A := by simp [isCapital]
  constructor
  · rintro (_ | ⟨capital, lower⟩ | ⟨capital, lower⟩)
    · rfl
    · have other : ¬isCapital d = true := by
        rw [range] at capital ⊢
        omega
      rw [if_pos capital, if_neg other, lower]
    · have other : ¬isCapital c = true := by
        rw [range] at capital ⊢
        omega
      rw [if_pos capital, if_neg other, lower]
  · intro same
    split at same
    next capital =>
      split at same
      · rw [Char.toNat_inj.mp (Nat.add_right_cancel same)]
        exact .same d
      · exact .small capital same.symm
    · split at same
      next capital => exact .capital capital same
      · rw [Char.toNat_inj.mp same]
        exact .same d

/-- The words are the same up to case. -/
def SameWord (word other : List Char) : Prop :=
  List.Forall₂ SameLetter word other

private theorem forall₂_iff_map_eq {α β : Type} {related : α → α → Prop} (f : α → β)
    (each : ∀ a b, related a b ↔ f a = f b) {items others : List α} :
    List.Forall₂ related items others ↔ items.map f = others.map f := by
  have same : related = fun a b => f a = f b := funext₂ fun a b => propext (each a b)
  rw [← List.forall₂_eq_eq_eq, List.forall₂_map_left_iff, List.forall₂_map_right_iff, same]

theorem sameWord_iff {word other : List Char} : SameWord word other ↔ word.map lowerAscii = other.map lowerAscii :=
  forall₂_iff_map_eq lowerAscii fun _ _ => sameLetter_iff

theorem forall₂_sameWord_iff {words others : List (List Char)} :
    List.Forall₂ SameWord words others ↔ words.map (List.map lowerAscii) = others.map (List.map lowerAscii) :=
  forall₂_iff_map_eq (List.map lowerAscii) fun _ _ => sameWord_iff

end Text

namespace Title

open Text (SplitsInto SameWord isBlank lowerAscii collapse stripped)

/-- The key is the folded normal form with one space for every gap and none at the ends. -/
theorem keyChars_eq_stripped (cs : List Char) :
    keyChars cs = Text.trim (collapse isBlank ' ' (Text.fold (Text.normalKC cs))) :=
  (Text.stripped_collapse rfl _).symm

/-- Keys are equal when the words in them are. -/
private theorem joinRuns_words_inj {cs ds : List Char} :
    Text.joinRuns ' ' (Text.words cs) = Text.joinRuns ' ' (Text.words ds) ↔ Text.words cs = Text.words ds := by
  have apart (es : List Char) : Text.words (Text.joinRuns ' ' (Text.words es)) = Text.words es :=
    Text.runs_joinRuns rfl fun _ => Text.isRun_of_mem_runs
  refine ⟨fun same => ?_, fun same => by rw [same]⟩
  rw [← apart cs, same, apart ds]

theorem keyChars_of_ascii {cs : List Char} (ascii : ∀ c ∈ cs, c.toNat < 0x80) :
    keyChars cs = Text.joinRuns ' ' (Text.words (cs.map lowerAscii)) := by
  rw [keyChars, Text.normalKC_of_ascii ascii, Text.fold_of_ascii ascii]

variable {title other : String}

/-- Each of two titles in ASCII splits at white space into its words in one way only, and the keys of the titles are
equal exactly when these are the same words up to case. -/
theorem key_eq_iff_of_ascii (ascii : ∀ c ∈ title.toList, c.toNat < 0x80)
    (ascii' : ∀ c ∈ other.toList, c.toNat < 0x80) :
    ∃ words words', (∀ found, SplitsInto isBlank title.toList found ↔ found = words) ∧
      (∀ found, SplitsInto isBlank other.toList found ↔ found = words') ∧
      (key title = key other ↔ List.Forall₂ SameWord words words') := by
  refine ⟨Text.words title.toList, Text.words other.toList, fun _ => Text.splitsInto_iff,
    fun _ => Text.splitsInto_iff, ?_⟩
  have lowered (cs : List Char) : Text.words (cs.map lowerAscii) = (Text.words cs).map (List.map lowerAscii) :=
    Text.runs_map Text.isBlank_lowerAscii cs
  rw [← String.toList_inj, toList_key, toList_key, keyChars_of_ascii ascii, keyChars_of_ascii ascii',
    joinRuns_words_inj, lowered, lowered, Text.forall₂_sameWord_iff]

/-- Two spellings of a title of two words, with a tab and a line end among the white space. -/
theorem key_eq_iff_of_ascii_iceCores :
    (∀ c ∈ " Ice \tCORES\n".toList, c.toNat < 0x80) ∧ (∀ c ∈ "iCE cores".toList, c.toNat < 0x80) ∧
      key " Ice \tCORES\n" = key "iCE cores" := by
  have ascii : ∀ c ∈ " Ice \tCORES\n".toList, c.toNat < 0x80 := by decide
  have ascii' : ∀ c ∈ "iCE cores".toList, c.toNat < 0x80 := by decide
  obtain ⟨words, words', first, second, same⟩ := key_eq_iff_of_ascii ascii ascii'
  have found := (first [['I', 'c', 'e'], ['C', 'O', 'R', 'E', 'S']]).mp (Text.splitsInto_iff.mpr (by decide))
  have found' := (second [['i', 'C', 'E'], ['c', 'o', 'r', 'e', 's']]).mp (Text.splitsInto_iff.mpr (by decide))
  refine ⟨ascii, ascii', same.mpr ?_⟩
  rw [← found, ← found', Text.forall₂_sameWord_iff]
  decide

end Title

end DatasetForm
