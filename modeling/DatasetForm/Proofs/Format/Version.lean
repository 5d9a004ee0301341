import DatasetForm.Format.Version
import DatasetForm.Proofs.Text.Digit
import DatasetForm.Proofs.Text.Split
import DatasetForm.Proofs.Value.Part

/-!
The grammar of version numbers, over any notion of a digit. Reading a version at its first plus sign, then at the first
hyphen before it and then at its dots accepts what the grammar makes (`isVersion_iff`), since numbers hold neither mark and
parts of a pre-release no plus sign.
-/

set_option autoImplicit false
set_option relaxedAutoImplicit false

namespace DatasetForm

namespace Format

open Text (isDigit isAlnum isLetter cutAt splitAt joinRuns marked trim IsJoined)

section Grammar

variable (digit : Char → Bool)

/-- A zero, or digits of which the first is one of 1 to 9. -/
inductive IsVersionNumber : List Char → Prop
  | zero : IsVersionNumber ['0']
  | positive {first : Char} {rest : List Char} : '1' ≤ first → first ≤ '9' → (∀ c ∈ rest, digit c = true) →
      IsVersionNumber (first :: rest)

/-- A part of a pre-release: a number, or digits before an ASCII letter or a hyphen and what may follow these. -/
inductive IsPreReleasePart : List Char → Prop
  | number {cs : List Char} : IsVersionNumber digit cs → IsPreReleasePart cs
  | word {digits rest : List Char} {c : Char} : (∀ d ∈ digits, digit d = true) → isLetter c = true ∨ c = '-' →
      (∀ d ∈ rest, isAlnum d = true ∨ d = '-') → IsPreReleasePart (digits ++ c :: rest)

/-- A part of build data: ASCII letters, ASCII digits and hyphens. -/
structure IsBuildPart (cs : List Char) : Prop where
  filled : cs ≠ []
  chars : ∀ c ∈ cs, isAlnum c = true ∨ c = '-'

/-- Two numbers, or three with an optional pre-release behind a hyphen and optional build data behind a plus sign. -/
inductive IsVersionText : List Char → Prop
  | short {major minor : List Char} : IsVersionNumber digit major → IsVersionNumber digit minor →
      IsVersionText (joinRuns '.' [major, minor])
  | full {major minor patch : List Char} {preRelease build : Option (List Char)} :
      IsVersionNumber digit major → IsVersionNumber digit minor → IsVersionNumber digit patch →
      (∀ parts ∈ preRelease, IsJoined '.' (IsPreReleasePart digit) parts) →
      (∀ parts ∈ build, IsJoined '.' IsBuildPart parts) →
      IsVersionText (joinRuns '.' [major, minor, patch] ++ marked '-' preRelease ++ marked '+' build)

end Grammar

/-! ## What the parts hold -/

theorem isVersionChar_iff {c : Char} : isVersionChar c = true ↔ isAlnum c = true ∨ c = '-' := by
  rw [isVersionChar, Bool.or_eq_true, beq_iff_eq]

theorem isAlnum_of_isLetter {c : Char} (letter : isLetter c = true) : isAlnum c = true := by
  rw [isLetter, Bool.or_eq_true] at letter
  rw [isAlnum, Text.isLowerAlnum, Bool.or_eq_true, Bool.or_eq_true]
  exact letter.imp_left Or.inl

theorem nonzero_iff {c : Char} : (0x31 ≤ c.toNat && c.toNat ≤ 0x39) = true ↔ '1' ≤ c ∧ c ≤ '9' := by
  rw [Bool.and_eq_true, decide_eq_true_eq, decide_eq_true_eq, Char.le_def, Char.le_def, UInt32.le_iff_toNat_le,
    UInt32.le_iff_toNat_le]
  rfl

section Members

variable {digit : Char → Bool} {cs : List Char} {c : Char}

theorem isAlnum_of_nonzero (least : '1' ≤ c) (most : c ≤ '9') : isAlnum c = true := by
  have code := nonzero_iff.mpr ⟨least, most⟩
  rw [Bool.and_eq_true, decide_eq_true_eq, decide_eq_true_eq] at code
  have low : 0x30 ≤ c.toNat := by omega
  simp [isAlnum, Text.isLowerAlnum, low, code.2]

theorem IsVersionNumber.mem (number : IsVersionNumber digit cs) (member : c ∈ cs) :
    digit c = true ∨ isAlnum c = true := by
  cases number with
  | zero =>
    rw [List.mem_singleton.mp member]
    exact .inr (by decide)
  | positive least most digits =>
    rcases List.mem_cons.mp member with rfl | later
    · exact .inr (isAlnum_of_nonzero least most)
    · exact .inl (digits c later)

theorem IsPreReleasePart.mem (part : IsPreReleasePart digit cs) (member : c ∈ cs) :
    digit c = true ∨ isAlnum c = true ∨ c = '-' := by
  cases part with
  | number number => exact (number.mem member).imp_right Or.inl
  | word digits mark rest =>
    rcases List.mem_append.mp member with before | after
    · exact .inl (digits c before)
    · rcases List.mem_cons.mp after with rfl | later
      · exact .inr (mark.imp_left isAlnum_of_isLetter)
      · exact .inr (rest c later)

private theorem mem_numbers {parts : List (List Char)} (numbers : ∀ part ∈ parts, IsVersionNumber digit part)
    (member : c ∈ joinRuns '.' parts) : digit c = true ∨ isAlnum c = true ∨ c ∈ ['.', '-', '+'] := by
  rcases Text.mem_joinRuns member with rfl | ⟨part, found, inside⟩
  · exact .inr (.inr (by decide))
  · exact ((numbers part found).mem inside).imp_right Or.inl

/-- What a suffix holds is its mark, dots and what its parts hold. -/
private theorem mem_suffix {mark : Char} {IsPart : List Char → Prop} {suffix : Option (List Char)}
    (each : ∀ parts ∈ suffix, IsJoined '.' IsPart parts) (member : c ∈ marked mark suffix) :
    c = mark ∨ c = '.' ∨ ∃ part, IsPart part ∧ c ∈ part := by
  cases suffix with
  | none => cases member
  | some parts => exact (List.mem_cons.mp member).imp_right (each parts rfl).mem

theorem IsVersionText.mem (version : IsVersionText digit cs) (member : c ∈ cs) :
    digit c = true ∨ isAlnum c = true ∨ c ∈ ['.', '-', '+'] := by
  cases version with
  | short major minor => exact mem_numbers (by simp [major, minor]) member
  | full major minor patch preRelease build =>
    rcases List.mem_append.mp member with before | inBuild
    · rcases List.mem_append.mp before with inNumbers | inPreRelease
      · exact mem_numbers (by simp [major, minor, patch]) inNumbers
      · rcases mem_suffix preRelease inPreRelease with rfl | rfl | ⟨part, form, inside⟩
        · exact .inr (.inr (by decide))
        · exact .inr (.inr (by decide))
        · exact (form.mem inside).imp_right (Or.imp_right fun hyphen => by simp [hyphen])
    · rcases mem_suffix build inBuild with rfl | rfl | ⟨part, form, inside⟩
      · exact .inr (.inr (by decide))
      · exact .inr (.inr (by decide))
      · exact .inr ((form.chars c inside).imp_right fun hyphen => by simp [hyphen])

/-- A character that is neither a digit nor a letter, nor a hyphen, is in no part. -/
theorem IsVersionNumber.not_mem (number : IsVersionNumber isDigit cs) (notDigit : isDigit c = false)
    (notAlnum : isAlnum c = false) : c ∉ cs := by
  intro member
  rcases number.mem member with digit | alnum
  · exact Bool.false_ne_true (notDigit.symm.trans digit)
  · exact Bool.false_ne_true (notAlnum.symm.trans alnum)

theorem IsPreReleasePart.not_mem (part : IsPreReleasePart isDigit cs) (notDigit : isDigit c = false)
    (notAlnum : isAlnum c = false) (notHyphen : c ≠ '-') : c ∉ cs := by
  intro member
  rcases part.mem member with digit | alnum | hyphen
  · exact Bool.false_ne_true (notDigit.symm.trans digit)
  · exact Bool.false_ne_true (notAlnum.symm.trans alnum)
  · exact notHyphen hyphen

theorem IsBuildPart.not_mem (part : IsBuildPart cs) (notAlnum : isAlnum c = false) (notHyphen : c ≠ '-') : c ∉ cs := by
  intro member
  rcases part.chars c member with alnum | hyphen
  · exact Bool.false_ne_true (notAlnum.symm.trans alnum)
  · exact notHyphen hyphen

end Members

/-! ## Reading the parts -/

theorem isVersionNumber_iff {cs : List Char} : isVersionNumber cs = true ↔ IsVersionNumber isDigit cs := by
  cases cs with
  | nil =>
    constructor
    · intro never
      cases never
    · intro never
      cases never
  | cons first rest =>
    rw [isVersionNumber, Bool.or_eq_true, Bool.and_eq_true, Bool.and_eq_true, nonzero_iff, List.all_eq_true, beq_iff_eq,
      List.isEmpty_iff]
    constructor
    · rintro (⟨rfl, rfl⟩ | ⟨⟨least, most⟩, digits⟩)
      · exact .zero
      · exact .positive least most digits
    · intro number
      cases number with
      | zero => exact .inl ⟨rfl, rfl⟩
      | positive least most digits => exact .inr ⟨⟨least, most⟩, digits⟩

private theorem isDigit_of_isLetter {c : Char} (letter : isLetter c = true) : isDigit c = false := by
  rw [isLetter, Text.isCapital, Bool.or_eq_true, Bool.and_eq_true, Bool.and_eq_true] at letter
  simp only [decide_eq_true_eq] at letter
  have ascii : c.toNat < 0x80 := by omega
  rw [Bool.eq_false_iff]
  intro digit
  have range := Text.isAsciiDigit_iff.mp (Text.isAsciiDigit_of_ascii ascii digit)
  omega

theorem isVersionWord_iff {cs : List Char} :
    isVersionWord cs = true ↔ ∃ digits c rest, (∀ d ∈ digits, isDigit d = true) ∧ (isLetter c = true ∨ c = '-') ∧
      (∀ d ∈ rest, isAlnum d = true ∨ d = '-') ∧ cs = digits ++ c :: rest := by
  constructor
  · intro word
    rw [isVersionWord] at word
    split at word
    · cases word
    next c rest dropped =>
      rw [Bool.and_eq_true, Bool.or_eq_true, beq_iff_eq, List.all_eq_true] at word
      refine ⟨cs.takeWhile isDigit, c, rest, fun d member => List.mem_takeWhile_imp member, word.1, ?_, ?_⟩
      · intro d member
        exact isVersionChar_iff.mp (word.2 d member)
      · rw [← dropped, List.takeWhile_append_dropWhile]
  · rintro ⟨digits, c, rest, digit, mark, chars, rfl⟩
    have ends : isDigit c = false := by
      rcases mark with letter | rfl
      · exact isDigit_of_isLetter letter
      · decide
    rw [isVersionWord, List.dropWhile_append_of_pos digit, List.dropWhile_cons, ends, if_neg Bool.false_ne_true]
    simp only [Bool.and_eq_true, Bool.or_eq_true, beq_iff_eq, List.all_eq_true]
    exact ⟨mark, fun d member => isVersionChar_iff.mpr (chars d member)⟩

theorem isPreReleasePart_iff {cs : List Char} : isPreReleasePart cs = true ↔ IsPreReleasePart isDigit cs := by
  rw [isPreReleasePart, Bool.or_eq_true, isVersionNumber_iff, isVersionWord_iff]
  constructor
  · rintro (number | ⟨digits, c, rest, digit, mark, chars, rfl⟩)
    · exact .number number
    · exact .word digit mark chars
  · intro part
    cases part with
    | number number => exact .inl number
    | word digit mark chars => exact .inr ⟨_, _, _, digit, mark, chars, rfl⟩

theorem isBuildPart_iff {cs : List Char} : isBuildPart cs = true ↔ IsBuildPart cs := by
  rw [isBuildPart, Bool.and_eq_true, Bool.not_eq_true', List.isEmpty_eq_false_iff, List.all_eq_true]
  simp only [isVersionChar_iff]
  exact ⟨fun ⟨filled, chars⟩ => ⟨filled, chars⟩, fun part => ⟨part.filled, part.chars⟩⟩

theorem suffixHolds_iff {isPart : List Char → Bool} {IsPart : List Char → Prop}
    (reads : ∀ part, isPart part = true ↔ IsPart part) (free : ∀ part, IsPart part → '.' ∉ part)
    (suffix : Option (List Char)) :
    suffixHolds isPart suffix = true ↔ ∀ parts ∈ suffix, IsJoined '.' IsPart parts := by
  cases suffix with
  | none =>
    constructor
    · intro _ parts missing
      cases missing
    · intro _
      rfl
  | some cs =>
    rw [suffixHolds, List.all_eq_true]
    simp only [reads, Option.mem_def, Option.some.injEq, forall_eq']
    exact (Text.isJoined_iff free).symm

/-! ## Reading the whole -/

/-- What is asked of a text that is cut at its marks and dots. -/
def versionHolds (preRelease build : Option (List Char)) : List (List Char) → Bool
  | [major, minor] => isVersionNumber major && isVersionNumber minor && preRelease.isNone && build.isNone
  | [major, minor, patch] =>
    isVersionNumber major && isVersionNumber minor && isVersionNumber patch &&
      suffixHolds isPreReleasePart preRelease && suffixHolds isBuildPart build
  | _ => false

/-- Numbers without marks in them are read up to the first mark. -/
theorem isVersion_marked {numbers : List Char} {preRelease : Option (List Char)} (noHyphen : '-' ∉ numbers)
    (noPlus : '+' ∉ numbers ++ marked '-' preRelease) (build : Option (List Char)) :
    isVersion (numbers ++ marked '-' preRelease ++ marked '+' build) =
      versionHolds preRelease build (splitAt '.' numbers) := by
  have core : cutAt '+' (numbers ++ marked '-' preRelease ++ marked '+' build) =
      (numbers ++ marked '-' preRelease, build) := Text.cutAt_eq_iff.mpr ⟨noPlus, rfl⟩
  have cut : cutAt '-' (numbers ++ marked '-' preRelease) = (numbers, preRelease) :=
    Text.cutAt_eq_iff.mpr ⟨noHyphen, rfl⟩
  rw [isVersion, core]
  simp only [cut]
  rfl

/-- Every text can be read so. -/
theorem exists_marked (cs : List Char) : ∃ numbers preRelease build, '-' ∉ numbers ∧
    '+' ∉ numbers ++ marked '-' preRelease ∧ cs = numbers ++ marked '-' preRelease ++ marked '+' build := by
  rcases cut : cutAt '+' cs with ⟨core, build⟩
  rcases cut' : cutAt '-' core with ⟨numbers, preRelease⟩
  obtain ⟨noPlus, rfl⟩ := Text.cutAt_eq_iff.mp cut
  obtain ⟨noHyphen, rfl⟩ := Text.cutAt_eq_iff.mp cut'
  exact ⟨numbers, preRelease, build, noHyphen, noPlus, rfl⟩

/-- Numbers hold no marks, so that only the pre-release has to be looked at for a plus sign. -/
theorem isVersion_joinRuns {parts : List (List Char)} {preRelease : Option (List Char)} (filled : parts ≠ [])
    (numbers : ∀ part ∈ parts, IsVersionNumber isDigit part) (noPlus : '+' ∉ marked '-' preRelease)
    (build : Option (List Char)) :
    isVersion (joinRuns '.' parts ++ marked '-' preRelease ++ marked '+' build) = versionHolds preRelease build parts := by
  have marks : ∀ mark ∈ ['.', '-', '+'], isDigit mark = false ∧ isAlnum mark = false := by decide
  have free : ∀ mark ∈ ['.', '-', '+'], ∀ part ∈ parts, mark ∉ part := by
    intro mark member part found
    exact (numbers part found).not_mem (marks mark member).1 (marks mark member).2
  have noHyphen : '-' ∉ joinRuns '.' parts := Text.not_mem_joinRuns (by decide) (free '-' (by decide))
  have noPlus' : '+' ∉ joinRuns '.' parts ++ marked '-' preRelease := by
    rw [List.mem_append, not_or]
    exact ⟨Text.not_mem_joinRuns (by decide) (free '+' (by decide)), noPlus⟩
  rw [isVersion_marked noHyphen noPlus', Text.splitAt_joinRuns filled (free '.' (by decide))]

private theorem suffixHolds_preRelease (suffix : Option (List Char)) :
    suffixHolds isPreReleasePart suffix = true ↔ ∀ parts ∈ suffix, IsJoined '.' (IsPreReleasePart isDigit) parts := by
  apply suffixHolds_iff fun _ => isPreReleasePart_iff
  intro part form
  exact form.not_mem (by decide) (by decide) (by decide)

private theorem suffixHolds_build (suffix : Option (List Char)) :
    suffixHolds isBuildPart suffix = true ↔ ∀ parts ∈ suffix, IsJoined '.' IsBuildPart parts := by
  apply suffixHolds_iff fun _ => isBuildPart_iff
  intro part form
  exact form.not_mem (by decide) (by decide)

/-- No plus sign stands in a pre-release, so that the first one begins the build data. -/
private theorem plus_not_mem_marked {preRelease : Option (List Char)}
    (each : ∀ parts ∈ preRelease, IsJoined '.' (IsPreReleasePart isDigit) parts) : '+' ∉ marked '-' preRelease := by
  intro member
  rcases mem_suffix each member with mark | dot | ⟨part, form, inside⟩
  · exact absurd mark (by decide)
  · exact absurd dot (by decide)
  · exact form.not_mem (by decide) (by decide) (by decide) inside

theorem isVersion_iff {cs : List Char} : isVersion cs = true ↔ IsVersionText isDigit cs := by
  constructor
  · intro version
    obtain ⟨numbers, preRelease, build, noHyphen, noPlus, rfl⟩ := exists_marked cs
    rw [isVersion_marked noHyphen noPlus] at version
    unfold versionHolds at version
    split at version
    next major minor split =>
      simp only [Bool.and_eq_true, isVersionNumber_iff, Option.isNone_iff_eq_none] at version
      obtain ⟨⟨⟨major_ok, minor_ok⟩, rfl⟩, rfl⟩ := version
      obtain ⟨-, -, rfl⟩ := Text.splitAt_eq_iff.mp split
      rw [marked, marked, List.append_nil, List.append_nil]
      exact .short major_ok minor_ok
    next major minor patch split =>
      simp only [Bool.and_eq_true, isVersionNumber_iff, suffixHolds_preRelease, suffixHolds_build] at version
      obtain ⟨⟨⟨⟨major_ok, minor_ok⟩, patch_ok⟩, preRelease_ok⟩, build_ok⟩ := version
      obtain ⟨-, -, rfl⟩ := Text.splitAt_eq_iff.mp split
      exact .full major_ok minor_ok patch_ok preRelease_ok build_ok
    · cases version
  · intro text
    cases text with
    | @short major minor major_ok minor_ok =>
      have numbers : ∀ part ∈ [major, minor], IsVersionNumber isDigit part := by simp [major_ok, minor_ok]
      have noPlus : '+' ∉ marked '-' none := List.not_mem_nil
      have read := isVersion_joinRuns (by simp) numbers noPlus none
      rw [marked, marked, List.append_nil, List.append_nil] at read
      simp [read, versionHolds, isVersionNumber_iff, major_ok, minor_ok]
    | @full major minor patch preRelease build major_ok minor_ok patch_ok preRelease_ok build_ok =>
      have numbers : ∀ part ∈ [major, minor, patch], IsVersionNumber isDigit part := by
        simp [major_ok, minor_ok, patch_ok]
      rw [isVersion_joinRuns (by simp) numbers (plus_not_mem_marked preRelease_ok), versionHolds]
      simp only [Bool.and_eq_true, isVersionNumber_iff, suffixHolds_preRelease, suffixHolds_build]
      exact ⟨⟨⟨⟨major_ok, minor_ok⟩, patch_ok⟩, preRelease_ok⟩, build_ok⟩

/-! ## Accepted versions -/

theorem isAccepted_checkVersion_iff (text : String) :
    (checkVersion (.text text)).isAccepted = true ↔
      trim text.toList = [] ∨ IsVersionText isDigit (trim text.toList) := by
  rw [← isBlank_text_iff, ← isVersion_iff, ← toList_trimmedText, ← Bool.or_eq_true, checkVersion]
  cases (Value.text text).isBlank || isVersion (Value.text text).trimmedText.toList with
  | true => simp [Verdict.isAccepted]
  | false => simp [Verdict.isAccepted]

/-- A suffix behind two numbers is a pre-release, build data or both, and none of them may stand there. -/
theorem isVersion_short_suffixed {major minor : List Char} (major_ok : IsVersionNumber isDigit major)
    (minor_ok : IsVersionNumber isDigit minor) {mark : Char} (marks : mark = '-' ∨ mark = '+') (suffix : List Char) :
    isVersion (joinRuns '.' [major, minor] ++ mark :: suffix) = false := by
  have numbers : ∀ part ∈ [major, minor], IsVersionNumber isDigit part := by simp [major_ok, minor_ok]
  rcases marks with rfl | rfl
  · -- The pre-release ends at the first plus sign of the suffix.
    rcases cut : cutAt '+' suffix with ⟨preRelease, build⟩
    obtain ⟨free, rfl⟩ := Text.cutAt_eq_iff.mp cut
    have noPlus : '+' ∉ marked '-' (some preRelease) := by
      rw [marked, List.mem_cons, not_or]
      exact ⟨by decide, free⟩
    simpa [marked, versionHolds] using isVersion_joinRuns (by simp) numbers noPlus build
  · have noPlus : '+' ∉ marked '-' none := List.not_mem_nil
    simpa [marked, versionHolds] using isVersion_joinRuns (by simp) numbers noPlus (some suffix)

/-- A version is accepted exactly when it is blank or written by the grammar, whose digits are those of any script; two
numbers alone never carry a suffix. -/
theorem checkVersion_exact :
    (∀ text : String, (checkVersion (.text text)).isAccepted = true ↔
      trim text.toList = [] ∨ IsVersionText isDigit (trim text.toList)) ∧
    ∀ (text : String) (major minor suffix : List Char) (mark : Char), IsVersionNumber isDigit major →
      IsVersionNumber isDigit minor → mark = '-' ∨ mark = '+' →
      trim text.toList = joinRuns '.' [major, minor] ++ mark :: suffix →
        (checkVersion (.text text)).isAccepted = false := by
  refine ⟨isAccepted_checkVersion_iff, ?_⟩
  intro text major minor suffix mark major_ok minor_ok marks written
  have filled : trim text.toList ≠ [] := by simp [written]
  have unread := isVersion_short_suffixed major_ok minor_ok marks suffix
  rw [Bool.eq_false_iff, Ne, isAccepted_checkVersion_iff, ← isVersion_iff, written, unread]
  simp

theorem checkVersion_exact_candidates :
    (checkVersion (.text " 1.0.0-rc.1+build.05 ")).isAccepted = true ∧
      (checkVersion (.text "1.0-rc.1")).isAccepted = false := by
  have one : IsVersionNumber isDigit ['1'] := .positive (by decide) (by decide) (by simp)
  have naught : IsVersionNumber isDigit ['0'] := .zero
  constructor
  · refine (checkVersion_exact.1 _).mpr (.inr ?_)
    have trimmed : trim " 1.0.0-rc.1+build.05 ".toList =
        joinRuns '.' [['1'], ['0'], ['0']] ++ marked '-' (some (joinRuns '.' [['r', 'c'], ['1']])) ++
          marked '+' (some (joinRuns '.' [['b', 'u', 'i', 'l', 'd'], ['0', '5']])) := by
      decide
    have word : IsPreReleasePart isDigit ([] ++ 'r' :: ['c']) := .word (by simp) (.inl (by decide)) (by decide)
    rw [trimmed]
    refine .full one naught naught ?_ ?_
    · rintro _ ⟨⟩
      exact ⟨_, by simp, by simpa using ⟨word, IsPreReleasePart.number one⟩, rfl⟩
    · rintro _ ⟨⟩
      exact ⟨_, by simp, by simpa using ⟨⟨by simp, by decide⟩, ⟨by simp, by decide⟩⟩, rfl⟩
  · exact checkVersion_exact.2 _ ['1'] ['0'] ['r', 'c', '.', '1'] '-' one naught (.inl rfl) (by decide)

end Format

end DatasetForm
