import DatasetForm.Proofs.Address.Parts
import DatasetForm.Proofs.Text.Ascii

/-!
The scheme and the authority of a web address as it stands, beside what is read of it. Controls at the beginning and
tabs and line ends anywhere are left out in reading, so that an address begins as it is read exactly when its first
characters hold none of them (`withoutNoise_eq_append_iff`). An authority without fault names a host exactly when
something other than a colon follows its last at sign (`hostOf_ne_nil_iff`).
-/

set_option autoImplicit false
set_option relaxedAutoImplicit false

namespace DatasetForm

theorem Text.isLetter_of_lowerAscii {c : Char} (small : 0x61 ≤ (lowerAscii c).toNat ∧ (lowerAscii c).toNat ≤ 0x7A) :
    isLetter c = true := by
  cases capital : isCapital c with
  | true => rw [isLetter, capital, Bool.or_true]
  | false =>
    rw [isCapital] at capital
    rw [lowerAscii, capital, if_neg Bool.false_ne_true] at small
    simp [isLetter, small]

namespace Address

open Text (lowerAscii cutAt afterLast)

/-- The host that an authority names: it follows the last at sign, and stands in brackets or before the colon of a
port. -/
def hostOf (authority : List Char) : List Char :=
  match cutAt '[' (afterLast '@' authority) with
  | (_, some bracketed) => (cutAt ']' bracketed).1
  | (hostAndPort, none) => (cutAt ':' hostAndPort).1

variable {cs front tail rest : List Char}

/-! ## What is left out -/

private theorem isLeadingNoise_of_isNoise {c : Char} (noise : isNoise c = true) : isLeadingNoise c = true := by
  simp only [isNoise, Bool.or_eq_true, beq_iff_eq] at noise
  rcases noise with (rfl | rfl) | rfl <;> rfl

/-- The characters are neither controls nor spaces. -/
def IsClear (cs : List Char) : Prop :=
  ∀ c ∈ cs, isLeadingNoise c = false

theorem withoutNoise_append (clear : IsClear front) (filled : front ≠ []) (rest : List Char) :
    withoutNoise (front ++ rest) = front ++ rest.filter (!isNoise ·) := by
  have kept : front.filter (!isNoise ·) = front := by
    refine List.filter_eq_self.mpr fun c member => ?_
    rw [Bool.not_eq_true', Bool.eq_false_iff]
    intro noise
    have never := clear c member
    rw [isLeadingNoise_of_isNoise noise] at never
    cases never
  have first : (front ++ rest).dropWhile isLeadingNoise = front ++ rest := by
    cases front with
    | nil => exact absurd rfl filled
    | cons c front => rw [List.cons_append, List.dropWhile_cons_of_neg (by simp [clear c List.mem_cons_self])]
  rw [withoutNoise, first, List.filter_append, kept]

theorem length_withoutNoise_le (cs : List Char) : (withoutNoise cs).length ≤ cs.length :=
  (List.length_filter_le _ _).trans (List.dropWhile_sublist _).length_le

/-- An address begins as it is read when its first characters are clear. -/
theorem withoutNoise_eq_append_iff (filled : front ≠ []) (clear : IsClear front) :
    (withoutNoise cs = front ++ tail ∧ IsClear (cs.take front.length)) ↔
      ∃ rest, cs = front ++ rest ∧ tail = rest.filter (!isNoise ·) := by
  constructor
  · rintro ⟨read, begins⟩
    have long : front.length ≤ cs.length := by
      have shorter := length_withoutNoise_le cs
      rw [read, List.length_append] at shorter
      omega
    have length : (cs.take front.length).length = front.length := List.length_take_of_le long
    have filled' : cs.take front.length ≠ [] := by
      rw [← List.length_pos_iff, length]
      exact List.length_pos_iff.mpr filled
    have read' := withoutNoise_append begins filled' (cs.drop front.length)
    rw [List.take_append_drop, read] at read'
    obtain ⟨same, rest⟩ := List.append_inj read' length.symm
    refine ⟨cs.drop front.length, ?_, rest⟩
    exact (List.take_append_drop front.length cs).symm.trans (congrArg (· ++ _) same.symm)
  · rintro ⟨rest, rfl, rfl⟩
    rw [List.take_left]
    exact ⟨withoutNoise_append clear filled rest, clear⟩

/-! ## Scheme and authority -/

theorem exists_of_splitScheme {scheme : List Char} (split : splitScheme cs = (scheme, rest)) (filled : scheme ≠ []) :
    ∃ written, cs = written ++ ':' :: rest ∧ written.map lowerAscii = scheme := by
  rw [splitScheme] at split
  split at split
  next written after cut =>
    split at split
    · cases split
      exact ⟨written, Text.eq_append_of_cutAt cut, rfl⟩
    · cases split
      exact absurd rfl filled
  · cases split
    exact absurd rfl filled

/-- What ends an authority is never left out. -/
theorem takeWhile_filter_noise (cs : List Char) :
    (cs.filter (!isNoise ·)).takeWhile (!endsAuthority ·) =
      (cs.takeWhile (!endsAuthority ·)).filter (!isNoise ·) := by
  induction cs with
  | nil => rfl
  | cons c cs ih =>
    cases ends : endsAuthority c with
    | true =>
      have stays : isNoise c = false := by
        simp only [endsAuthority, Bool.or_eq_true, beq_iff_eq] at ends
        rcases ends with (rfl | rfl) | rfl <;> rfl
      simp [stays, ends]
    | false => cases noise : isNoise c <;> simp [noise, ends, ih]

theorem exists_of_authorityOf (filled : authorityOf cs ≠ []) :
    ∃ rest, cs = '/' :: '/' :: rest ∧ authorityOf cs = rest.takeWhile (!endsAuthority ·) := by
  unfold authorityOf at filled ⊢
  split at filled
  next rest => exact ⟨rest, rfl, rfl⟩
  · exact absurd rfl filled

/-! ## Hosts -/

/-- No host without a fault is empty. -/
private theorem ne_nil_of_hostFault? {host : List Char} (sound : hostFault? host = none) : host ≠ [] := by
  rintro rfl
  exact absurd sound (by decide)

/-- In an authority without fault that has a bracket, what stands in brackets has none. -/
private theorem bracketFault?_of_authorityFault? {authority : List Char} (sound : authorityFault? authority = none)
    (opens : '[' ∈ authority) : bracketFault? authority = none := by
  rw [authorityFault?, List.contains_iff_mem.mpr opens] at sound
  cases closes : authority.contains ']' with
  | false =>
    rw [closes] at sound
    cases sound
  | true =>
    rw [closes] at sound
    cases found : bracketFault? authority with
    | none => rfl
    | some fault =>
      rw [found] at sound
      cases sound

/-- Brackets without a fault begin what follows the last at sign, and hold a host. -/
private theorem of_bracketed {authority before bracketed : List Char}
    (cut : cutAt '[' (afterLast '@' authority) = (before, some bracketed)) (sound : authorityFault? authority = none) :
    before = [] ∧ (cutAt ']' bracketed).1 ≠ [] := by
  have opens : '[' ∈ authority := by
    refine Text.afterLast_subset '@' authority ?_
    rw [Text.eq_append_of_cutAt cut]
    exact List.mem_append_right _ List.mem_cons_self
  have faultless := bracketFault?_of_authorityFault? sound opens
  rw [bracketFault?, cut] at faultless
  dsimp only at faultless
  split at faultless
  · cases faultless
  next empty =>
    refine ⟨by simpa using empty, ne_nil_of_hostFault? ?_⟩
    split at faultless
    · exact faultless
    · split at faultless
      · exact faultless
      · cases faultless

/-- Without a fault, an authority names a host exactly when something other than the colon of a port follows its last
at sign. -/
theorem hostOf_ne_nil_iff {authority : List Char} (sound : authorityFault? authority = none) :
    hostOf authority ≠ [] ↔ ∃ c, (afterLast '@' authority).head? = some c ∧ c ≠ ':' := by
  rw [hostOf]
  cases cut : cutAt '[' (afterLast '@' authority) with
  | mk before after =>
    cases after with
    | none =>
      rw [Text.eq_of_cutAt_none cut]
      cases before with
      | nil => simp [cutAt]
      | cons c before => by_cases colon : c = ':' <;> simp [cutAt, colon]
    | some bracketed =>
      obtain ⟨rfl, filled⟩ := of_bracketed cut sound
      rw [Text.eq_append_of_cutAt cut]
      exact iff_of_true filled ⟨'[', rfl, by decide⟩

end Address

end DatasetForm
