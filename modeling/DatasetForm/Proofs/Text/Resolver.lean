import DatasetForm.Proofs.Text.Ascii
import DatasetForm.Proofs.Text.Case
import DatasetForm.Text.Resolver

/-!
Resolver prefixes. A text begins with a prefix, but for the case of ASCII letters, exactly when its lower case begins with
it (`isPrefix_lowerAfter_iff`), so that looking for it in the lower case and taking it off by its length come to the same
(`dropResolver_eq_dropLowered`). Where no prefix begins with another, the one that was put before a text is taken off.
-/

set_option autoImplicit false
set_option relaxedAutoImplicit false

namespace DatasetForm.Text

theorem afterPrefix?_eq_some_iff {written cs rest : List Char} :
    afterPrefix? written cs = some rest ↔ ∃ spelled, cs = spelled ++ rest ∧ spelled.map lowerAscii = written := by
  induction written generalizing cs with
  | nil =>
    rw [afterPrefix?, Option.some.injEq]
    constructor
    · rintro rfl
      exact ⟨[], rfl, rfl⟩
    · rintro ⟨spelled, rfl, none⟩
      rw [List.map_eq_nil_iff.mp none, List.nil_append]
  | cons p ps ih =>
    cases cs with
    | nil =>
      rw [afterPrefix?]
      constructor
      · intro found
        cases found
      · rintro ⟨spelled, empty, same⟩
        rw [(List.append_eq_nil_iff.mp empty.symm).1] at same
        cases same
    | cons c cs =>
      rw [afterPrefix?]
      split
      next same =>
        rw [ih]
        constructor
        · rintro ⟨spelled, rfl, rfl⟩
          exact ⟨c :: spelled, rfl, by rw [List.map_cons, eq_of_beq same]⟩
        · rintro ⟨spelled, split, spells⟩
          cases spelled with
          | nil => cases spells
          | cons d spelled =>
            obtain ⟨-, rfl⟩ := List.cons_eq_cons.mp split
            exact ⟨spelled, rfl, (List.cons_eq_cons.mp spells).2⟩
      next other =>
        constructor
        · intro found
          cases found
        · rintro ⟨spelled, split, spells⟩
          cases spelled with
          | nil => cases spells
          | cons d spelled =>
            obtain ⟨rfl, -⟩ := List.cons_eq_cons.mp split
            exact absurd (beq_iff_eq.mpr (List.cons_eq_cons.mp spells).1) other

theorem afterPrefix?_append {spelled written : List Char} (spells : spelled.map lowerAscii = written)
    (rest : List Char) : afterPrefix? written (spelled ++ rest) = some rest :=
  afterPrefix?_eq_some_iff.mpr ⟨spelled, rfl, spells⟩

/-- A prefix is found as before when other characters are put in the place of those that it does not hold. -/
private theorem afterPrefix?_map {f : Char → Char} {written : List Char}
    (kept : ∀ p ∈ written, ∀ c, lowerAscii (f c) = p ↔ lowerAscii c = p) (cs : List Char) :
    afterPrefix? written (cs.map f) = (afterPrefix? written cs).map (List.map f) := by
  induction written generalizing cs with
  | nil => rfl
  | cons p ps ih =>
    rw [List.forall_mem_cons] at kept
    cases cs with
    | nil => rfl
    | cons c cs =>
      rw [List.map_cons, afterPrefix?, afterPrefix?, ih kept.2]
      simp only [beq_iff_eq, kept.1 c]
      split <;> rfl

/-! ## Prefixes in lower case -/

/-- A prefix of plain characters. It does not end in `i`, since the dotted capital I has an `i` and its dot for its lower
case. -/
structure IsPlainPrefix (written : List Char) : Prop where
  plain : ∀ c ∈ written, IsPlain c
  ending : written.getLast? ≠ some 'i'

instance (written : List Char) : Decidable (IsPlainPrefix written) :=
  decidable_of_iff (_ ∧ _) ⟨fun both => ⟨both.1, both.2⟩, fun plain => ⟨plain.plain, plain.ending⟩⟩

theorem IsPlainPrefix.tail {p : Char} {ps : List Char} (plain : IsPlainPrefix (p :: ps)) : IsPlainPrefix ps := by
  refine ⟨fun c member => plain.plain c (List.mem_cons_of_mem p member), ?_⟩
  intro last
  cases ps with
  | nil => cases last
  | cons q qs => exact plain.ending (by rw [List.getLast?_cons_cons, last])

/-- What a character gives in lower case, between the characters before it and after it. -/
private def lowerAt (before : List Char) (c : Char) (after : List Char) : List Char :=
  if c.toNat == 0x3A3 && meetsCased before && !meetsCased after then [Char.ofNat 0x3C2] else lowerChar c

private theorem lowerAfter_cons (before : List Char) (c : Char) (cs : List Char) :
    lowerAfter before (c :: cs) = lowerAt before c cs ++ lowerAfter (c :: before) cs := rfl

private theorem lowerAt_ascii {c : Char} (ascii : c.toNat < 0x80) (before after : List Char) :
    lowerAt before c after = [lowerAscii c] := by
  have notSigma : (c.toNat == 0x3A3) = false := by
    rw [beq_eq_false_iff_ne]
    omega
  rw [lowerAt, notSigma, Bool.false_and, Bool.false_and, if_neg Bool.false_ne_true, lowerChar, if_pos ascii]

private theorem not_isPlain_finalSigma : ¬IsPlain (Char.ofNat 0x3C2) := by
  decide

private theorem not_isPlain_dot : ¬IsPlain (Char.ofNat 0x307) := by
  decide

private theorem lowerAt_past {c : Char} (past : ¬c.toNat < 0x80) (before after : List Char) :
    lowerAt before c after = ['i', Char.ofNat 0x307] ∨ ∃ d, lowerAt before c after = [d] ∧ ¬IsPlain d := by
  rw [lowerAt]
  split
  · exact .inr ⟨_, rfl, not_isPlain_finalSigma⟩
  · exact lowerChar_past past

/-- Past ASCII, no character stands in the way of a prefix in lower case and none helps it. -/
private theorem not_isPrefix_lowerAt_past {c : Char} (past : ¬c.toNat < 0x80) {written : List Char}
    (plain : IsPlainPrefix written) (filled : written ≠ []) (before after rest : List Char) :
    ¬written <+: lowerAt before c after ++ rest := by
  intro begins
  cases written with
  | nil => exact filled rfl
  | cons p ps =>
    rcases lowerAt_past past before after with dotted | ⟨d, single, notPlain⟩
    · rw [dotted, List.cons_append, List.cons_prefix_cons] at begins
      obtain ⟨rfl, begins⟩ := begins
      cases ps with
      | nil => exact plain.ending rfl
      | cons q qs =>
        rw [List.cons_append, List.cons_prefix_cons] at begins
        exact not_isPlain_dot (begins.1 ▸ plain.plain q (by simp))
    · rw [single, List.cons_append, List.cons_prefix_cons] at begins
      exact notPlain (begins.1 ▸ plain.plain p List.mem_cons_self)

/-- The lower case of a text begins with a prefix exactly when the text spells it, its ASCII letters in either case. -/
theorem isPrefix_lowerAfter_iff {written : List Char} (plain : IsPlainPrefix written) (before cs : List Char) :
    written <+: lowerAfter before cs ↔ (afterPrefix? written cs).isSome = true := by
  -- Each ASCII character has one character for its lower case, so that both sides go on together; the first character
  -- past ASCII ends both. What was read counts for the last form of sigma only.
  induction written generalizing before cs with
  | nil => simp [afterPrefix?]
  | cons p ps ih =>
    cases cs with
    | nil => simp [lowerAfter, afterPrefix?]
    | cons c cs =>
      rw [lowerAfter_cons]
      by_cases ascii : c.toNat < 0x80
      · rw [lowerAt_ascii ascii, List.singleton_append, List.cons_prefix_cons, ih plain.tail, afterPrefix?]
        by_cases same : lowerAscii c = p
        · simp [same]
        · simp [same, Ne.symm same]
      · have outside : ¬p.toNat = c.toNat := by
          have := (plain.plain p List.mem_cons_self).1
          omega
        have other : (lowerAscii c == p) = false := by
          rw [lowerAscii_past ascii, beq_eq_false_iff_ne]
          rintro rfl
          exact outside rfl
        rw [afterPrefix?, other, if_neg Bool.false_ne_true]
        have never := not_isPrefix_lowerAt_past ascii plain (List.cons_ne_nil p ps) before cs
          (lowerAfter (c :: before) cs)
        simpa using never

/-- A prefix is found in the lower case of a text and taken off by its length. -/
theorem afterPrefix?_eq_drop {written : List Char} (plain : IsPlainPrefix written) (cs : List Char) :
    afterPrefix? written cs = if written <+: lowerAfter [] cs then some (cs.drop written.length) else none := by
  rw [if_congr (isPrefix_lowerAfter_iff plain [] cs) rfl rfl]
  cases found : afterPrefix? written cs with
  | none => rfl
  | some rest =>
    obtain ⟨spelled, rfl, rfl⟩ := afterPrefix?_eq_some_iff.mp found
    simp

theorem lowerAfter_ascii {cs : List Char} (ascii : ∀ c ∈ cs, c.toNat < 0x80) (before : List Char) :
    lowerAfter before cs = cs.map lowerAscii := by
  induction cs generalizing before with
  | nil => rfl
  | cons c cs ih =>
    rw [List.forall_mem_cons] at ascii
    rw [lowerAfter_cons, lowerAt_ascii ascii.1, ih ascii.2, List.map_cons, List.singleton_append]

private theorem length_le_lowerAfter (before cs : List Char) : cs.length ≤ (lowerAfter before cs).length := by
  induction cs generalizing before with
  | nil => exact Nat.zero_le _
  | cons c cs ih =>
    have filled : 0 < (lowerAt before c cs).length := by
      by_cases ascii : c.toNat < 0x80
      · rw [lowerAt_ascii ascii]
        exact Nat.one_pos
      · rcases lowerAt_past ascii before cs with dotted | ⟨d, single, -⟩
        · rw [dotted]
          exact Nat.two_pos
        · rw [single]
          exact Nat.one_pos
    have rest := ih (c :: before)
    rw [lowerAfter_cons, List.length_append, List.length_cons]
    omega

/-- The lower case of a text is a prefix exactly when the text spells it. -/
theorem lower_eq_iff {written text : String} (plain : IsPlainPrefix written.toList) :
    lower text = written ↔ text.toList.map lowerAscii = written.toList := by
  rw [← String.toList_inj, lower, String.toList_ofList]
  constructor
  · intro same
    have begins : written.toList <+: lowerAfter [] text.toList := same ▸ List.prefix_rfl
    obtain ⟨rest, found⟩ := Option.isSome_iff_exists.mp ((isPrefix_lowerAfter_iff plain [] _).mp begins)
    obtain ⟨spelled, split, spells⟩ := afterPrefix?_eq_some_iff.mp found
    have short := length_le_lowerAfter [] text.toList
    rw [same, ← spells, split, List.length_append, List.length_map] at short
    have none : rest = [] := List.eq_nil_of_length_eq_zero (by omega)
    rw [split, none, List.append_nil, spells]
  · intro spells
    have ascii : ∀ c ∈ text.toList, c.toNat < 0x80 := by
      intro c member
      by_contra past
      have plain' := (plain.plain (lowerAscii c) (spells ▸ List.mem_map_of_mem member)).1
      exact past (lowerAscii_past past ▸ plain')
    rw [lowerAfter_ascii ascii, spells]

/-! ## Taking off one of several prefixes -/

/-- What is left of a text when the first prefix that its lower case begins with is taken off by its length. -/
def dropLowered (prefixes : List String) (cs : List Char) : List Char :=
  match prefixes.find? fun written => decide (written.toList <+: lowerAfter [] cs) with
  | some written => cs.drop written.toList.length
  | none => cs

/-- Looking for prefixes in the lower case of a text or without regard to ASCII case comes to the same. -/
theorem dropResolver_eq_dropLowered {prefixes : List String}
    (plain : ∀ written ∈ prefixes, IsPlainPrefix written.toList) (cs : List Char) :
    dropResolver prefixes cs = dropLowered prefixes cs := by
  rw [dropResolver, dropLowered]
  induction prefixes with
  | nil => rfl
  | cons written prefixes ih =>
    rw [List.forall_mem_cons] at plain
    rw [List.findSome?_cons, List.find?_cons, afterPrefix?_eq_drop plain.1]
    by_cases begins : written.toList <+: lowerAfter [] cs
    · simp [begins]
    · simpa [begins] using ih plain.2

/-- The characters spell one of the prefixes, in either case of their ASCII letters, or there are none. -/
def IsResolver (prefixes : List String) (spelled : List Char) : Prop :=
  spelled = [] ∨ ∃ written ∈ prefixes, spelled.map lowerAscii = written.toList

theorem exists_isResolver (prefixes : List String) (cs : List Char) :
    ∃ spelled, IsResolver prefixes spelled ∧ cs = spelled ++ dropResolver prefixes cs := by
  rw [dropResolver]
  cases first : prefixes.findSome? fun written => afterPrefix? written.toList cs with
  | none => exact ⟨[], .inl rfl, rfl⟩
  | some rest =>
    obtain ⟨written, member, taken⟩ := List.exists_of_findSome?_eq_some first
    obtain ⟨spelled, split, spells⟩ := afterPrefix?_eq_some_iff.mp taken
    exact ⟨spelled, .inr ⟨written, member, spells⟩, split⟩

/-- No prefix begins with another one. -/
def AreApart (prefixes : List String) : Prop :=
  ∀ written ∈ prefixes, ∀ other ∈ prefixes, written.toList <+: other.toList → written = other

instance (prefixes : List String) : Decidable (AreApart prefixes) :=
  inferInstanceAs (Decidable (∀ _ ∈ _, _))

theorem dropResolver_append {prefixes : List String} (apart : AreApart prefixes) {written : String}
    (member : written ∈ prefixes) {spelled : List Char} (spells : spelled.map lowerAscii = written.toList)
    (rest : List Char) : dropResolver prefixes (spelled ++ rest) = rest := by
  have found : (prefixes.findSome? fun written => afterPrefix? written.toList (spelled ++ rest)).isSome = true :=
    List.findSome?_isSome_iff.mpr ⟨written, member, by rw [afterPrefix?_append spells]; rfl⟩
  obtain ⟨rest', first⟩ := Option.isSome_iff_exists.mp found
  rw [dropResolver, first, Option.getD_some]
  obtain ⟨other, member', taken⟩ := List.exists_of_findSome?_eq_some first
  obtain ⟨spelled', split, spells'⟩ := afterPrefix?_eq_some_iff.mp taken
  -- The text begins with the prefix that was put before it and with the one that was found, so one begins with the other.
  have begins : written.toList <+: (spelled ++ rest).map lowerAscii := by
    rw [List.map_append, spells]
    exact List.prefix_append _ _
  have begins' : other.toList <+: (spelled ++ rest).map lowerAscii := by
    rw [split, List.map_append, spells']
    exact List.prefix_append _ _
  have same : written = other := by
    rcases List.prefix_or_prefix_of_prefix begins begins' with shorter | longer
    · exact apart written member other member' shorter
    · exact (apart other member' written member longer).symm
  subst same
  have lengths : spelled.length = spelled'.length := by
    rw [← List.length_map lowerAscii, spells, ← spells', List.length_map]
  exact (List.append_inj split lengths).2.symm

theorem dropResolver_sublist (prefixes : List String) (cs : List Char) : (dropResolver prefixes cs).Sublist cs := by
  obtain ⟨spelled, -, split⟩ := exists_isResolver prefixes cs
  have rest := List.sublist_append_right spelled (dropResolver prefixes cs)
  rwa [← split] at rest

theorem dropResolver_map {f : Char → Char} {prefixes : List String}
    (kept : ∀ written ∈ prefixes, ∀ p ∈ written.toList, ∀ c, lowerAscii (f c) = p ↔ lowerAscii c = p) (cs : List Char) :
    dropResolver prefixes (cs.map f) = (dropResolver prefixes cs).map f := by
  have found : (prefixes.findSome? fun written => afterPrefix? written.toList (cs.map f)) =
      (prefixes.findSome? fun written => afterPrefix? written.toList cs).map (List.map f) := by
    induction prefixes with
    | nil => rfl
    | cons written prefixes ih =>
      rw [List.forall_mem_cons] at kept
      rw [List.findSome?_cons, List.findSome?_cons, afterPrefix?_map kept.1, ih kept.2]
      cases afterPrefix? written.toList cs <;> rfl
  rw [dropResolver, dropResolver, found, Option.getD_map]

/-- Prefixes that can be told apart from each other, and from an identifier that begins with a digit. -/
structure AreResolvers (prefixes : List String) : Prop where
  apart : AreApart prefixes
  plain : ∀ written ∈ prefixes, IsPlainPrefix written.toList
  lettered : ∀ written ∈ prefixes, (written.toList.head?.any fun p => !isBlank p && !isDigit p) = true

instance (prefixes : List String) : Decidable (AreResolvers prefixes) :=
  decidable_of_iff (_ ∧ _ ∧ _) ⟨fun all => ⟨all.1, all.2.1, all.2.2⟩, fun all => ⟨all.apart, all.plain, all.lettered⟩⟩

namespace AreResolvers

variable {prefixes : List String} (resolvers : AreResolvers prefixes)
include resolvers

theorem exists_head {written : String} (member : written ∈ prefixes) :
    ∃ p, written.toList.head? = some p ∧ isBlank p = false ∧ isDigit p = false := by
  obtain ⟨p, head, letter⟩ := (Option.any_eq_true _ _).mp (resolvers.lettered written member)
  exact ⟨p, head, by simpa using letter⟩

theorem dropResolver_digit {d : Char} (digit : isDigit d = true) (ds : List Char) :
    dropResolver prefixes (d :: ds) = d :: ds := by
  have unresolved : ∀ written ∈ prefixes, afterPrefix? written.toList (d :: ds) = none := by
    intro written member
    obtain ⟨p, head, -, notDigit⟩ := resolvers.exists_head member
    obtain ⟨ps, spelled⟩ := List.head?_eq_some_iff.mp head
    have other : (lowerAscii d == p) = false := by
      rw [lowerAscii_of_isDigit digit, beq_eq_false_iff_ne]
      rintro rfl
      exact Bool.false_ne_true (notDigit.symm.trans digit)
    rw [spelled, afterPrefix?, other, if_neg Bool.false_ne_true]
  rw [dropResolver, List.findSome?_eq_none_iff.mpr unresolved, Option.getD_none]

/-- Before an identifier that begins with a digit there is one prefix at most, and it is the one that is taken off. -/
theorem dropResolver_eq_iff {d : Char} (digit : isDigit d = true) {cs ds : List Char} :
    dropResolver prefixes cs = d :: ds ↔ ∃ spelled, IsResolver prefixes spelled ∧ cs = spelled ++ d :: ds := by
  constructor
  · intro bare
    have resolved := exists_isResolver prefixes cs
    rwa [bare] at resolved
  · rintro ⟨spelled, rfl | ⟨written, member, spells⟩, rfl⟩
    · exact resolvers.dropResolver_digit digit ds
    · exact dropResolver_append resolvers.apart member spells (d :: ds)

/-- A prefix in any case and blanks around the whole are taken off an identifier. -/
theorem dropResolver_surrounded {written spelled : String} (member : written ∈ prefixes)
    (spells : lower spelled = written) {bare before after : List Char} (trimmed : IsTrimmed bare) (filled : bare ≠ [])
    (blank : ∀ c ∈ before, isBlank c = true) (blank' : ∀ c ∈ after, isBlank c = true) :
    dropResolver prefixes (trim (before ++ (spelled.toList ++ bare) ++ after)) = bare := by
  have spells' := (lower_eq_iff (resolvers.plain written member)).mp spells
  obtain ⟨p, head, notBlank, -⟩ := resolvers.exists_head member
  have lowered : spelled.toList.head?.map lowerAscii = some p := by
    rw [← List.head?_map, spells']
    exact head
  obtain ⟨c, first, lower_first⟩ := Option.map_eq_some_iff.mp lowered
  have trimmed' : IsTrimmed (spelled.toList ++ bare) := by
    refine isTrimmed_append ?_ filled ?_ trimmed.last
    · intro empty
      rw [empty] at first
      cases first
    · intro d member
      rw [first] at member
      cases member
      rw [← isBlank_lowerAscii, lower_first, notBlank]
  rw [trimmed'.trim_surrounded (by simp [filled]) blank blank', dropResolver_append resolvers.apart member spells']

end AreResolvers

end DatasetForm.Text
