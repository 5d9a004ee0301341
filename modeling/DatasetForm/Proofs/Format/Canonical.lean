import DatasetForm.Format.Doi
import DatasetForm.Proofs.Format.Orcid

/-!
Normal forms of identifiers. What a check gives for the form in which to keep an identifier is accepted as it is and stays
so, and so does that form behind a resolver prefix in any case, with blanks around both.
-/

set_option autoImplicit false
set_option relaxedAutoImplicit false

namespace DatasetForm

namespace Format

open Text (isDigit isBlank upperAscii dropResolver trim)

/-- The text is its own normal form, and the normal form of what stands behind a resolver and between blanks. -/
structure IsCanonical (check : Value → Verdict) (prefixes : List String) (normal : String) : Prop where
  alone : check (.text normal) = .accepted (some normal)
  resolved : ∀ written ∈ prefixes, ∀ spelled, Text.lower spelled = written → ∀ before after : String,
    (∀ c ∈ before.toList, isBlank c = true) → (∀ c ∈ after.toList, isBlank c = true) →
      check (.text (before ++ (spelled ++ normal) ++ after)) = .accepted (some normal)

/-- A check that only looks at what is left without blanks and resolver keeps an identifier that begins with a digit. -/
theorem isCanonical_of_bare {check : Value → Verdict} {prefixes : List String} (resolvers : Text.AreResolvers prefixes)
    {d : Char} {ds : List Char} (digit : isDigit d = true) (trimmed : Text.IsTrimmed (d :: ds))
    (accepts : ∀ v : Value, dropResolver prefixes v.trimmedText.toList = d :: ds →
      check v = .accepted (some (String.ofList (d :: ds)))) :
    IsCanonical check prefixes (String.ofList (d :: ds)) := by
  constructor
  · apply accepts
    rw [toList_trimmedText, String.toList_ofList, trimmed.trim_eq, resolvers.dropResolver_digit digit]
  · intro written member spelled spells before after blank blank'
    apply accepts
    rw [toList_trimmedText, String.toList_append, String.toList_append, String.toList_append, String.toList_ofList,
      resolvers.dropResolver_surrounded member spells trimmed (List.cons_ne_nil d ds) blank blank']

theorem areResolvers_doiPrefixes : Text.AreResolvers doiPrefixes := by
  decide

theorem checkDoi_eq_accepted_iff {v : Value} {normal : String} :
    checkDoi v = .accepted (some normal) ↔
      isDoi (dropResolver doiPrefixes v.trimmedText.toList) = true ∧
        normal = String.ofList (dropResolver doiPrefixes v.trimmedText.toList) := by
  generalize bare_eq : dropResolver doiPrefixes v.trimmedText.toList = bare
  rw [checkDoi, bare_eq]
  cases blank : v.isBlank with
  | true =>
    have nothing : bare = [] := bare_eq ▸ dropResolver_of_isBlank blank doiPrefixes
    rw [if_pos rfl, nothing]
    constructor
    · intro accepted
      cases accepted
    · rintro ⟨never, -⟩
      cases never
  | false =>
    rw [if_neg Bool.false_ne_true]
    cases isDoi bare with
    | true => simp [eq_comm]
    | false => simp

theorem exists_of_isRegistrant {cs : List Char} (registered : isRegistrant cs = true) : ∃ ds, cs = '1' :: ds := by
  rw [isRegistrant] at registered
  split at registered
  next directory first groups parts =>
    rw [Bool.and_eq_true, Bool.and_eq_true] at registered
    obtain ⟨⟨ten, -⟩, -⟩ := registered
    obtain ⟨ds, rfl⟩ := Text.isPrefix_of_splitAt (eq_of_beq ten ▸ parts)
    exact ⟨'0' :: ds, rfl⟩
  · cases registered

/-- A bare identifier begins with `1` and ends in a character that is not blank. -/
theorem exists_of_isDoi {bare : List Char} (isBare : isDoi bare = true) :
    ∃ ds, bare = '1' :: ds ∧ Text.IsTrimmed bare := by
  rw [isDoi] at isBare
  split at isBare
  next registrant suffix cut =>
    rw [Bool.and_eq_true, Bool.and_eq_true, List.all_eq_true] at isBare
    obtain ⟨⟨registered, -⟩, visible⟩ := isBare
    obtain ⟨ds, rfl⟩ := exists_of_isRegistrant registered
    -- The last character is the slash when the suffix is empty; either way it is not blank.
    have notBlank : ∀ c ∈ '/' :: suffix, isBlank c = false := by
      refine List.forall_mem_cons.mpr ⟨by decide, fun c member => ?_⟩
      simpa using visible c member
    rw [Text.eq_append_of_cutAt cut]
    refine ⟨ds ++ '/' :: suffix, rfl, Text.isTrimmed_append (by simp) (by simp) ?_ ?_⟩
    · intro c first
      cases first
      decide
    · intro c last
      exact notBlank c (List.mem_of_getLast? last)
  · cases isBare

/-- The normal forms of both kinds of identifiers are canonical. -/
theorem normal_isCanonical :
    (∀ v normal, checkDoi v = .accepted (some normal) → IsCanonical checkDoi doiPrefixes normal) ∧
      ∀ v normal, checkOrcid v = .accepted (some normal) → IsCanonical checkOrcid orcidPrefixes normal := by
  constructor
  · intro v normal accepted
    obtain ⟨isBare, rfl⟩ := checkDoi_eq_accepted_iff.mp accepted
    generalize dropResolver doiPrefixes v.trimmedText.toList = bare at isBare ⊢
    obtain ⟨ds, rfl, trimmed⟩ := exists_of_isDoi isBare
    refine isCanonical_of_bare areResolvers_doiPrefixes (by decide) trimmed fun v bare => ?_
    exact checkDoi_eq_accepted_iff.mpr ⟨bare.symm ▸ isBare, congrArg String.ofList bare.symm⟩
  · intro v normal accepted
    obtain ⟨f, sound, -, rfl⟩ := checkOrcid_eq_accepted_iff.mp accepted
    refine isCanonical_of_bare areResolvers_orcidPrefixes (sound.digits 0) sound.isTrimmed fun v bare => ?_
    exact checkOrcid_eq_accepted_iff.mpr ⟨f, sound, by rw [bare]; exact sound.map_upperAscii, rfl⟩

theorem normal_isCanonical_samples :
    checkDoi (.text " DOI:10.5880/GFZ.1.2") = .accepted (some "10.5880/GFZ.1.2") ∧
      checkDoi (.text "\thttps://dx.DOI.org/10.5880/GFZ.1.2 ") = .accepted (some "10.5880/GFZ.1.2") ∧
      checkOrcid (.text "orcid.org/0000-0002-1694-233x") = .accepted (some "0000-0002-1694-233X") ∧
      checkOrcid (.text " HTTPS://orcid.org/0000-0002-1694-233X\n") = .accepted (some "0000-0002-1694-233X") := by
  have doi : checkDoi (.text " DOI:10.5880/GFZ.1.2") = .accepted (some "10.5880/GFZ.1.2") :=
    checkDoi_eq_accepted_iff.mpr ⟨by decide +kernel, by decide +kernel⟩
  have orcid : checkOrcid (.text "orcid.org/0000-0002-1694-233x") = .accepted (some "0000-0002-1694-233X") := by
    let f : Fin 16 → Char :=
      !['0', '0', '0', '0', '0', '0', '0', '2', '1', '6', '9', '4', '2', '3', '3', 'X']
    exact checkOrcid_eq_accepted_iff.mpr
      ⟨f, ⟨by decide +kernel, by decide +kernel, by decide +kernel⟩, by decide +kernel, by decide +kernel⟩
  have spelledDoi := (normal_isCanonical.1 _ _ doi).resolved "https://dx.doi.org/" (by decide) "https://dx.DOI.org/"
    (by decide +kernel) "\t" " " (by decide) (by decide)
  have spelledOrcid := (normal_isCanonical.2 _ _ orcid).resolved "https://orcid.org/" (by decide) "HTTPS://orcid.org/"
    (by decide +kernel) " " "\n" (by decide) (by decide)
  exact ⟨doi, spelledDoi, orcid, spelledOrcid⟩

end Format

end DatasetForm
