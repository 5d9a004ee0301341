import DatasetForm.Proofs.Format.Doi
import DatasetForm.Proofs.Format.Version
import DatasetForm.Proofs.Format.Year
import DatasetForm.Proofs.Text.Script

/-!
The scripts of digits in what the checks accept. Where a grammar asks for a digit, the checks take one of any script, and
such a text is accepted with all its digits in ASCII as well. Those accepted texts that keep to ASCII digits by themselves
are the ones that the same grammars make of ASCII digits alone.
-/

set_option autoImplicit false
set_option relaxedAutoImplicit false

namespace DatasetForm

namespace Format

open Text (isDigit isAsciiDigit isAlnum isBlank isLetter plainDigit plainDigits HasPlainDigits upperAscii dropResolver
  cutAt trim joinRuns marked IsJoined)

/-! ## Other digits in the grammars -/

section Grammar

variable {digit digit' : Char → Bool} {f : Char → Char} {cs : List Char}

/-- ASCII characters stay as they are. -/
def KeepsAscii (f : Char → Char) : Prop :=
  ∀ c : Char, c.toNat < 0x80 → f c = c

theorem keepsAscii_plainDigit : KeepsAscii plainDigit :=
  fun _ => Text.plainDigit_of_ascii

theorem map_eq_of_ascii (fixed : KeepsAscii f) (ascii : ∀ c ∈ cs, c.toNat < 0x80) : cs.map f = cs := by
  have each : ∀ c ∈ cs, f c = id c := fun c member => fixed c (ascii c member)
  rw [List.map_congr_left each, List.map_id]

theorem forall_mem_map_of_kept (kept : ∀ c, digit c = true → digit' (f c) = true) (digits : ∀ c ∈ cs, digit c = true) :
    ∀ c ∈ cs.map f, digit' c = true := by
  intro c member
  obtain ⟨d, found, rfl⟩ := List.mem_map.mp member
  exact kept d (digits d found)

private theorem ascii_of_versionChar {c : Char} (form : isAlnum c = true ∨ c = '-') : c.toNat < 0x80 := by
  rcases form with alnum | rfl
  · exact Text.ascii_of_isAlnum alnum
  · decide

section

variable (fixed : KeepsAscii f) (kept : ∀ c, digit c = true → digit' (f c) = true)
include fixed

theorem IsBuildPart.map (part : IsBuildPart cs) : IsBuildPart (cs.map f) := by
  rwa [map_eq_of_ascii fixed fun c member => ascii_of_versionChar (part.chars c member)]

include kept

theorem IsVersionNumber.map (number : IsVersionNumber digit cs) : IsVersionNumber digit' (cs.map f) := by
  cases number with
  | zero =>
    rw [List.map_singleton, fixed '0' (by decide)]
    exact .zero
  | positive least most digits =>
    rw [List.map_cons, fixed _ (Text.ascii_of_isAlnum (isAlnum_of_nonzero least most))]
    exact .positive least most (forall_mem_map_of_kept kept digits)

theorem IsPreReleasePart.map (part : IsPreReleasePart digit cs) : IsPreReleasePart digit' (cs.map f) := by
  cases part with
  | number number => exact .number (number.map fixed kept)
  | word digits mark chars =>
    have ascii := ascii_of_versionChar (mark.imp_left isAlnum_of_isLetter)
    have ascii' := fun d member => ascii_of_versionChar (chars d member)
    rw [List.map_append, List.map_cons, fixed _ ascii, map_eq_of_ascii fixed ascii']
    exact .word (forall_mem_map_of_kept kept digits) mark chars

theorem IsVersionText.map (version : IsVersionText digit cs) : IsVersionText digit' (cs.map f) := by
  have dot : f '.' = '.' := fixed '.' (by decide)
  cases version with
  | short major minor =>
    rw [Text.map_joinRuns, dot]
    exact .short (major.map fixed kept) (minor.map fixed kept)
  | full major minor patch preRelease build =>
    rw [List.map_append, List.map_append, Text.map_joinRuns, dot, Text.map_marked (fixed '-' (by decide)),
      Text.map_marked (fixed '+' (by decide))]
    refine .full (major.map fixed kept) (minor.map fixed kept) (patch.map fixed kept) ?_ ?_
    · intro parts' member
      obtain ⟨parts, found, rfl⟩ := Option.map_eq_some_iff.mp member
      exact (preRelease parts found).map dot fun part form => form.map fixed kept
    · intro parts' member
      obtain ⟨parts, found, rfl⟩ := Option.map_eq_some_iff.mp member
      exact (build parts found).map dot fun part form => form.map fixed

theorem IsRegistrant.map (registered : IsRegistrant digit cs) : IsRegistrant digit' (cs.map f) := by
  obtain ⟨four, digits⟩ := registered
  have directory : List.map f ['1', '0'] = ['1', '0'] := map_eq_of_ascii fixed (by decide)
  rw [Text.map_joinRuns, fixed '.' (by decide), List.map_cons, directory, List.map_cons]
  refine .groups (by rwa [List.length_map]) ?_
  rw [← List.map_cons]
  intro group' member
  obtain ⟨group, found, rfl⟩ := List.mem_map.mp member
  obtain ⟨filled, digits⟩ := digits group found
  exact ⟨by simpa using filled, forall_mem_map_of_kept kept digits⟩

theorem IsDoiText.map (visible : ∀ c, isBlank (f c) = isBlank c) (doi : IsDoiText digit cs) :
    IsDoiText digit' (cs.map f) := by
  obtain ⟨registered, filled, suffix⟩ := doi
  rw [List.map_append, List.map_cons, fixed '/' (by decide)]
  refine .slash (registered.map fixed kept) (by simpa using filled) ?_
  intro c' member
  obtain ⟨c, found, rfl⟩ := List.mem_map.mp member
  rw [visible, suffix c found]

end

theorem IsYearText.map {year : Nat} (kept : ∀ c, digit c = true → digit' (f c) = true)
    (same : ∀ c, Text.digitValue? (f c) = Text.digitValue? c) (text : IsYearText digit cs year) :
    IsYearText digit' (cs.map f) year := by
  refine ⟨by rw [List.length_map, text.four], forall_mem_map_of_kept kept text.digits, ?_⟩
  obtain ⟨digits, values, number⟩ := text.writes
  have values' : (cs.map f).map Text.digitValue? = cs.map Text.digitValue? := by
    simp only [List.map_map, Function.comp_def, same]
  exact ⟨digits, values'.trans values, number⟩

end Grammar

/-! ## Texts in plain digits -/

section Plain

variable {cs : List Char}

theorem IsVersionText.hasPlainDigits (version : IsVersionText isAsciiDigit cs) : HasPlainDigits cs := by
  intro c member digit
  rcases version.mem member with plain | alnum | mark
  · exact plain
  · exact Text.isAsciiDigit_of_ascii (Text.ascii_of_isAlnum alnum) digit
  · have ascii : ∀ d ∈ ['.', '-', '+'], d.toNat < 0x80 := by decide
    exact Text.isAsciiDigit_of_ascii (ascii c mark) digit

theorem IsRegistrant.hasPlainDigits (registered : IsRegistrant isAsciiDigit cs) : HasPlainDigits cs := by
  intro c member digit
  rcases registered.mem member with plain | mark
  · exact plain
  · have ascii : ∀ d ∈ ['1', '0', '.'], d.toNat < 0x80 := by decide
    exact Text.isAsciiDigit_of_ascii (ascii c mark) digit

end Plain

/-! ## What is accepted in plain digits -/

/-- The text is blank, or a version in ASCII digits. -/
def IsPlainVersion (text : String) : Prop :=
  trim text.toList = [] ∨ IsVersionText isAsciiDigit (trim text.toList)

/-- The text writes an accepted year with four ASCII digits. -/
def IsPlainYear (least most : Value) (today : Date) (text : String) : Prop :=
  ∃ year, IsYearText isAsciiDigit (trim text.toList) year ∧
    checkYear least most today (.int year) = .ok (.accepted none)

/-- The text, without resolver, is an identifier whose registrant is in ASCII digits. -/
def IsPlainDoi (text normal : String) : Prop :=
  IsDoiText isAsciiDigit normal.toList ∧ dropResolver doiPrefixes (trim text.toList) = normal.toList

/-- The text, without resolver and in capitals, is an identifier of ASCII digits and a possible X at the end. -/
def IsPlainOrcid (text normal : String) : Prop :=
  ∃ f, IsOrcid f ∧ (∀ i, f i ∈ orcidCheckChars) ∧
    (dropResolver orcidPrefixes (trim text.toList)).map upperAscii = orcidChars f ∧ normal = orcidText f

theorem isPlainVersion_iff (text : String) :
    (checkVersion (.text text)).isAccepted = true ∧ HasPlainDigits text.toList ↔ IsPlainVersion text := by
  rw [isAccepted_checkVersion_iff, ← Text.hasPlainDigits_trim_iff, IsPlainVersion]
  constructor
  · rintro ⟨blank | version, plain⟩
    · exact .inl blank
    · have written := version.map keepsAscii_plainDigit fun _ => Text.isAsciiDigit_plainDigit
      rw [plain.map_eq] at written
      exact .inr written
  · rintro (blank | version)
    · exact ⟨.inl blank, by simp [blank, HasPlainDigits]⟩
    · have written := version.map (f := id) (fun _ _ => rfl) fun _ => Text.isDigit_of_isAsciiDigit
      rw [List.map_id] at written
      exact ⟨.inr written, version.hasPlainDigits⟩

theorem isPlainVersion_plainDigits {text : String} (accepted : (checkVersion (.text text)).isAccepted = true) :
    IsPlainVersion (plainDigits text) := by
  rw [IsPlainVersion, Text.toList_plainDigits, Text.trim_map_plainDigit]
  rcases (isAccepted_checkVersion_iff text).mp accepted with blank | version
  · exact .inl (by rw [blank, List.map_nil])
  · exact .inr (version.map keepsAscii_plainDigit fun _ => Text.isAsciiDigit_plainDigit)

theorem isPlainYear_iff (least most : Value) (today : Date) (text : String) :
    checkYear least most today (.text text) = .ok (.accepted none) ∧ HasPlainDigits text.toList ↔
      IsPlainYear least most today text := by
  rw [checkYear_text_iff, toList_trimmedText, ← Text.hasPlainDigits_trim_iff, IsPlainYear]
  constructor
  · rintro ⟨⟨year, written, accepted⟩, plain⟩
    exact ⟨year, ⟨written.four, fun c member => plain c member (written.digits c member), written.writes⟩, accepted⟩
  · rintro ⟨year, written, accepted⟩
    refine ⟨⟨year, ⟨written.four, ?_, written.writes⟩, accepted⟩, ?_⟩
    · intro c member
      exact Text.isDigit_of_isAsciiDigit (written.digits c member)
    · intro c member _
      exact written.digits c member

theorem isPlainYear_plainDigits {least most : Value} {today : Date} {text : String}
    (accepted : checkYear least most today (.text text) = .ok (.accepted none)) :
    IsPlainYear least most today (plainDigits text) := by
  rw [checkYear_text_iff, toList_trimmedText] at accepted
  obtain ⟨year, written, accepted⟩ := accepted
  refine ⟨year, ?_, accepted⟩
  rw [Text.toList_plainDigits, Text.trim_map_plainDigit]
  exact written.map (fun _ => Text.isAsciiDigit_plainDigit) Text.digitValue?_plainDigit

private theorem undigited_prefixes :
    ∀ written ∈ doiPrefixes ++ orcidPrefixes, ∀ p ∈ written.toList, isDigit p = false := by
  have plain : ∀ written ∈ doiPrefixes ++ orcidPrefixes, ∀ p ∈ written.toList,
      p.toNat < 0x80 ∧ isAsciiDigit p = false := by
    decide
  intro written member p inside
  obtain ⟨ascii, notDigit⟩ := plain written member p inside
  rw [Bool.eq_false_iff]
  intro digit
  exact Bool.false_ne_true (notDigit.symm.trans (Text.isAsciiDigit_of_ascii ascii digit))

theorem isPlainDoi_iff (text normal : String) :
    checkDoi (.text text) = .accepted (some normal) ∧ HasPlainDigits (cutAt '/' normal.toList).1 ↔
      IsPlainDoi text normal := by
  rw [checkDoi_text_iff, IsPlainDoi]
  generalize normal.toList = cs
  constructor
  · rintro ⟨⟨doi, bare⟩, plain⟩
    obtain ⟨registered, filled, visible⟩ := doi
    rw [Text.cutAt_append registered.slash_not_mem] at plain
    have written := registered.map keepsAscii_plainDigit fun _ => Text.isAsciiDigit_plainDigit
    rw [plain.map_eq] at written
    exact ⟨.slash written filled visible, bare⟩
  · rintro ⟨doi, bare⟩
    have written := doi.map (f := id) (fun _ _ => rfl) (fun _ => Text.isDigit_of_isAsciiDigit) fun _ => rfl
    rw [List.map_id] at written
    obtain ⟨registered, filled, visible⟩ := doi
    have registered' := registered.map (f := id) (fun _ _ => rfl) fun _ => Text.isDigit_of_isAsciiDigit
    rw [List.map_id] at registered'
    rw [Text.cutAt_append registered'.slash_not_mem]
    exact ⟨⟨written, bare⟩, registered.hasPlainDigits⟩

theorem isPlainDoi_plainDigits {text normal : String} (accepted : checkDoi (.text text) = .accepted (some normal)) :
    IsPlainDoi (plainDigits text) (plainDigits normal) := by
  obtain ⟨doi, bare⟩ := checkDoi_text_iff.mp accepted
  rw [IsPlainDoi, Text.toList_plainDigits, Text.toList_plainDigits, Text.trim_map_plainDigit,
    Text.dropResolver_map_plainDigit (fun _ member => undigited_prefixes _ (List.mem_append_left _ member)), bare]
  exact ⟨doi.map keepsAscii_plainDigit (fun _ => Text.isAsciiDigit_plainDigit) Text.isBlank_plainDigit, rfl⟩

/-! ## ORCID identifiers in plain digits -/

private theorem ascii_orcidCheckChars : ∀ c ∈ orcidCheckChars, c.toNat < 0x80 := by
  decide

private theorem mem_orcidCheckChars {c : Char} (digit : isAsciiDigit c = true) : c ∈ orcidCheckChars := by
  have codes : ∀ code ∈ List.range' 0x30 10, Char.ofNat code ∈ orcidCheckChars := by decide
  have ⟨least, most⟩ := Text.isAsciiDigit_iff.mp digit
  rw [← Char.ofNat_toNat c]
  apply codes
  rw [List.mem_range'_1]
  omega

theorem orcidValue_plainDigit (c : Char) : orcidValue (plainDigit c) = orcidValue c := by
  cases digit : isDigit c with
  | false => rw [Text.plainDigit_of_not_isDigit digit]
  | true =>
    have digit' : isDigit (plainDigit c) = true := (Text.isDigit_plainDigit c).trans digit
    rw [orcidValue_of_isDigit digit, orcidValue_of_isDigit digit', Text.digitValue?_plainDigit]

theorem orcidChars_plainDigit (f : Fin 16 → Char) : orcidChars (plainDigit ∘ f) = (orcidChars f).map plainDigit := by
  have hyphen : plainDigit '-' = '-' := Text.plainDigit_of_ascii (by decide)
  simp [orcidChars, hyphen]

/-- Digits of the same value make up an identifier as well; the check digit is of ASCII in any case. -/
theorem IsOrcid.comp_plainDigit {f : Fin 16 → Char} (sound : IsOrcid f) :
    IsOrcid (plainDigit ∘ f) ∧ ∀ i, (plainDigit ∘ f) i ∈ orcidCheckChars := by
  have check : (plainDigit ∘ f) (Fin.last 15) ∈ orcidCheckChars := by
    rw [Function.comp_apply, Text.plainDigit_of_ascii (ascii_orcidCheckChars _ sound.check)]
    exact sound.check
  have weighted : orcidWeighted (plainDigit ∘ f) = orcidWeighted f := by
    simp only [orcidWeighted, Function.comp_apply, orcidValue_plainDigit]
  refine ⟨⟨?_, check, weighted.trans sound.sum⟩, ?_⟩
  · intro i
    exact (Text.isDigit_plainDigit _).trans (sound.digits i)
  · intro i
    induction i using Fin.lastCases with
    | last => exact check
    | cast i => exact mem_orcidCheckChars (Text.isAsciiDigit_plainDigit (sound.digits i))

theorem hasPlainDigits_orcidChars_iff {f : Fin 16 → Char} (sound : IsOrcid f) :
    HasPlainDigits (orcidChars f) ↔ ∀ i, f i ∈ orcidCheckChars := by
  constructor
  · intro plain i
    induction i using Fin.lastCases with
    | last => exact sound.check
    | cast i =>
      have member : f i.castSucc ∈ orcidChars f := by
        fin_cases i <;> simp [orcidChars]
      exact mem_orcidCheckChars (plain _ member (sound.digits i))
  · intro written
    have hyphen : isDigit '-' = true → isAsciiDigit '-' = true := by decide
    have each (i : Fin 16) : isDigit (f i) = true → isAsciiDigit (f i) = true :=
      Text.isAsciiDigit_of_ascii (ascii_orcidCheckChars _ (written i))
    simpa only [HasPlainDigits, orcidChars, List.forall_mem_cons, List.not_mem_nil, false_imp_iff, implies_true,
      and_true] using
      ⟨each 0, each 1, each 2, each 3, hyphen, each 4, each 5, each 6, each 7, hyphen, each 8, each 9, each 10,
        each 11, hyphen, each 12, each 13, each 14, each 15⟩

theorem checkOrcid_text_iff {text normal : String} :
    checkOrcid (.text text) = .accepted (some normal) ↔
      ∃ f, IsOrcid f ∧ (dropResolver orcidPrefixes (trim text.toList)).map upperAscii = orcidChars f ∧
        normal = orcidText f := by
  rw [checkOrcid_eq_accepted_iff, toList_trimmedText]

theorem isPlainOrcid_iff (text normal : String) :
    checkOrcid (.text text) = .accepted (some normal) ∧ HasPlainDigits normal.toList ↔ IsPlainOrcid text normal := by
  rw [checkOrcid_text_iff, IsPlainOrcid]
  constructor
  · rintro ⟨⟨f, sound, bare, rfl⟩, plain⟩
    rw [orcidText, String.toList_ofList, hasPlainDigits_orcidChars_iff sound] at plain
    exact ⟨f, sound, plain, bare, rfl⟩
  · rintro ⟨f, sound, written, bare, rfl⟩
    rw [orcidText, String.toList_ofList, hasPlainDigits_orcidChars_iff sound]
    exact ⟨⟨f, sound, bare, rfl⟩, written⟩

theorem isPlainOrcid_plainDigits {text normal : String} (accepted : checkOrcid (.text text) = .accepted (some normal)) :
    IsPlainOrcid (plainDigits text) (plainDigits normal) := by
  obtain ⟨f, sound, bare, rfl⟩ := checkOrcid_text_iff.mp accepted
  obtain ⟨sound', written⟩ := sound.comp_plainDigit
  refine ⟨plainDigit ∘ f, sound', written, ?_, ?_⟩
  · have upper : upperAscii ∘ plainDigit = plainDigit ∘ upperAscii := funext Text.upperAscii_plainDigit
    rw [Text.toList_plainDigits, Text.trim_map_plainDigit,
      Text.dropResolver_map_plainDigit (fun _ member => undigited_prefixes _ (List.mem_append_right _ member)),
      List.map_map, upper, ← List.map_map, bare, orcidChars_plainDigit]
  · rw [plainDigits, orcidText, orcidText, String.toList_ofList, orcidChars_plainDigit]

/-- What is accepted in ASCII digits is what the grammars make of them, and anything accepted comes to that when all its
digits are written in ASCII: the normal form of an ORCID identifier, the registrant of another identifier, a year and a
version. -/
theorem accepted_in_plain_digits (text normal : String) (least most : Value) (today : Date) :
    ((checkOrcid (.text text) = .accepted (some normal) ∧ HasPlainDigits normal.toList ↔ IsPlainOrcid text normal) ∧
      (checkOrcid (.text text) = .accepted (some normal) → IsPlainOrcid (plainDigits text) (plainDigits normal))) ∧
    ((checkDoi (.text text) = .accepted (some normal) ∧ HasPlainDigits (cutAt '/' normal.toList).1 ↔
        IsPlainDoi text normal) ∧
      (checkDoi (.text text) = .accepted (some normal) → IsPlainDoi (plainDigits text) (plainDigits normal))) ∧
    ((checkYear least most today (.text text) = .ok (.accepted none) ∧ HasPlainDigits text.toList ↔
        IsPlainYear least most today text) ∧
      (checkYear least most today (.text text) = .ok (.accepted none) →
        IsPlainYear least most today (plainDigits text))) ∧
    ((checkVersion (.text text)).isAccepted = true ∧ HasPlainDigits text.toList ↔ IsPlainVersion text) ∧
      ((checkVersion (.text text)).isAccepted = true → IsPlainVersion (plainDigits text)) := by
  refine ⟨?_, ?_, ?_, ?_⟩
  · exact ⟨isPlainOrcid_iff text normal, isPlainOrcid_plainDigits⟩
  · exact ⟨isPlainDoi_iff text normal, isPlainDoi_plainDigits⟩
  · exact ⟨isPlainYear_iff least most today text, isPlainYear_plainDigits⟩
  · exact ⟨isPlainVersion_iff text, isPlainVersion_plainDigits⟩

private def june : Date := ⟨2024, 6, 15, by decide⟩

theorem accepted_in_plain_digits_devanagari :
    (checkOrcid (.text "orcid.org/००००-०००२-१६९४-२३३x") = .accepted (some "००००-०००२-१६९४-२३३X") ∧
      IsPlainOrcid "orcid.org/0000-0002-1694-233x" "0000-0002-1694-233X") ∧
    (checkDoi (.text "doi:10.१२३४.५/x१") = .accepted (some "10.१२३४.५/x१") ∧
      IsPlainDoi "doi:10.1234.5/x1" "10.1234.5/x1") ∧
    (checkYear (.int 1900) .null june (.text "२०२3") = .ok (.accepted none) ∧
      IsPlainYear (.int 1900) .null june "2023") ∧
    (checkVersion (.text "1०.0.0-४a")).isAccepted = true ∧ IsPlainVersion "10.0.0-4a" := by
  have holds (text normal : String) := accepted_in_plain_digits text normal (.int 1900) .null june
  refine ⟨?_, ?_, ?_, ?_⟩
  · have accepted : checkOrcid (.text "orcid.org/००००-०००२-१६९४-२३३x") = .accepted (some "००००-०००२-१६९४-२३३X") := by
      let f : Fin 16 → Char :=
        !['०', '०', '०', '०', '०', '०', '०', '२', '१', '६', '९', '४', '२', '३', '३', 'X']
      exact checkOrcid_text_iff.mpr
        ⟨f, ⟨by decide, by decide, by decide⟩, by decide, by decide⟩
    have spelled : plainDigits "orcid.org/००००-०००२-१६९४-२३३x" = "orcid.org/0000-0002-1694-233x" := by decide
    have kept : plainDigits "००००-०००२-१६९४-२३३X" = "0000-0002-1694-233X" := by decide
    have plain := (holds _ _).1.2 accepted
    rw [spelled, kept] at plain
    exact ⟨accepted, plain⟩
  · have accepted : checkDoi (.text "doi:10.१२३४.५/x१") = .accepted (some "10.१२३४.५/x१") :=
      checkDoi_eq_accepted_iff.mpr ⟨by decide, by decide⟩
    have spelled : plainDigits "doi:10.१२३४.५/x१" = "doi:10.1234.5/x1" := by decide
    have kept : plainDigits "10.१२३४.५/x१" = "10.1234.5/x1" := by decide
    have plain := (holds _ _).2.1.2 accepted
    rw [spelled, kept] at plain
    exact ⟨accepted, plain⟩
  · have accepted : checkYear (.int 1900) .null june (.text "२०२3") = .ok (.accepted none) :=
      checkYear_text_iff.mpr ⟨2023, readYear?_eq_some_iff_isYearText.mp (by decide), rfl⟩
    have spelled : plainDigits "२०२3" = "2023" := by decide
    have plain := (holds _ "").2.2.1.2 accepted
    rw [spelled] at plain
    exact ⟨accepted, plain⟩
  · have accepted : (checkVersion (.text "1०.0.0-४a")).isAccepted = true := by decide
    have spelled : plainDigits "1०.0.0-४a" = "10.0.0-4a" := by decide
    have plain := (holds _ "").2.2.2.2 accepted
    rw [spelled] at plain
    exact ⟨accepted, plain⟩

/-- Digits of another script are accepted in all four, and kept in the normal forms. -/
theorem accepted_devanagari :
    (∃ normal, checkOrcid (.text "००००-०००२-१८२५-००९7") = .accepted (some normal) ∧ ¬HasPlainDigits normal.toList) ∧
    (∃ normal, checkDoi (.text "10.१२३४/abc") = .accepted (some normal) ∧
      ¬HasPlainDigits (cutAt '/' normal.toList).1) ∧
    (checkYear (.int 1900) .null june (.text "२०२३") = .ok (.accepted none) ∧ ¬HasPlainDigits "२०२३".toList) ∧
    (checkVersion (.text "1०.0")).isAccepted = true ∧ ¬HasPlainDigits "1०.0".toList := by
  refine ⟨?_, ?_, ?_, ?_⟩
  · let f : Fin 16 → Char :=
      !['०', '०', '०', '०', '०', '०', '०', '२', '१', '८', '२', '५', '०', '०', '९', '7']
    refine ⟨orcidText f, checkOrcid_text_iff.mpr ⟨f, ⟨?_, ?_, ?_⟩, ?_, rfl⟩, ?_⟩ <;> decide
  · refine ⟨"10.१२३४/abc", checkDoi_eq_accepted_iff.mpr ⟨?_, ?_⟩, ?_⟩ <;> decide
  · refine ⟨checkYear_text_iff.mpr ⟨2023, readYear?_eq_some_iff_isYearText.mp ?_, rfl⟩, ?_⟩ <;> decide
  · decide

end Format

end DatasetForm
