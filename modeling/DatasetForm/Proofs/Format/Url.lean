import DatasetForm.Format.Url
import DatasetForm.Proofs.Address.Authority
import DatasetForm.Proofs.Value.Part

/-!
Accepted web addresses. What is accepted is read as an address over http or https with an authority, and the text is
kept as it stands. It begins with its scheme and names a host just under the conditions of `checkUrl_namesHost_iff`.
-/

set_option autoImplicit false
set_option relaxedAutoImplicit false

namespace DatasetForm

namespace Format

open Address (IsClear authorityFault? authorityOf endsAuthority hostOf isNoise splitScheme withoutNoise)
open Text (afterLast isLetter lowerAscii trim)

/-- The text begins with one of the schemes and two slashes, as it stands, and the authority after them names a host.
Tabs and line ends are no characters of an authority. -/
def NamesHost (cs : List Char) : Prop :=
  ∃ written rest, cs = written ++ ':' :: '/' :: '/' :: rest ∧ written.map lowerAscii ∈ webSchemes ∧
    hostOf ((rest.takeWhile (!endsAuthority ·)).filter (!isNoise ·)) ≠ []

variable {cs written rest : List Char} {address : WebAddress}

theorem letters_of_webScheme (web : written.map lowerAscii ∈ webSchemes) :
    written ≠ [] ∧ ∀ c ∈ written, isLetter c = true := by
  have letters : ∀ scheme ∈ webSchemes, scheme ≠ [] ∧ ∀ c ∈ scheme, 0x61 ≤ c.toNat ∧ c.toNat ≤ 0x7A := by decide
  obtain ⟨filled, small⟩ := letters _ web
  refine ⟨by simpa using filled, fun c member => ?_⟩
  exact Text.isLetter_of_lowerAscii (small _ (List.mem_map_of_mem member))

/-- Nothing of a scheme and the marks after it is left out in reading. -/
private theorem isClear_written (web : written.map lowerAscii ∈ webSchemes) : IsClear (written ++ [':', '/', '/']) := by
  intro c member
  rcases List.mem_append.mp member with letter | mark
  · have found := (letters_of_webScheme web).2 c letter
    simp only [isLetter, Text.isCapital, Bool.or_eq_true, Bool.and_eq_true, decide_eq_true_eq] at found
    simp only [Address.isLeadingNoise, decide_eq_false_iff_not]
    omega
  · have marks : ∀ c ∈ [':', '/', '/'], Address.isLeadingNoise c = false := by decide
    exact marks c mark

private theorem not_mem_written (web : written.map lowerAscii ∈ webSchemes) : ':' ∉ written :=
  fun member => absurd ((letters_of_webScheme web).2 ':' member) (by decide)

/-- No scheme is accepted where none is read. -/
private theorem nil_not_mem_webSchemes : [] ∉ webSchemes := by
  decide

theorem checkUrl_eq_accepted_iff {text : String} {normal : Option String} :
    checkUrl (.text text) = .accepted normal ↔ normal = some (Text.strip text) ∧
      ∃ address, WebAddress.parse (trim text.toList) = .ok address ∧ address.scheme ∈ webSchemes ∧
        address.authority ≠ [] := by
  have kept : (Value.text text).trimmedText = Text.strip text := rfl
  rw [checkUrl, toList_trimmedText, kept]
  cases blank : (Value.text text).isBlank with
  | true =>
    have nothing : WebAddress.parse [] = .ok ⟨[], []⟩ := rfl
    rw [if_pos rfl, (isBlank_text_iff text).mp blank, nothing]
    refine iff_of_false Verdict.noConfusion ?_
    rintro ⟨-, address, read, web, -⟩
    cases read
    exact nil_not_mem_webSchemes web
  | false =>
    cases WebAddress.parse (trim text.toList) with
    | error fault => simp
    | ok address =>
      by_cases web : address.scheme ∈ webSchemes <;> by_cases empty : address.authority = [] <;>
        simp [web, empty, @eq_comm _ (some (Text.strip text))]

/-- An address over http or https with an authority, as it is read. -/
theorem exists_of_parse (read : WebAddress.parse cs = .ok address) (web : address.scheme ∈ webSchemes)
    (filled : address.authority ≠ []) :
    ∃ written rest, withoutNoise cs = written ++ ':' :: '/' :: '/' :: rest ∧
      written.map lowerAscii = address.scheme ∧ rest.takeWhile (!endsAuthority ·) = address.authority ∧
        authorityFault? address.authority = none := by
  cases split : splitScheme (withoutNoise cs) with
  | mk scheme after =>
    rw [WebAddress.parse, split] at read
    dsimp only at read
    split at read
    · cases read
    next sound =>
      cases read
      have named : scheme ≠ [] := by
        rintro rfl
        exact nil_not_mem_webSchemes web
      obtain ⟨written, whole, spells⟩ := Address.exists_of_splitScheme split named
      obtain ⟨rest, rfl, authority⟩ := Address.exists_of_authorityOf filled
      exact ⟨written, rest, whole, spells, authority.symm, sound⟩

/-- An address that is read as one over http or https with an authority names a host exactly when nothing is left out
of its scheme and the marks after it, and something other than a colon follows the last at sign of the authority. -/
theorem namesHost_iff (read : WebAddress.parse cs = .ok address) (web : address.scheme ∈ webSchemes)
    (filled : address.authority ≠ []) :
    NamesHost cs ↔ IsClear (cs.take (address.scheme.length + 3)) ∧
      ∃ c, (afterLast '@' address.authority).head? = some c ∧ c ≠ ':' := by
  obtain ⟨written, rest, whole, spells, authority, sound⟩ := exists_of_parse read web filled
  have begins (written rest : List Char) :
      written ++ ':' :: '/' :: '/' :: rest = written ++ [':', '/', '/'] ++ rest := by simp
  have nonempty (written : List Char) : written ++ [':', '/', '/'] ≠ [] := by simp
  have length : (written ++ [':', '/', '/']).length = address.scheme.length + 3 := by
    rw [← spells, List.length_append, List.length_map]
    rfl
  rw [← spells] at web
  rw [← Address.hostOf_ne_nil_iff sound, ← authority, ← length]
  have reads (rest' : List Char) := @Address.withoutNoise_eq_append_iff cs _ rest' (nonempty written) (isClear_written web)
  rw [begins] at whole
  constructor
  · rintro ⟨written', rest', rfl, web', named⟩
    rw [begins, Address.withoutNoise_append (isClear_written web') (nonempty written'), ← begins, ← begins] at whole
    have same := congrArg (Text.cutAt ':') whole
    rw [Text.cutAt_append (not_mem_written web'), Text.cutAt_append (not_mem_written web)] at same
    cases same
    exact ⟨((reads _).mpr ⟨rest', begins .., rfl⟩).2, by rwa [Address.takeWhile_filter_noise]⟩
  · rintro ⟨clear, named⟩
    obtain ⟨rest', same, rfl⟩ := (reads rest).mp ⟨whole, clear⟩
    refine ⟨written, rest', same.trans (begins ..).symm, web, ?_⟩
    rwa [← Address.takeWhile_filter_noise]

/-- What is accepted is kept as it stands, blanks around it aside, and is read as an address over http or https with an
authority. It begins with its scheme and two slashes and names a host exactly when its first characters, as many as the
scheme and the marks have, are neither controls nor spaces, and something other than the colon of a port follows the
last at sign of the authority. -/
theorem checkUrl_namesHost_iff {text : String} {normal : Option String}
    (accepted : checkUrl (.text text) = .accepted normal) :
    normal = some (Text.strip text) ∧
      ∃ address, WebAddress.parse (trim text.toList) = .ok address ∧ address.scheme ∈ webSchemes ∧
        address.authority ≠ [] ∧
          (NamesHost (Text.strip text).toList ↔ IsClear ((trim text.toList).take (address.scheme.length + 3)) ∧
            ∃ c, (afterLast '@' address.authority).head? = some c ∧ c ≠ ':') := by
  obtain ⟨kept, address, read, web, filled⟩ := checkUrl_eq_accepted_iff.mp accepted
  refine ⟨kept, address, read, web, filled, ?_⟩
  rw [Text.toList_strip]
  exact namesHost_iff read web filled

/-- An address with a user, brackets and a port, where a tab is left out in reading. -/
private def gauge : String :=
  " hTTps://ann:x@[2001:db8::1]:8080/snow\tdepth "

theorem checkUrl_namesHost_iff_gauge :
    checkUrl (.text gauge) = .accepted (some (Text.strip gauge)) ∧ NamesHost (Text.strip gauge).toList := by
  have accepted : checkUrl (.text gauge) = .accepted (some (Text.strip gauge)) := rfl
  obtain ⟨-, address, read, -, -, named⟩ := checkUrl_namesHost_iff accepted
  refine ⟨accepted, named.mpr ?_⟩
  have found : WebAddress.parse (trim gauge.toList) = .ok ⟨"https".toList, "ann:x@[2001:db8::1]:8080".toList⟩ := rfl
  rw [found] at read
  cases read
  exact ⟨by unfold IsClear; decide, '[', rfl, by decide⟩

/-- Only the authority is looked at, and in the address as it is read: a port alone and a user alone are taken for a
host, and a control before the scheme is kept. -/
theorem checkUrl_hostless :
    (checkUrl (.text "http://:80") = .accepted (some "http://:80") ∧ ¬NamesHost "http://:80".toList) ∧
      (checkUrl (.text "http://ann@") = .accepted (some "http://ann@") ∧ ¬NamesHost "http://ann@".toList) ∧
        checkUrl (.text "\x01http://ice.example.org") = .accepted (some "\x01http://ice.example.org") ∧
          ¬NamesHost "\x01http://ice.example.org".toList := by
  have port : ¬NamesHost "http://:80".toList := by
    have read : WebAddress.parse "http://:80".toList = .ok ⟨"http".toList, ":80".toList⟩ := rfl
    rw [namesHost_iff read (by decide) (by decide)]
    rintro ⟨-, c, first, other⟩
    cases first
    exact other rfl
  have user : ¬NamesHost "http://ann@".toList := by
    have read : WebAddress.parse "http://ann@".toList = .ok ⟨"http".toList, "ann@".toList⟩ := rfl
    rw [namesHost_iff read (by decide) (by decide)]
    rintro ⟨-, c, first, -⟩
    cases first
  have control : ¬NamesHost "\x01http://ice.example.org".toList := by
    have read : WebAddress.parse "\x01http://ice.example.org".toList =
        .ok ⟨"http".toList, "ice.example.org".toList⟩ := rfl
    rw [namesHost_iff read (by decide) (by decide)]
    rintro ⟨clear, -⟩
    exact absurd (clear '\x01' List.mem_cons_self) (by decide)
  exact ⟨⟨rfl, port⟩, ⟨rfl, user⟩, rfl, control⟩

end Format

end DatasetForm
