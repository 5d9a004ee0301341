import DatasetForm.Proofs.Role.Label
import DatasetForm.Proofs.Text.Resolver
import DatasetForm.Role.Contributor

/-!
What the kind of a contributor depends on. Of the roles only the keys of those that are not blank count
(`infer_congr`), so that the kind is the same for roles in any order, written more than once, in other spellings, or
replaced by their labels.
-/

set_option autoImplicit false
set_option relaxedAutoImplicit false

namespace DatasetForm

namespace Role

/-- The key is that of a role that only an institution can have. -/
def IsInstitutionalKey (key : String) : Prop :=
  ∃ role ∈ all, role.isInstitutional = true ∧ role.key = key

instance (key : String) : Decidable (IsInstitutionalKey key) :=
  inferInstanceAs (Decidable (∃ _ ∈ _, _))

theorem mem_all (role : Role) : role ∈ all := by
  cases role <;> decide

theorem isInstitutionalName_iff {name : String} :
    isInstitutionalName name = true ↔ IsInstitutionalKey (keyOf name) := by
  rw [isInstitutionalName]
  constructor
  · intro institutional
    split at institutional
    next role known => exact ⟨role, mem_all role, institutional, key_of_ofKey? known⟩
    · cases institutional
  · rintro ⟨role, -, institutional, key⟩
    rw [← key, ofKey?_key]
    exact institutional

/-- One of the names is not blank and has the key. -/
def HasKey (names : List String) (key : String) : Prop :=
  ∃ name ∈ names, Text.strip name ≠ "" ∧ keyOf name = key

/-- The labels of names have the keys of the names. -/
theorem hasKey_labelsOf {names : List String} {key : String} : HasKey (labelsOf names) key ↔ HasKey names key := by
  constructor
  · rintro ⟨label, member, -, rfl⟩
    obtain ⟨name, found, filled, rfl⟩ := mem_labelsOf.mp member
    exact ⟨name, found, filled, (keyOf_labelOf name).symm⟩
  · rintro ⟨name, member, filled, rfl⟩
    refine ⟨labelOf name, mem_labelsOf.mpr ⟨name, member, filled, rfl⟩, ?_, keyOf_labelOf name⟩
    rw [strip_labelOf]
    exact mt (labelOf_eq_empty_iff name).mp filled

/-- Two names are one role: the same text, or spellings with the same key. -/
def IsVariant (name other : String) : Prop :=
  name = other ∨ keyOf name = keyOf other ∧ keyOf name ≠ ""

instance (name other : String) : Decidable (IsVariant name other) :=
  inferInstanceAs (Decidable (_ ∨ _ ∧ _))

/-- The names are the same roles, in whatever order, however often and in whatever spelling. -/
structure AreSame (names others : List String) : Prop where
  left : ∀ name ∈ names, ∃ other ∈ others, IsVariant name other
  right : ∀ other ∈ others, ∃ name ∈ names, IsVariant other name

instance (names others : List String) : Decidable (AreSame names others) :=
  decidable_of_iff (_ ∧ _) ⟨fun both => ⟨both.1, both.2⟩, fun same => ⟨same.left, same.right⟩⟩

theorem keyOf_of_blank {name : String} (blank : Text.strip name = "") : keyOf name = "" := by
  rw [keyOf, rawKey_of_blank blank]
  rfl

private theorem HasKey.variant {names others : List String} {key : String} (held : HasKey names key)
    (within : ∀ name ∈ names, ∃ other ∈ others, IsVariant name other) : HasKey others key := by
  obtain ⟨name, member, filled, rfl⟩ := held
  obtain ⟨other, found, rfl | ⟨keys, keyed⟩⟩ := within name member
  · exact ⟨name, found, filled, rfl⟩
  · have filled' : Text.strip other ≠ "" := by
      intro blank
      exact keyed (keys.trans (keyOf_of_blank blank))
    exact ⟨other, found, filled', keys.symm⟩

theorem AreSame.hasKey_iff {names others : List String} (same : AreSame names others) (key : String) :
    HasKey names key ↔ HasKey others key :=
  ⟨fun held => held.variant same.left, fun held => held.variant same.right⟩

/-- Role names as a list of values. -/
def valueOf (names : List String) : Value :=
  .list (names.map Value.text)

theorem namesIn_valueOf (names : List String) : namesIn (valueOf names) = .ok names := by
  have texts : textsAmong (names.map Value.text) = names := by
    rw [textsAmong, List.filterMap_map]
    exact List.filterMap_some
  cases names with
  | nil => rfl
  | cons name names => exact congrArg Except.ok texts

end Role

namespace ContributorKind

open Role (HasKey IsInstitutionalKey)

/-- The declared type is the word for an institution, blanks around it and the case of its letters aside. -/
def NamesInstitution (declared : String) : Prop :=
  (Text.trim declared.toList).map Text.lowerAscii = ContributorKind.institution.word.toList

instance (declared : String) : Decidable (NamesInstitution declared) :=
  inferInstanceAs (Decidable (_ = _))

private theorem isPlainPrefix_institution : Text.IsPlainPrefix ContributorKind.institution.word.toList := by
  decide

theorem namesInstitution_iff {declared : String} : namesInstitution declared = true ↔ NamesInstitution declared := by
  rw [namesInstitution, beq_iff_eq, Text.lower_eq_iff isPlainPrefix_institution, Text.toList_strip, NamesInstitution]

theorem infer_eq_institution_iff {declared : String} {names : List String} :
    infer declared names = .institution ↔ NamesInstitution declared ∨
      (∃ key, HasKey names key) ∧ ∀ key, HasKey names key → IsInstitutionalKey key := by
  have some_filled : (names.filter fun role => Text.strip role != "") ≠ [] ↔ ∃ key, HasKey names key := by
    constructor
    · intro filled
      obtain ⟨name, member⟩ := List.exists_mem_of_ne_nil _ filled
      rw [List.mem_filter, bne_iff_ne] at member
      exact ⟨_, name, member.1, member.2, rfl⟩
    · rintro ⟨_, name, member, filled, -⟩
      exact List.ne_nil_of_mem (List.mem_filter.mpr ⟨member, bne_iff_ne.mpr filled⟩)
  have all_institutional : ((names.filter fun role => Text.strip role != "").all Role.isInstitutionalName) = true ↔
      ∀ key, HasKey names key → IsInstitutionalKey key := by
    rw [List.all_eq_true]
    constructor
    · rintro each key ⟨name, member, filled, rfl⟩
      exact Role.isInstitutionalName_iff.mp (each name (List.mem_filter.mpr ⟨member, bne_iff_ne.mpr filled⟩))
    · intro each name member
      rw [List.mem_filter, bne_iff_ne] at member
      exact Role.isInstitutionalName_iff.mpr (each _ ⟨name, member.1, member.2, rfl⟩)
  rw [← namesInstitution_iff, ← some_filled, ← all_institutional, infer]
  generalize names.filter (fun role => Text.strip role != "") = filled
  cases namesInstitution declared with
  | true => simp
  | false => cases filled <;> simp

/-- Roles with the same keys make a contributor of the same kind. -/
theorem infer_congr {names others : List String} (keys : ∀ key, HasKey names key ↔ HasKey others key)
    (declared : String) : infer declared names = infer declared others := by
  have same : infer declared names = .institution ↔ infer declared others = .institution := by
    rw [infer_eq_institution_iff, infer_eq_institution_iff]
    simp only [keys]
  cases first : infer declared names with
  | institution => exact (same.mp first).symm
  | person =>
    cases second : infer declared others with
    | person => rfl
    | institution => exact first.symm.trans (same.mpr second)

theorem infer_labelsOf (declared : String) (names : List String) :
    infer declared (Role.labelsOf names) = infer declared names :=
  infer_congr (fun _ => Role.hasKey_labelsOf) declared

theorem roleNames_valueOf (names : List String) : roleNames (Role.valueOf names) = .ok names := by
  have items : (Role.valueOf names).itemsOrNone = .ok (names.map Value.text) := by
    cases names <;> rfl
  rw [roleNames, items]
  refine mapM_eq_ok_iff.mpr ?_
  rw [List.forall₂_map_left_iff, List.forall₂_same]
  intro name _
  exact textOrEmpty_text name "strip"

theorem inferFrom_valueOf (declared : Option String) (names : List String) :
    inferFrom (Record.textValue declared) (Role.valueOf names) = .ok (infer (declared.getD "") names) := by
  rw [inferFrom, Record.textValue_eq, DateRow.textOrEmpty_partValue, roleNames_valueOf]
  cases decides : namesInstitution (declared.getD "") with
  | true => simp [decides, infer]
  | false => simp [decides, Except.map]

/-- The kind of a contributor is the same for the labels of the roles as for the roles, and for the same roles in any
order, number and spelling. It is an institution exactly when it is declared as one, or there are roles and only
institutions can have them. -/
theorem inferFrom_roles (declared : Option String) (names : List String) :
    (((Role.namesIn (Role.valueOf names)).map Role.labelsOf).bind fun labels =>
        inferFrom (Record.textValue declared) (Role.valueOf labels)) =
      inferFrom (Record.textValue declared) (Role.valueOf names) ∧
    (∀ others, Role.AreSame names others →
      inferFrom (Record.textValue declared) (Role.valueOf others) =
        inferFrom (Record.textValue declared) (Role.valueOf names)) ∧
    ∃ kind, inferFrom (Record.textValue declared) (Role.valueOf names) = .ok kind ∧
      (kind = .institution ↔
        (∃ text, declared = some text ∧ NamesInstitution text) ∨
          (∃ name ∈ names, Text.strip name ≠ "") ∧
            ∀ name ∈ names, Text.strip name ≠ "" → IsInstitutionalKey (Role.keyOf name)) := by
  refine ⟨?_, ?_, infer (declared.getD "") names, inferFrom_valueOf declared names, ?_⟩
  · rw [Role.namesIn_valueOf]
    change inferFrom (Record.textValue declared) (Role.valueOf (Role.labelsOf names)) = _
    rw [inferFrom_valueOf, inferFrom_valueOf, infer_labelsOf]
  · intro others same
    rw [inferFrom_valueOf, inferFrom_valueOf, infer_congr fun key => (same.hasKey_iff key).symm]
  · have declares : NamesInstitution (declared.getD "") ↔ ∃ text, declared = some text ∧ NamesInstitution text := by
      cases declared with
      | none =>
        have empty : ¬NamesInstitution "" := by decide
        simp [empty]
      | some text => simp
    have exists_key : (∃ key, HasKey names key) ↔ ∃ name ∈ names, Text.strip name ≠ "" := by
      simp [HasKey]
    have forall_key : (∀ key, HasKey names key → IsInstitutionalKey key) ↔
        ∀ name ∈ names, Text.strip name ≠ "" → IsInstitutionalKey (Role.keyOf name) := by
      constructor
      · intro each name member filled
        exact each _ ⟨name, member, filled, rfl⟩
      · rintro each _ ⟨name, member, filled, rfl⟩
        exact each name member filled
    rw [infer_eq_institution_iff, declares, exists_key, forall_key]

/-- Two lists of roles that only institutions can have, one with a name written twice and a blank one. -/
theorem inferFrom_roles_hosts :
    let names := ["  Hosting-Institution ", "sponsor", "HostingInstitution", " "]
    let others := ["Spönsör", " ", "hosting institution"]
    Role.AreSame names others ∧ inferFrom .null (Role.valueOf names) = .ok .institution ∧
      inferFrom .null (Role.valueOf others) = .ok .institution ∧
      Role.namesIn (Role.valueOf names) = .ok names ∧
      Role.labelsOf names = ["Hosting Institution", "Sponsor"] := by
  intro names others
  have same : Role.AreSame names others := by decide +kernel
  obtain ⟨-, alike, kind, found, institution⟩ := inferFrom_roles none names
  have institutional : kind = .institution := institution.mpr (.inr (by decide +kernel))
  rw [institutional] at found
  exact ⟨same, found, (alike others same).trans found, Role.namesIn_valueOf names, by decide +kernel⟩

end ContributorKind

end DatasetForm
