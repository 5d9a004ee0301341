import DatasetForm.Json.Reader
import DatasetForm.Proofs.Value.Mapping

/-!
The mappings that are read from a file of plain scalars, lists and mappings: their keys are texts, each there once,
and so are the keys of the mappings right under them.
-/

set_option autoImplicit false
set_option relaxedAutoImplicit false

namespace DatasetForm

namespace Entries

/-- The keys are texts, each there once, and so are the keys of the mappings in the values. -/
structure IsNested (entries : Entries) : Prop where
  object : IsObject entries
  inner : ∀ entry ∈ entries, ∀ fields, entry.2 = .mapping fields → IsObject fields

theorem isNested_nil : IsNested [] :=
  ⟨isObject_nil, by simp⟩

theorem IsNested.insert {entries : Entries} (nested : IsNested entries) (s : String) {v : Value}
    (object : ∀ fields, v = .mapping fields → IsObject fields) :
    IsNested (Entries.insert entries (.text s) v) := by
  refine ⟨nested.object.insert s v, fun entry member fields same => ?_⟩
  rcases mem_insert member with old | ⟨-, new⟩
  · exact nested.inner entry old fields same
  · exact object fields (new ▸ same)

end Entries

namespace Json

open Entries (IsObject IsNested)

private theorem exists_of_map_ok {α β : Type} {f : α → β} {read : Except JsonFault α} {b : β}
    (ok : read.map f = .ok b) : ∃ a, read = .ok a ∧ f a = b := by
  cases read with
  | error fault => cases ok
  | ok a => exact ⟨a, rfl, Except.ok.inj ok⟩

private theorem exists_of_bind_ok {α β : Type} {f : α → Except JsonFault β} {read : Except JsonFault α} {b : β}
    (ok : (read >>= f) = .ok b) : ∃ a, read = .ok a ∧ f a = .ok b := by
  cases read with
  | error fault => cases ok
  | ok a => exact ⟨a, rfl, ok⟩

/-- If the value is a mapping, it is one of texts, each there once, and so are the mappings right under it. -/
private def Reads (v : Value) : Prop :=
  ∀ entries, v = .mapping entries → IsNested entries

private theorem reads_of_ne {v : Value} (other : ∀ entries, v ≠ .mapping entries) : Reads v :=
  fun entries same => absurd same (other entries)

private theorem scalarNumber_reads {written : List Char} {d : Decimal} {v : Value}
    (read : Dialect.scalarNumber written d = .ok v) : Reads v := by
  rw [Dialect.scalarNumber] at read
  split at read
  · cases read
    exact reads_of_ne (by simp)
  · split at read <;> cases read <;> exact reads_of_ne (by simp)

private theorem takeScalar_reads {cs rest : List Char} {v : Value}
    (read : takeScalar .scalars cs = .ok (v, rest)) : Reads v := by
  rw [takeScalar] at read
  split at read
  next found =>
    cases read
    obtain ⟨word, member, taken⟩ := List.exists_of_findSome?_eq_some found
    obtain ⟨after, -, same⟩ := Option.map_eq_some_iff.mp taken
    cases same
    refine reads_of_ne fun entries same => ?_
    simp [words, Dialect.scalars, same, Prod.ext_iff] at member
  · split at read
    · cases read
    · split at read
      next number =>
        cases read
        exact scalarNumber_reads number
      · cases read

/-- Values and fields are read by each other, so that both are followed by one induction on the fuel. -/
private theorem takeValue_takeFields (fuel : Nat) :
    (∀ depth cs v rest, takeValue .scalars depth fuel cs = .ok (v, rest) → Reads v) ∧
      ∀ depth done cs fields rest, IsNested done →
        takeFields .scalars depth fuel done cs = .ok (fields, rest) → IsNested fields := by
  induction fuel with
  | zero =>
    constructor
    · intro depth cs v rest read
      rw [takeValue] at read
      cases read
    · intro depth done cs fields rest _ read
      rw [takeFields] at read
      cases read
  | succ fuel ih =>
    obtain ⟨values, objects⟩ := ih
    constructor
    · intro depth cs v rest read
      unfold takeValue at read
      split at read
      · obtain ⟨_, -, same⟩ := exists_of_map_ok read
        cases same
        exact reads_of_ne (by simp)
      · split at read
        · cases read
        · split at read
          · cases read
            exact reads_of_ne (by simp)
          · obtain ⟨_, -, same⟩ := exists_of_map_ok read
            cases same
            exact reads_of_ne (by simp)
      · split at read
        · cases read
        · split at read
          · cases read
            rintro _ ⟨⟩
            exact Entries.isNested_nil
          · obtain ⟨⟨fields, after⟩, taken, same⟩ := exists_of_map_ok read
            cases same
            rintro _ ⟨⟩
            exact objects _ _ _ _ _ Entries.isNested_nil taken
      · exact takeScalar_reads read
    · intro depth done cs fields rest nested read
      unfold takeFields at read
      split at read
      · obtain ⟨⟨key, afterKey⟩, -, read⟩ := exists_of_bind_ok read
        dsimp only at read
        split at read
        · split at read
          · obtain ⟨⟨v, afterValue⟩, taken, read⟩ := exists_of_bind_ok read
            have put : IsNested (done.insert (.text (String.ofList key)) v) :=
              nested.insert _ fun fields same => (values _ _ _ _ taken fields same).object
            dsimp only at read
            split at read
            · cases read
              exact put
            · exact objects _ _ _ _ _ put read
            · cases read
          · cases read
        · cases read
      · cases read

/-- A mapping in a file has texts for keys, each there once, and so have the mappings right under it. -/
theorem isNested_of_readScalars {cs : List Char} {entries : Entries}
    (read : readScalars cs = .ok (.mapping entries)) : IsNested entries := by
  unfold readScalars at read
  extract_lets unmarked at read
  obtain ⟨_, -, read⟩ := exists_of_bind_ok read
  split at read
  · cases read
  · obtain ⟨v, readAs_ok, read⟩ := exists_of_bind_ok read
    split at read
    · cases read
      rw [readAs] at readAs_ok
      split at readAs_ok
      · cases readAs_ok
      next taken =>
        split at readAs_ok
        · cases readAs_ok
          exact (takeValue_takeFields _).1 _ _ _ _ taken entries rfl
        · cases readAs_ok
    · cases read

end Json

end DatasetForm
