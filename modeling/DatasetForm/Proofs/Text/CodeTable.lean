import DatasetForm.Text.Packed
import Mathlib.Data.List.Chain
import Mathlib.Data.Nat.Bitwise

/-!
Tables of code points. A table whose code points ascend holds for each code point what its entry says
(`IsAscending.lookup?_eq_some_iff`). A set of code points is kept as a number, so that whether it holds a code point is
quickly computed; this is how something is decided for all entries of a table.
-/

set_option autoImplicit false
set_option relaxedAutoImplicit false

namespace DatasetForm.Text

/-- The set of some code points: the number whose bits at these places are set. -/
def codeSet (codes : List Nat) : Nat :=
  codes.foldr (fun code set => set ||| 1 <<< code) 0

theorem testBit_codeSet {codes : List Nat} {code : Nat} : (codeSet codes).testBit code = true ↔ code ∈ codes := by
  induction codes with
  | nil => simp [codeSet]
  | cons first codes ih =>
    rw [codeSet, List.foldr_cons, ← codeSet, Nat.testBit_or, Nat.one_shiftLeft, Nat.testBit_two_pow, Bool.or_eq_true,
      ih, decide_eq_true_eq, List.mem_cons, or_comm, eq_comm]

/-- A comparison of numerals is computed in one step as a Boolean, in many as a proposition to be decided. -/
theorem decide_le_eq_ble (a b : Nat) : decide (a ≤ b) = a.ble b := by
  rw [Bool.eq_iff_iff, decide_eq_true_eq, Nat.ble_eq]

theorem decide_lt_eq_blt (a b : Nat) : decide (a < b) = a.blt b :=
  decide_le_eq_ble (a + 1) b

theorem toNat_ofNat {code : Nat} (valid : code < 0xD800 ∨ 0xE000 ≤ code ∧ code < 0x110000) :
    (Char.ofNat code).toNat = code := by
  have valid' : code.isValidChar := by
    rw [Nat.isValidChar]
    omega
  rw [Char.ofNat, dif_pos valid']
  rfl

/-- All entries of a table: a code point and what stands for it. -/
def entriesOf (table : List Page) : List (Nat × List Nat) :=
  table.flatMap (·.2)

/-- The pages ascend, so do the entries on each of them, and each entry stands on the page of its code point. -/
structure IsAscending (table : List Page) : Prop where
  pages : (table.map Prod.fst).IsChain (· < ·)
  codes : ∀ page ∈ table, (page.2.map Prod.fst).IsChain (· < ·)
  paged : ∀ page ∈ table, ∀ entry ∈ page.2, entry.1 / 256 = page.1

private theorem lookup_of_mem {α : Type} {entries : List (Nat × α)} {code : Nat} {value : α}
    (ascending : (entries.map Prod.fst).Pairwise (· < ·)) (member : (code, value) ∈ entries) :
    entries.lookup code = some value := by
  obtain ⟨before, after, rfl⟩ := List.append_of_mem member
  refine List.lookup_eq_some_iff.mpr ⟨before, after, rfl, fun entry first => ?_⟩
  rw [List.map_append, List.pairwise_append] at ascending
  have less : entry.1 < code := ascending.2.2 entry.1 (List.mem_map_of_mem first) code (by simp)
  exact bne_iff_ne.mpr less.ne'

theorem mem_of_lookup {α : Type} {entries : List (Nat × α)} {code : Nat} {value : α}
    (found : entries.lookup code = some value) : (code, value) ∈ entries := by
  obtain ⟨before, after, rfl, -⟩ := List.lookup_eq_some_iff.mp found
  simp

theorem mem_entriesOf_of_lookup? {table : List Page} {code : Nat} {parts : List Nat}
    (found : lookup? table code = some parts) : (code, parts) ∈ entriesOf table := by
  obtain ⟨page, first, second⟩ := Option.bind_eq_some_iff.mp found
  exact List.mem_flatMap.mpr ⟨(code / 256, page), mem_of_lookup first, mem_of_lookup second⟩

theorem IsAscending.lookup?_eq_some_iff {table : List Page} (ascending : IsAscending table) {code : Nat}
    {parts : List Nat} : lookup? table code = some parts ↔ (code, parts) ∈ entriesOf table := by
  refine ⟨mem_entriesOf_of_lookup?, fun member => ?_⟩
  obtain ⟨page, listed, held⟩ := List.mem_flatMap.mp member
  have number : code / 256 = page.1 := ascending.paged page listed (code, parts) held
  have found : table.lookup (code / 256) = some page.2 :=
    number ▸ lookup_of_mem (List.isChain_iff_pairwise.mp ascending.pages) listed
  rw [lookup?, found, Option.bind_some, lookup_of_mem (List.isChain_iff_pairwise.mp (ascending.codes page listed)) held]

end DatasetForm.Text
