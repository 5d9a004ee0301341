import DatasetForm.Proofs.Number.Rounding
import DatasetForm.Value.Basic
import Mathlib.Data.Option.NAry

/-!
What tables tell keys apart by. Numbers count by their value whatever their kind, times with an offset by their
instant, and whatever holds other values by these. Among values that can be looked up, being the same is having one
key (`same_iff`), so that it is symmetric and transitive. It is not reflexive: what is not a number has no key.
-/

set_option autoImplicit false
set_option relaxedAutoImplicit false

namespace DatasetForm

namespace Binary64

/-- A place among the numbers and the two infinities. -/
inductive Place
  | infinite (negative : Bool)
  | finite (value : ℚ)

/-- The place of a number; what is not a number has none. -/
def place? : Binary64 → Option Place
  | .nan => none
  | .infinite negative => some (.infinite negative)
  | .finite negative m e => some (.finite (if negative then -((m : ℚ) * 2 ^ e) else (m : ℚ) * 2 ^ e))

theorem signedQuotient_value (negative : Bool) (m : Nat) (e : Int) :
    ((signedQuotient negative m e).1 : ℚ) / (signedQuotient negative m e).2 =
      if negative then -((m : ℚ) * 2 ^ e) else (m : ℚ) * 2 ^ e := by
  have magnitude := quotient_value m e
  cases negative with
  | false => exact magnitude
  | true => simpa [signedQuotient, neg_div] using magnitude

theorem signedQuotient_positive (negative : Bool) (m : Nat) (e : Int) : 0 < (signedQuotient negative m e).2 :=
  Nat.pow_pos (by decide)

/-- Quotients are equal when they are equal across. -/
private theorem compare_across_iff {p r : Int} {q s : Nat} (positive : 0 < q) (positive' : 0 < s) :
    compare (p * s) (r * q) = .eq ↔ (p : ℚ) / q = r / s := by
  have some : (q : ℚ) ≠ 0 := by positivity
  have some' : (s : ℚ) ≠ 0 := by positivity
  rw [compare_eq_iff_eq, div_eq_div_iff some some']
  exact_mod_cast Iff.rfl

/-- Numbers compare equal when they have one place. -/
theorem compare?_eq_iff (x y : Binary64) : x.compare? y = some .eq ↔ ∃ place ∈ y.place?, place ∈ x.place? := by
  cases x with
  | nan => simp [compare?, place?]
  | infinite negative =>
    cases y with
    | nan => simp [compare?, place?]
    | infinite negative' => cases negative <;> cases negative' <;> simp [compare?, place?]
    | finite => cases negative <;> simp [compare?, place?]
  | finite negative m e =>
    cases y with
    | nan => simp [compare?, place?]
    | infinite negative' => cases negative' <;> simp [compare?, place?]
    | finite negative' m' e' =>
      have across := compare_across_iff (p := (signedQuotient negative m e).1) (r := (signedQuotient negative' m' e').1)
        (signedQuotient_positive negative m e) (signedQuotient_positive negative' m' e')
      rw [signedQuotient_value, signedQuotient_value] at across
      simp [compare?, place?, across]

theorem compareInt?_eq_iff (x : Binary64) (n : Int) : x.compareInt? n = some .eq ↔ .finite n ∈ x.place? := by
  cases x with
  | nan => simp [compareInt?, place?]
  | infinite negative => cases negative <;> simp [compareInt?, place?]
  | finite negative m e =>
    have across := compare_across_iff (p := (signedQuotient negative m e).1) (r := n)
      (signedQuotient_positive negative m e) Nat.one_pos
    rw [signedQuotient_value, Nat.cast_one, mul_one, Nat.cast_one, div_one] at across
    simp [compareInt?, place?, across]

end Binary64

namespace DateTime

/-- What a time is compared by: its instant if it has an offset, and otherwise what its clock shows. -/
def reading (t : DateTime) : Bool × Int :=
  match t.offset with
  | none => (false, t.clock)
  | some offset => (true, t.clock - offset * 1000000)

theorem same_iff (a b : DateTime) : a.same b = true ↔ a.reading = b.reading := by
  rw [same, reading, reading]
  cases a.offset <;> cases b.offset <;> simp

end DateTime

namespace Value

open Binary64 (Place)

/-- The place of a number or a truth value. -/
def place? : Value → Option Place
  | .bool b => some (.finite ((if b then 1 else 0 : Int) : ℚ))
  | .int n => some (.finite n)
  | .float x => x.place?
  | _ => none

/-- Numbers are equal when they have one place. -/
theorem compareNumbers?_eq_iff (a b : Value) :
    compareNumbers? a b = some (some .eq) ↔ ∃ place ∈ b.place?, place ∈ a.place? := by
  have swapped (order : Ordering) : order.swap = .eq ↔ order = .eq := by cases order <;> decide
  cases a <;> cases b <;>
    simp [compareNumbers?, place?, wholeNumber?, Binary64.compare?_eq_iff, Binary64.compareInt?_eq_iff, swapped] <;>
    norm_cast

/-- What a table tells a value apart by. -/
inductive Key
  | null
  | number (place : Place)
  | text (s : String)
  | date (d : Date)
  | time (reading : Bool × Int)
  | empty
  | cons (first rest : Key)
  | tuple (items : Key)
  | titleRow (title kind : Key)
  | dateRow (kind span : Key)

mutual

/-- The key of a value, if it has one. -/
def key? : Value → Option Key
  | .null => some .null
  | .text s => some (.text s)
  | .tuple items => (itemsKey? items).map .tuple
  | .date d => some (.date d)
  | .dateTime t => some (.time t.reading)
  | .titleRow title kind => Option.map₂ .titleRow (key? title) (key? kind)
  | .dateRow kind start stop => Option.map₂ .dateRow (key? kind) (Option.map₂ .cons (key? start) (key? stop))
  | v => v.place?.map .number

/-- The keys of some items in one. -/
def itemsKey? : List Value → Option Key
  | [] => some .empty
  | item :: items => Option.map₂ .cons (key? item) (itemsKey? items)

end

theorem exists_key_map₂_iff {f : Key → Key → Key} (injective : Function.Injective2 f) {w x y z : Option Key} :
    (∃ key ∈ Option.map₂ f y z, key ∈ Option.map₂ f w x) ↔ (∃ key ∈ y, key ∈ w) ∧ ∃ key ∈ z, key ∈ x := by
  cases w <;> cases x <;> cases y <;> cases z <;> simp [injective.eq_iff]

mutual

/-- A value that can be looked up is the same as those that have its key. -/
theorem same_iff (a b : Value) (hashable : a.unhashable? = none) :
    a.same b = true ↔ ∃ key ∈ b.key?, key ∈ a.key? := by
  cases a with
  | bool | int | float | list | mapping =>
    cases b <;> simp [unhashable?] at hashable <;> simp [same, key?, compareNumbers?_eq_iff, place?]
  | null | text | date | dateTime =>
    cases b <;> simp [same, key?, compareNumbers?_eq_iff, place?, DateTime.same_iff]
  | tuple items =>
    cases b with
    | tuple items' =>
      rw [same, sameItems_iff items items' (by rwa [unhashable?] at hashable)]
      simp [key?]
    | _ => simp [same, key?, compareNumbers?_eq_iff, place?]
  | titleRow title kind =>
    cases b with
    | titleRow title' kind' =>
      simp only [unhashable?, Option.or_eq_none_iff] at hashable
      rw [same, Bool.and_eq_true, same_iff title title' hashable.1, same_iff kind kind' hashable.2, key?, key?,
        exists_key_map₂_iff fun _ _ _ _ same => Key.titleRow.inj same]
    | _ => simp [same, key?, compareNumbers?_eq_iff, place?]
  | dateRow kind start stop =>
    cases b with
    | dateRow kind' start' stop' =>
      simp only [unhashable?, Option.or_eq_none_iff] at hashable
      rw [same, Bool.and_eq_true, Bool.and_eq_true, same_iff kind kind' hashable.1,
        same_iff start start' hashable.2.1, same_iff stop stop' hashable.2.2, key?, key?,
        exists_key_map₂_iff fun _ _ _ _ same => Key.dateRow.inj same,
        exists_key_map₂_iff fun _ _ _ _ same => Key.cons.inj same, and_assoc]
    | _ => simp [same, key?, compareNumbers?_eq_iff, place?]

theorem sameItems_iff (items items' : List Value) (hashable : firstUnhashable? items = none) :
    sameItems items items' = true ↔ ∃ key ∈ itemsKey? items', key ∈ itemsKey? items := by
  match items, items' with
  | [], [] => simp [sameItems, itemsKey?]
  | [], _ :: _ => simp [sameItems, itemsKey?]
  | _ :: _, [] => simp [sameItems, itemsKey?]
  | item :: items, item' :: items' =>
    simp only [firstUnhashable?, Option.or_eq_none_iff] at hashable
    rw [sameItems, Bool.and_eq_true, same_iff item item' hashable.1, sameItems_iff items items' hashable.2, itemsKey?,
      itemsKey?, exists_key_map₂_iff fun _ _ _ _ same => Key.cons.inj same]

end

mutual

/-- Whatever has a key can be looked up. -/
theorem unhashable?_of_key? (v : Value) {key : Key} (has : key ∈ v.key?) : v.unhashable? = none := by
  cases v with
  | list | mapping => simp [key?, place?] at has
  | tuple items =>
    obtain ⟨_, each, -⟩ := Option.map_eq_some_iff.mp has
    rw [unhashable?, firstUnhashable?_of_itemsKey? items each]
  | titleRow title kind =>
    obtain ⟨_, _, ofTitle, ofKind, -⟩ := Option.mem_map₂_iff.mp has
    rw [unhashable?, unhashable?_of_key? title ofTitle, unhashable?_of_key? kind ofKind, Option.or_none]
  | dateRow kind start stop =>
    obtain ⟨_, _, ofKind, ofSpan, -⟩ := Option.mem_map₂_iff.mp has
    obtain ⟨_, _, ofStart, ofStop, -⟩ := Option.mem_map₂_iff.mp ofSpan
    rw [unhashable?, unhashable?_of_key? kind ofKind, unhashable?_of_key? start ofStart,
      unhashable?_of_key? stop ofStop, Option.or_none, Option.or_none]
  | _ => rfl

theorem firstUnhashable?_of_itemsKey? (items : List Value) {key : Key} (has : key ∈ itemsKey? items) :
    firstUnhashable? items = none := by
  match items with
  | [] => rfl
  | item :: items =>
    obtain ⟨_, _, first, others, -⟩ := Option.mem_map₂_iff.mp has
    rw [firstUnhashable?, unhashable?_of_key? item first, firstUnhashable?_of_itemsKey? items others, Option.or_none]

end

variable {a b c : Value}

theorem same_symm (hashable : a.unhashable? = none) (same : a.same b = true) : b.same a = true := by
  obtain ⟨key, ofB, ofA⟩ := (same_iff a b hashable).mp same
  have hashable' : b.unhashable? = none := unhashable?_of_key? b ofB
  exact (same_iff b a hashable').mpr ⟨key, ofA, ofB⟩

theorem same_trans (hashable : a.unhashable? = none) (first : a.same b = true) (second : b.same c = true) :
    a.same c = true := by
  obtain ⟨key, ofB, ofA⟩ := (same_iff a b hashable).mp first
  have hashable' : b.unhashable? = none := unhashable?_of_key? b ofB
  obtain ⟨key', ofC, ofB'⟩ := (same_iff b c hashable').mp second
  have one : key = key' := Option.mem_unique ofB ofB'
  exact (same_iff a c hashable).mpr ⟨key, one ▸ ofC, ofA⟩

theorem same_congr_left (hashable : a.unhashable? = none) (hashable' : b.unhashable? = none)
    (same : a.same b = true) : a.same c = b.same c := by
  rw [Bool.eq_iff_iff]
  exact ⟨same_trans hashable' (same_symm hashable same), same_trans hashable same⟩

theorem same_congr_right (hashable : a.unhashable? = none) (hashable' : b.unhashable? = none)
    (same : b.same c = true) : a.same b = a.same c := by
  rw [Bool.eq_iff_iff]
  constructor
  · intro matched
    exact same_trans hashable matched same
  · intro matched
    exact same_trans hashable matched (same_symm hashable' same)

end Value

end DatasetForm
