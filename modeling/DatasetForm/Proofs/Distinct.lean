import Mathlib.Data.List.Induction
import Mathlib.Data.List.Nodup

/-!
Lists in which nothing stands twice. `List.eraseDups` leaves each thing once, in the place where it first appears.
-/

set_option autoImplicit false
set_option relaxedAutoImplicit false

namespace DatasetForm

variable {α : Type} [BEq α] [LawfulBEq α]

theorem eraseDups_of_nodup {xs : List α} (distinct : xs.Nodup) : xs.eraseDups = xs := by
  induction xs with
  | nil => rfl
  | cons x xs ih =>
    obtain ⟨fresh, rest⟩ := List.nodup_cons.mp distinct
    have others : xs.filter (fun other => !other == x) = xs :=
      List.filter_eq_self.mpr fun other member => by simpa using ne_of_mem_of_not_mem member fresh
    rw [List.eraseDups_cons, others, ih rest]

theorem eraseDups_append_singleton_of_mem {xs : List α} {x : α} (known : x ∈ xs) :
    (xs ++ [x]).eraseDups = xs.eraseDups := by
  rw [List.eraseDups_append]
  simp [List.removeAll, known]

theorem eraseDups_append_singleton_of_not_mem {xs : List α} {x : α} (fresh : x ∉ xs) :
    (xs ++ [x]).eraseDups = xs.eraseDups ++ [x] := by
  have added : [x].removeAll xs = [x] := by simp [List.removeAll, fresh]
  rw [List.eraseDups_append, added, eraseDups_of_nodup (List.nodup_singleton x)]

theorem nodup_eraseDups (xs : List α) : xs.eraseDups.Nodup := by
  induction xs using List.reverseRecOn with
  | nil => exact List.nodup_nil
  | append_singleton xs x ih =>
    by_cases known : x ∈ xs
    · rwa [eraseDups_append_singleton_of_mem known]
    · rw [eraseDups_append_singleton_of_not_mem known, List.nodup_append_comm, List.singleton_append]
      exact List.nodup_cons.mpr ⟨mt List.mem_eraseDups.mp known, ih⟩

end DatasetForm
