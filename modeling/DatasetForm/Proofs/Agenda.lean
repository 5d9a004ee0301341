import DatasetForm.Agenda
import Mathlib.Data.List.Nodup

/-!
The order of an agenda: the calls that wait are sorted by the times at which they are due, and no two of
them bear one number. Whatever is put down, struck out or taken leaves them so.
-/

set_option autoImplicit false
set_option relaxedAutoImplicit false

namespace DatasetForm.Agenda

variable {α : Type}

/-- The calls are sorted by due time, and bear numbers below the next one, each its own. -/
structure IsOrdered (agenda : Agenda α) : Prop where
  sorted : agenda.calls.Pairwise fun a b => a.due ≤ b.due
  distinct : (agenda.calls.map (·.number)).Nodup
  fresh : ∀ call ∈ agenda.calls, call.number < agenda.next

theorem insertCall_perm (call : Call α) (calls : List (Call α)) :
    (insertCall call calls).Perm (call :: calls) := by
  induction calls with
  | nil => rfl
  | cons other rest ih =>
    rw [insertCall]
    split
    · exact (ih.cons other).trans (List.Perm.swap call other rest)
    · rfl

@[simp] theorem mem_insertCall {call other : Call α} {calls : List (Call α)} :
    other ∈ insertCall call calls ↔ other = call ∨ other ∈ calls := by
  rw [(insertCall_perm call calls).mem_iff, List.mem_cons]

private theorem insertCall_sorted (call : Call α) {calls : List (Call α)}
    (sorted : calls.Pairwise fun a b => a.due ≤ b.due) :
    (insertCall call calls).Pairwise fun a b => a.due ≤ b.due := by
  induction calls with
  | nil => simp [insertCall]
  | cons other rest ih =>
    obtain ⟨first, others⟩ := List.pairwise_cons.mp sorted
    rw [insertCall]
    split
    next early =>
      refine List.pairwise_cons.mpr ⟨?_, ih others⟩
      intro next member
      rcases mem_insertCall.mp member with rfl | old
      · exact early
      · exact first next old
    next late =>
      refine List.pairwise_cons.mpr ⟨?_, sorted⟩
      intro next member
      rcases List.mem_cons.mp member with rfl | old
      · omega
      · have := first next old
        omega

/-- Calls that are left over from an ordered agenda are in order. -/
theorem IsOrdered.sublist {agenda : Agenda α} (ordered : agenda.IsOrdered) {calls : List (Call α)}
    (kept : calls.Sublist agenda.calls) (now : Int) :
    ({ agenda with now, calls } : Agenda α).IsOrdered where
  sorted := ordered.sorted.sublist kept
  distinct := ordered.distinct.sublist (kept.map _)
  fresh call member := ordered.fresh call (kept.subset member)

theorem IsOrdered.put {agenda : Agenda α} (ordered : agenda.IsOrdered) (delay : Int) (action : α) :
    (agenda.put delay action).IsOrdered where
  sorted := insertCall_sorted _ ordered.sorted
  distinct := by
    rw [Agenda.put, ((insertCall_perm _ _).map _).nodup_iff, List.map_cons, List.nodup_cons]
    refine ⟨?_, ordered.distinct⟩
    intro taken
    obtain ⟨call, member, same⟩ := List.mem_map.mp taken
    exact Nat.ne_of_lt (ordered.fresh call member) same
  fresh call member := by
    rcases mem_insertCall.mp member with rfl | old
    · exact Nat.lt_succ_self agenda.next
    · exact Nat.lt_succ_of_lt (ordered.fresh call old)

/-- A number belongs to one call at most. -/
theorem IsOrdered.eq_of_number {agenda : Agenda α} (ordered : agenda.IsOrdered) {a b : Call α}
    (ha : a ∈ agenda.calls) (hb : b ∈ agenda.calls) (same : a.number = b.number) : a = b :=
  List.inj_on_of_nodup_map ordered.distinct ha hb same

private theorem filter_number {calls : List (Call α)} (distinct : (calls.map (·.number)).Nodup)
    {call : Call α} (member : call ∈ calls) :
    calls.filter (fun other => other.number == call.number) = [call] := by
  induction calls with
  | nil => cases member
  | cons first rest ih =>
    rw [List.map_cons, List.nodup_cons] at distinct
    rcases List.mem_cons.mp member with rfl | later
    · rw [List.filter_cons_of_pos (by simp)]
      refine congrArg _ (List.filter_eq_nil_iff.mpr fun other there same => ?_)
      exact distinct.1 (List.mem_map.mpr ⟨other, there, beq_iff_eq.mp same⟩)
    · have differ : first.number ≠ call.number := fun same =>
        distinct.1 (List.mem_map.mpr ⟨call, later, same.symm⟩)
      rw [List.filter_cons_of_neg (by simpa using differ), ih distinct.2 later]

theorem IsOrdered.filter_number {agenda : Agenda α} (ordered : agenda.IsOrdered) {call : Call α}
    (member : call ∈ agenda.calls) :
    agenda.calls.filter (fun other => other.number == call.number) = [call] :=
  Agenda.filter_number ordered.distinct member

theorem takeDue?_eq_some {agenda left : Agenda α} {target : Int} {call : Call α}
    (taken : agenda.takeDue? target = some (call, left)) :
    ∃ rest, agenda.calls = call :: rest ∧ call.due ≤ target ∧
      left = { agenda with now := call.due, calls := rest } := by
  rw [takeDue?] at taken
  split at taken
  · cases taken
  next first rest calls =>
    split at taken
    next due =>
      cases taken
      exact ⟨rest, calls, due, rfl⟩
    · cases taken

/-- When no call can be taken, none that waits is due. -/
theorem IsOrdered.takeDue?_eq_none {agenda : Agenda α} (ordered : agenda.IsOrdered) {target : Int}
    (none : agenda.takeDue? target = none) {call : Call α} (member : call ∈ agenda.calls) :
    target < call.due := by
  have sorted := ordered.sorted
  rw [takeDue?] at none
  split at none
  next calls =>
    rw [calls] at member
    cases member
  next first rest calls =>
    split at none
    · cases none
    next late =>
      rw [calls] at member sorted
      rcases List.mem_cons.mp member with rfl | later
      · exact Int.not_le.mp late
      · exact Int.lt_of_lt_of_le (Int.not_le.mp late) ((List.pairwise_cons.mp sorted).1 call later)

end DatasetForm.Agenda
