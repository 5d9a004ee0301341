import DatasetForm.Proofs.Value.SnakeCase
import DatasetForm.Record.Basic

/-!
The reader of records makes the same record of a document whichever way its keys are spelled.
-/

set_option autoImplicit false
set_option relaxedAutoImplicit false

namespace DatasetForm

namespace Record

open Value

/-- The document with all its keys rewritten; there is none of a document that is nested too deeply. -/
def rewritten (v : Value) : Except Failure Value :=
  if v.depth > depthLimit then .error .tooDeep else .ok v.snakeKeys

/-- Either spelling of the keys is the same record: rewriting the keys of a mapping twice is rewriting them once, in
the same order, and the reader of records makes of the rewritten mapping what it makes of the mapping, the same record
or the same failure. -/
theorem ofValue_rewritten (entries : Entries) :
    (mapping entries).snakeKeys.snakeKeys = (mapping entries).snakeKeys ∧
      (rewritten (.mapping entries)).bind ofValue = ofValue (.mapping entries) := by
  refine ⟨snakeKeys_snakeKeys _, ?_⟩
  have shallower := depth_snakeKeys_le (.mapping entries)
  by_cases deep : (mapping entries).depth > depthLimit
  · rw [rewritten, if_pos deep, ofValue, if_pos deep]
    rfl
  · have shallow : ¬ (mapping entries).snakeKeys.depth > depthLimit := by omega
    rw [rewritten, if_neg deep, Except.bind, ofValue, if_neg shallow, ofValue, if_neg deep,
      snakeFields?_snakeKeys, snakeKeys_snakeKeys]

end Record

end DatasetForm
