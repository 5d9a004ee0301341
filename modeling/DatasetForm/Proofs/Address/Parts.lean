import DatasetForm.Address.Parts
import DatasetForm.Proofs.Text.Trim

/-!
What a fault in a web address repeats is a part of the address.
-/

set_option autoImplicit false
set_option relaxedAutoImplicit false

namespace DatasetForm

/-- The texts that a fault repeats. -/
def AddressFault.texts : AddressFault → List String
  | .host text => [text]
  | .disguised authority => [authority]
  | _ => []

namespace Text

variable {c : Char} {cs xs ys : List Char}

theorem subset_of_cutAt_some (cut : cutAt c cs = (xs, some ys)) : xs ⊆ cs ∧ ys ⊆ cs := by
  rw [eq_append_of_cutAt cut]
  exact ⟨List.subset_append_left _ _, List.Subset.trans (List.subset_cons_self _ _) (List.subset_append_right _ _)⟩

theorem cutAt_fst_subset (c : Char) (cs : List Char) : (cutAt c cs).1 ⊆ cs := by
  cases cut : cutAt c cs with
  | mk xs rest =>
    cases rest with
    | none => rw [eq_of_cutAt_none cut]; exact List.Subset.refl _
    | some ys => exact (subset_of_cutAt_some cut).1

theorem afterLast_subset (c : Char) (cs : List Char) : afterLast c cs ⊆ cs := by
  intro d member
  rw [afterLast, List.mem_reverse] at member
  exact List.mem_reverse.mp (List.takeWhile_subset _ member)

end Text

namespace Address

variable {cs : List Char} {fault : AddressFault}

private def Within (fault : AddressFault) (cs : List Char) : Prop :=
  ∀ text ∈ fault.texts, text.toList ⊆ cs

private theorem Within.trans {ds : List Char} (within : Within fault cs) (part : cs ⊆ ds) : Within fault ds :=
  fun text member => List.Subset.trans (within text member) part

private theorem within_hostFault (found : hostFault? cs = some fault) : Within fault cs := by
  rw [hostFault?] at found
  split at found
  · split at found <;> cases found
    exact List.forall_mem_nil _
  split at found
  · cases found
    exact List.forall_mem_nil _
  split at found
  · cases found
  · cases found
    refine List.forall_mem_singleton.mpr ?_
    rw [String.toList_ofList]
    exact List.Subset.refl _

private theorem within_bracketFault (found : bracketFault? cs = some fault) : Within fault cs := by
  have place := Text.afterLast_subset '@' cs
  have plain : Within .brackets cs := List.forall_mem_nil _
  rw [bracketFault?] at found
  split at found
  next cut =>
    exact (within_hostFault found).trans (List.Subset.trans (Text.cutAt_fst_subset ':' _) place)
  next before bracketed cut =>
    have inside := (Text.subset_of_cutAt_some cut).2
    have host : (Text.cutAt ']' bracketed).1 ⊆ cs :=
      List.Subset.trans (Text.cutAt_fst_subset ']' bracketed) (List.Subset.trans inside place)
    dsimp only at found
    split at found
    · cases found
      exact plain
    split at found
    · exact (within_hostFault found).trans host
    · split at found
      · exact (within_hostFault found).trans host
      · cases found
        exact plain

private theorem within_authorityFault (found : authorityFault? cs = some fault) : Within fault cs := by
  rw [authorityFault?] at found
  split at found
  · cases found
    exact List.forall_mem_nil _
  split at found
  next bracketed =>
    cases found
    split at bracketed
    · exact within_bracketFault bracketed
    · cases bracketed
  · split at found <;> cases found
    refine List.forall_mem_singleton.mpr ?_
    rw [String.toList_ofList]
    exact List.Subset.refl _

private theorem splitScheme_subset (cs : List Char) : (splitScheme cs).2 ⊆ cs := by
  rw [splitScheme]
  split
  next cut =>
    split
    · exact (Text.subset_of_cutAt_some cut).2
    · exact List.Subset.refl _
  · exact List.Subset.refl _

private theorem authorityOf_subset (cs : List Char) : authorityOf cs ⊆ cs := by
  rw [authorityOf.eq_def]
  split
  next rest =>
    have inRest : rest.takeWhile (!endsAuthority ·) ⊆ rest := List.takeWhile_subset _
    exact List.Subset.trans inRest (List.Subset.trans (List.subset_cons_self _ _) (List.subset_cons_self _ _))
  · exact List.nil_subset _

end Address

/-- A fault repeats characters of the address only. -/
theorem WebAddress.texts_subset {cs : List Char} {fault : AddressFault} (failed : WebAddress.parse cs = .error fault) :
    ∀ text ∈ fault.texts, text.toList ⊆ cs := by
  have kept : Address.withoutNoise cs ⊆ cs :=
    List.Subset.trans (List.filter_subset_self _) (List.dropWhile_subset _)
  have part : Address.authorityOf (Address.splitScheme (Address.withoutNoise cs)).2 ⊆ cs :=
    List.Subset.trans (Address.authorityOf_subset _) (List.Subset.trans (Address.splitScheme_subset _) kept)
  rw [WebAddress.parse] at failed
  dsimp only at failed
  split at failed
  next found =>
    cases failed
    exact (Address.within_authorityFault found).trans part
  · cases failed

end DatasetForm
