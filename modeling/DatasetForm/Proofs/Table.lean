import DatasetForm.Proofs.Text.Wrap
import DatasetForm.Table

/-!
What a drawn table consists of: the characters of its texts and those that it is drawn with.
-/

set_option autoImplicit false
set_option relaxedAutoImplicit false

namespace DatasetForm

open Text (Consists)

variable {P : Char → Prop}

/-- The characters that tables are drawn with, and those that laying out text brings in. -/
def drawingChars : List Char :=
  "┏━┳┓┃┡╇┩│└─┴┘ …\n".toList

private theorem consists_intercalate {separator : String} (between : Consists P separator.toList)
    {parts : List String} (each : ∀ part ∈ parts, Consists P part.toList) :
    Consists P (separator.intercalate parts).toList := by
  rw [String.toList_intercalate, List.intercalate]
  apply Consists.flatten
  induction parts with
  | nil => exact List.forall_mem_nil _
  | cons part parts ih =>
    rw [List.forall_mem_cons] at each
    have later := ih each.2
    cases parts with
    | nil => exact List.forall_mem_singleton.mpr each.1
    | cons next parts =>
      rw [List.map_cons, List.map_cons, List.intersperse_cons_cons, List.forall_mem_cons, List.forall_mem_cons]
      exact ⟨each.1, between, later⟩

variable (drawing : Consists P drawingChars)
include drawing

private theorem consists_of_drawing {s : String} (within : s.toList ⊆ drawingChars) : Consists P s.toList :=
  drawing.subset within

theorem consists_pageText {text : String} (all : Consists P text.toList) : Consists P (pageText text).toList := by
  have blank : P ' ' := drawing _ (by decide)
  have dots : P '…' := drawing _ (by decide)
  apply consists_intercalate (consists_of_drawing drawing (by decide))
  rw [List.forall_mem_map]
  intro line member
  rw [String.toList_ofList]
  exact Text.consists_wrapped blank dots all .folded line member

namespace Table

private theorem consists_ruler {left fill cross right : String} (widths : List Nat)
    (within : (left ++ fill ++ cross ++ right).toList ⊆ drawingChars) :
    Consists P (ruler widths left fill cross right).toList := by
  simp only [String.toList_append, List.append_subset] at within
  obtain ⟨⟨⟨left_, fill_⟩, cross_⟩, right_⟩ := within
  rw [ruler, String.toList_append, String.toList_append]
  refine ((consists_of_drawing drawing left_).append ?_).append (consists_of_drawing drawing right_)
  apply consists_intercalate (consists_of_drawing drawing cross_)
  rw [List.forall_mem_map]
  intro width _
  have nothing : Consists P "".toList := List.forall_mem_nil _
  refine consists_intercalate nothing fun part member => ?_
  rw [List.eq_of_mem_replicate member]
  exact consists_of_drawing drawing fill_

private theorem consists_cellLines {text : String} (all : Consists P text.toList) (width : Nat) :
    ∀ line ∈ cellLines width text, Consists P line := by
  have blank : P ' ' := drawing _ (by decide)
  have dots : P '…' := drawing _ (by decide)
  rw [cellLines, List.forall_mem_map]
  intro line member
  have laid := Text.consists_wrapped blank dots all .cutShort line member
  exact .cons blank ((Text.consists_padded blank (Text.consists_padded blank laid)).append (.cons blank .nil))

private theorem consists_rowLines {bar : String} (bar_ : bar.toList ⊆ drawingChars) {texts : List String}
    (each : ∀ text ∈ texts, Consists P text.toList) (widths : List Nat) :
    ∀ line ∈ rowLines widths bar texts, Consists P line.toList := by
  have blank : P ' ' := drawing _ (by decide)
  have edge := consists_of_drawing drawing bar_
  have cells : ∀ cell ∈ List.zipWith (fun width text => (width, cellLines width text)) widths texts,
      ∀ line ∈ cell.2, Consists P line := by
    intro cell member
    rw [← List.map_uncurry_zip_eq_zipWith] at member
    obtain ⟨⟨width, text⟩, pair, rfl⟩ := List.mem_map.mp member
    exact consists_cellLines drawing (each text (List.of_mem_zip pair).2) width
  rw [rowLines, List.forall_mem_map]
  intro index _
  rw [String.toList_append, String.toList_append]
  refine (edge.append ?_).append edge
  apply consists_intercalate edge
  rw [List.forall_mem_map]
  intro cell member
  rw [String.toList_ofList]
  cases found : cell.2[index]? with
  | none => exact .blanks blank _
  | some line => exact cells cell member line (List.mem_of_getElem? found)

private theorem consists_titleLines {title : String} (all : Consists P title.toList) (width : Nat) :
    ∀ line ∈ titleLines width title, Consists P line.toList := by
  have blank : P ' ' := drawing _ (by decide)
  have dots : P '…' := drawing _ (by decide)
  rw [titleLines, List.forall_mem_map]
  intro line member
  rw [String.toList_ofList]
  exact Text.consists_centered blank (Text.consists_wrapped blank dots all .folded line member)

/-- A table consists of the characters of its texts and those that it is drawn with. -/
theorem consists_text (t : Table) (title : ∀ title ∈ t.title, Consists P title.toList)
    (heads : ∀ head ∈ t.heads, Consists P head.toList) (rows : ∀ row ∈ t.rows, ∀ cell ∈ row, Consists P cell.toList) :
    Consists P t.text.toList := by
  apply consists_intercalate (consists_of_drawing drawing (by decide))
  have above : ∀ line ∈ (t.title.map (titleLines (outerWidth t.widths))).getD [], Consists P line.toList := by
    cases named : t.title with
    | none => exact List.forall_mem_nil _
    | some text => exact consists_titleLines drawing (title text named) _
  rw [lines]
  simp only [List.forall_mem_append, List.forall_mem_singleton, List.forall_mem_flatMap]
  exact ⟨⟨⟨⟨⟨above, consists_ruler drawing _ (by decide)⟩, consists_rowLines drawing (by decide) heads _⟩,
    consists_ruler drawing _ (by decide)⟩, fun row member => consists_rowLines drawing (by decide) (rows row member) _⟩,
    consists_ruler drawing _ (by decide)⟩

end Table

end DatasetForm
