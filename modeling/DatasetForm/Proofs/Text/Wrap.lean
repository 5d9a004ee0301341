import DatasetForm.Text.Wrap
import Mathlib.Data.List.DropRight

/-!
What laid-out text consists of: the characters of the text, blanks, and the ellipsis that stands for a cut.
-/

set_option autoImplicit false
set_option relaxedAutoImplicit false

namespace DatasetForm.Text

/-- The text consists of characters of one sort. -/
def Consists (P : Char → Prop) (cs : List Char) : Prop :=
  ∀ c ∈ cs, P c

variable {P : Char → Prop} {cs ds line : List Char} {lines parts : List (List Char)} {width : Nat}

namespace Consists

theorem nil : Consists P [] :=
  List.forall_mem_nil _

theorem cons {c : Char} (first : P c) (rest : Consists P cs) : Consists P (c :: cs) :=
  List.forall_mem_cons.mpr ⟨first, rest⟩

theorem append (left : Consists P cs) (right : Consists P ds) : Consists P (cs ++ ds) :=
  List.forall_mem_append.mpr ⟨left, right⟩

theorem subset (all : Consists P ds) (within : cs ⊆ ds) : Consists P cs :=
  fun c member => all c (within member)

theorem flatten (each : ∀ part ∈ parts, Consists P part) : Consists P parts.flatten := by
  intro c member
  obtain ⟨part, inParts, inPart⟩ := List.mem_flatten.mp member
  exact each part inParts c inPart

theorem blanks (blank : P ' ') (count : Nat) : Consists P (blanks count) := by
  intro c member
  rw [List.eq_of_mem_replicate member]
  exact blank

end Consists

theorem consists_cons_iff {c : Char} : Consists P (c :: cs) ↔ P c ∧ Consists P cs :=
  List.forall_mem_cons

theorem consists_trimRight (all : Consists P cs) : Consists P (trimRight cs) :=
  all.subset (List.rdropWhile_prefix isBlank cs).subset

/-! ## Lines and tabs -/

theorem consists_splitAt (all : Consists P cs) (separator : Char) :
    ∀ part ∈ splitAt separator cs, Consists P part := by
  induction cs with
  | nil =>
    rw [splitAt, List.forall_mem_singleton]
    exact .nil
  | cons c cs ih =>
    obtain ⟨first, rest⟩ := consists_cons_iff.mp all
    have later := ih rest
    rw [splitAt]
    split
    · exact List.forall_mem_cons.mpr ⟨.nil, later⟩
    · split
      · exact List.forall_mem_singleton.mpr (.cons first .nil)
      next part parts split_ =>
        rw [split_, List.forall_mem_cons] at later
        exact List.forall_mem_cons.mpr ⟨.cons first later.1, later.2⟩

theorem consists_fillTabs (blank : P ' ') (each : ∀ part ∈ parts, Consists P part) (position : Nat) :
    Consists P (fillTabs position parts) := by
  induction parts generalizing position with
  | nil => exact .nil
  | cons part parts ih =>
    rw [List.forall_mem_cons] at each
    cases parts with
    | nil => exact each.1
    | cons next parts =>
      rw [fillTabs]
      exact (each.1.append (.cons blank (.blanks blank _))).append (ih each.2 _)
      nofun

theorem consists_expandTabs (blank : P ' ') (all : Consists P line) : Consists P (expandTabs line) :=
  consists_fillTabs blank (consists_splitAt all '\t') 0

/-! ## Words -/

private theorem consists_consWord {c : Char} (first : P c) {words : List (List Char)}
    (each : ∀ word ∈ words, Consists P word) : ∀ word ∈ consWord c words, Consists P word := by
  cases words with
  | nil => exact List.forall_mem_singleton.mpr (.cons first .nil)
  | cons word words =>
    rw [List.forall_mem_cons] at each
    cases word with
    | nil => exact List.forall_mem_cons.mpr ⟨.cons first .nil, each.2⟩
    | cons d word =>
      rw [consWord]
      split
      · exact List.forall_mem_cons.mpr ⟨.cons first .nil, List.forall_mem_cons.mpr each⟩
      · exact List.forall_mem_cons.mpr ⟨.cons first each.1, each.2⟩

theorem consists_lineWords (all : Consists P line) : ∀ word ∈ lineWords line, Consists P word := by
  have words : ∀ word ∈ wordsWithBlanks line, Consists P word := by
    induction line with
    | nil => exact nofun
    | cons c line ih =>
      obtain ⟨first, rest⟩ := consists_cons_iff.mp all
      exact consists_consWord first (ih rest)
  rw [lineWords]
  split
  next blank word others found =>
    rw [found, List.forall_mem_cons, List.forall_mem_cons] at words
    split
    · exact List.forall_mem_cons.mpr ⟨words.1.append words.2.1, words.2.2⟩
    · exact List.forall_mem_cons.mpr ⟨words.1, List.forall_mem_cons.mpr words.2⟩
  · exact words

/-! ## Glyphs -/

private def Draws (P : Char → Prop) (glyphs : List Glyph) : Prop :=
  ∀ glyph ∈ glyphs, Consists P glyph.drawn

private theorem draws_extendGlyph {drawn : List Char} (added : Consists P drawn) {done : List Glyph}
    (before : Draws P done) (more : Nat) : Draws P (extendGlyph drawn more done) := by
  cases done with
  | nil => exact List.forall_mem_singleton.mpr added
  | cons glyph done =>
    obtain ⟨last, others⟩ := List.forall_mem_cons.mp before
    exact List.forall_mem_cons.mpr ⟨added.append last, others⟩

private theorem draws_glyphsAfter (done : List Glyph) (last : Option Char) (cs : List Char) (before : Draws P done)
    (all : Consists P cs) : Draws P (glyphsAfter done last cs) := by
  fun_induction glyphsAfter done last cs with
  | case1 => exact before
  | case2 done last c =>
    exact draws_extendGlyph all before 0
  | case3 last c _ d cs ih =>
    obtain ⟨first, rest⟩ := consists_cons_iff.mp all
    exact ih (List.forall_mem_singleton.mpr (.cons first .nil)) rest
  | case4 done last c _ d cs _ ih =>
    obtain ⟨first, rest⟩ := consists_cons_iff.mp all
    obtain ⟨second, rest⟩ := consists_cons_iff.mp rest
    exact ih (draws_extendGlyph (.cons second (.cons first .nil)) before 0) rest
  | case5 done last c cs _ _ _ ih =>
    obtain ⟨first, rest⟩ := consists_cons_iff.mp all
    exact ih (draws_extendGlyph (.cons first .nil) before 1) rest
  | case6 done last c cs _ _ _ ih =>
    obtain ⟨first, rest⟩ := consists_cons_iff.mp all
    exact ih (draws_extendGlyph (.cons first .nil) before 0) rest
  | case7 done last c cs _ _ _ ih =>
    obtain ⟨first, rest⟩ := consists_cons_iff.mp all
    exact ih (draws_extendGlyph (.cons first .nil) before 0) rest
  | case8 done last c cs _ _ _ ih =>
    obtain ⟨first, rest⟩ := consists_cons_iff.mp all
    exact ih (List.forall_mem_cons.mpr ⟨.cons first .nil, before⟩) rest

private theorem draws_glyphs (all : Consists P cs) : Draws P (glyphs cs) := by
  intro glyph member
  have before : Draws P [] := List.forall_mem_nil _
  exact draws_glyphsAfter [] none cs before all glyph (List.mem_reverse.mp member)

private theorem consists_textOfGlyphs {glyphs : List Glyph} (drawn : Draws P glyphs) :
    Consists P (textOfGlyphs glyphs) := by
  intro c member
  obtain ⟨glyph, found, inside⟩ := List.mem_flatMap.mp (List.mem_reverse.mp member)
  exact drawn glyph found c inside

private theorem consists_foldGlyphs {done : List (List Char)} {piece glyphs : List Glyph}
    (before : ∀ part ∈ done, Consists P part) (begun : Draws P piece) (drawn : Draws P glyphs) (filled : Nat) :
    ∀ part ∈ foldGlyphs width done piece filled glyphs, Consists P part := by
  induction glyphs generalizing done piece filled with
  | nil =>
    intro part member
    rw [foldGlyphs, List.mem_reverse] at member
    rcases List.mem_cons.mp member with rfl | earlier
    · exact consists_textOfGlyphs begun
    · exact before part earlier
  | cons glyph glyphs ih =>
    obtain ⟨first, rest⟩ := List.forall_mem_cons.mp drawn
    rw [foldGlyphs]
    split
    · exact ih (List.forall_mem_cons.mpr ⟨consists_textOfGlyphs begun, before⟩) (List.forall_mem_singleton.mpr first)
        rest _
    · exact ih before (List.forall_mem_cons.mpr ⟨first, begun⟩) rest _

private theorem consists_takeGlyphs (blank : P ' ') {glyphs : List Glyph} (drawn : Draws P glyphs) :
    Consists P (takeGlyphs width glyphs) := by
  induction glyphs generalizing width with
  | nil =>
    rw [takeGlyphs]
    exact .nil
  | cons glyph glyphs ih =>
    obtain ⟨first, rest⟩ := List.forall_mem_cons.mp drawn
    cases width with
    | zero =>
      rw [takeGlyphs]
      exact .nil
      nofun
    | succ width =>
      rw [takeGlyphs]
      split
      · exact (first.subset (List.reverse_subset.mpr (List.Subset.refl _))).append (ih rest)
      · exact .cons blank .nil

/-! ## Filling lines -/

private structure Filled (P : Char → Prop) (f : Filling) : Prop where
  done : ∀ line ∈ f.done, Consists P line
  line : Consists P f.line

private theorem Filled.append {f : Filling} (filled : Filled P f) (more : Consists P cs) : Filled P (f.append cs) :=
  ⟨filled.done, filled.line.append more⟩

private theorem Filled.newLine {f : Filling} (filled : Filled P f) (more : Consists P cs) :
    Filled P (f.newLine cs) := by
  rw [Filling.newLine]
  split
  · exact ⟨filled.done, more⟩
  · exact ⟨List.forall_mem_cons.mpr ⟨filled.line, filled.done⟩, more⟩

private theorem Filled.addWord {f : Filling} (filled : Filled P f) {word : List Char} (more : Consists P word)
    (wide : WideWords) : Filled P (f.addWord wide width word) := by
  rw [Filling.addWord]
  split
  · exact filled.append more
  · split
    -- The word is wider than a whole line, and is folded into lines of its own.
    · have pieces : ∀ piece ∈ foldWord width word, Consists P piece :=
        consists_foldGlyphs (List.forall_mem_nil _) (List.forall_mem_nil _) (draws_glyphs more) 0
      exact List.foldlRecOn _ _ filled fun f before piece member => before.newLine (pieces piece member)
    · exact filled.newLine more

theorem consists_breakLine (all : Consists P line) (wide : WideWords) :
    ∀ part ∈ breakLine wide width line, Consists P part := by
  have words := consists_lineWords all
  have empty : Filled P {} := ⟨List.forall_mem_nil _, .nil⟩
  have filled : Filled P ((lineWords line).foldl (Filling.addWord wide width) {}) :=
    List.foldlRecOn _ _ empty fun f before word member => before.addWord (words word member) wide
  intro part member
  rw [breakLine, Filling.lines, List.mem_reverse] at member
  rcases List.mem_cons.mp member with rfl | earlier
  · exact filled.line
  · exact filled.done part earlier

theorem consists_dropExcessBlanks (all : Consists P line) : Consists P (dropExcessBlanks width line) :=
  all.subset (List.take_subset _ _)

theorem consists_cropped (blank : P ' ') (dots : P '…') (all : Consists P line) (wide : WideWords) :
    Consists P (cropped wide width line) := by
  by_cases fits : columns line ≤ width
  · rwa [cropped.eq_def, if_pos fits]
  · rw [cropped.eq_def, if_neg fits]
    cases wide with
    | folded => exact consists_takeGlyphs blank (draws_glyphs all)
    | cutShort => exact (consists_takeGlyphs blank (draws_glyphs all)).append (.cons dots .nil)

/-- Laid-out text consists of its own characters, blanks and ellipses. -/
theorem consists_wrapped (blank : P ' ') (dots : P '…') (all : Consists P cs) (wide : WideWords) :
    ∀ line ∈ wrapped wide width cs, Consists P line := by
  intro line member
  obtain ⟨part, inText, inLines⟩ := List.mem_flatMap.mp member
  obtain ⟨broken, inBroken, rfl⟩ := List.mem_map.mp inLines
  have kept : Consists P (laidOut cs) := all.subset (List.filter_subset_self _)
  have inLine : Consists P part := consists_splitAt kept '\n' part inText
  have whole : Consists P broken := consists_breakLine (consists_expandTabs blank inLine) wide broken inBroken
  exact consists_cropped blank dots (consists_dropExcessBlanks whole) wide

theorem consists_padded (blank : P ' ') (all : Consists P line) : Consists P (padded width line) :=
  all.append (.blanks blank _)

theorem consists_centered (blank : P ' ') (all : Consists P line) : Consists P (centered width line) :=
  consists_padded blank ((Consists.blanks blank _).append (consists_trimRight all))

end DatasetForm.Text
