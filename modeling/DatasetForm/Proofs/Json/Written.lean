import DatasetForm.Json.Reader
import DatasetForm.Json.Tree
import DatasetForm.Proofs.Text.Half
import DatasetForm.Proofs.Text.Wrap
import DatasetForm.Proofs.Value.Mapping
import Mathlib.Data.List.TakeWhile

/-!
JSON that is written on lines is read back as what it stands for.
-/

set_option autoImplicit false
set_option relaxedAutoImplicit false

namespace DatasetForm

open Json

/-! ## Texts -/

private theorem hexCode?_hexDigits : ∀ n < 0x20,
    hexCode? (Text.hexDigits 4 n) = some n ∧ (Text.hexDigits 4 n).length = 4 := by
  decide

private theorem no_half : ∀ n < 0x20, Text.isHalfCode n = false ∧ Text.isHighHalf n = false := by
  decide

private theorem charOfCode_control {c : Char} (control : c.toNat < 0x20) : Text.charOfCode c.toNat = c := by
  rw [Text.charOfCode, (no_half _ control).1, if_neg Bool.false_ne_true, Char.ofNat_toNat]

private theorem takeText_code {opening done rest : List Char} {c : Char} (control : c.toNat < 0x20) (more : rest ≠ []) :
    takeText .json opening done ('\\' :: 'u' :: Text.hexDigits 4 c.toNat ++ rest) =
      takeText .json opening (c :: done) rest := by
  obtain ⟨code, four⟩ := hexCode?_hexDigits c.toNat control
  match digits : Text.hexDigits 4 c.toNat, four with
  | [p, q, r, s], _ =>
    rw [digits] at code
    obtain ⟨e, cs, rfl⟩ := List.exists_cons_of_ne_nil more
    simp only [List.cons_append, List.nil_append]
    rw [takeText, code]
    dsimp only
    split
    · rw [(no_half _ control).2, Bool.and_false, if_neg Bool.false_ne_true, charOfCode_control control]
    · rw [charOfCode_control control]

/-- What stands for a character in a text: a letter after a backslash, a code, or the character itself. -/
theorem escapeChar_cases (c : Char) :
    (∃ e, JsonTree.escapeChar c = ['\\', e] ∧ e ≠ 'u' ∧ escaped? e = some c) ∨
      (JsonTree.escapeChar c = '\\' :: 'u' :: Text.hexDigits 4 c.toNat ∧ c.toNat < 0x20) ∨
      (JsonTree.escapeChar c = [c] ∧ c ≠ '"' ∧ c ≠ '\\' ∧ ¬ c.toNat < 0x20) := by
  have ofCode {n : Nat} (code : (c.toNat == n) = true) : c = Char.ofNat n := by
    rw [← beq_iff_eq.mp code, Char.ofNat_toNat]
  rw [JsonTree.escapeChar]
  split
  next marked =>
    rw [Bool.or_eq_true, beq_iff_eq, beq_iff_eq] at marked
    rcases marked with rfl | rfl <;> exact .inl ⟨_, rfl, by decide, rfl⟩
  next unmarked =>
    rw [Bool.or_eq_true, beq_iff_eq, beq_iff_eq, not_or] at unmarked
    split
    next feed => exact .inl ⟨'n', rfl, by decide, by rw [beq_iff_eq.mp feed]; rfl⟩
    split
    next return_ => exact .inl ⟨'r', rfl, by decide, by rw [beq_iff_eq.mp return_]; rfl⟩
    split
    next tab => exact .inl ⟨'t', rfl, by decide, by rw [beq_iff_eq.mp tab]; rfl⟩
    split
    next back => exact .inl ⟨'b', rfl, by decide, by rw [ofCode back]; rfl⟩
    split
    next page => exact .inl ⟨'f', rfl, by decide, by rw [ofCode page]; rfl⟩
    split
    next control => exact .inr (.inl ⟨rfl, control⟩)
    next plain => exact .inr (.inr ⟨rfl, unmarked.1, unmarked.2, plain⟩)

theorem takeText_escapeChar {opening done rest : List Char} (c : Char) (more : rest ≠ []) :
    takeText .json opening done (JsonTree.escapeChar c ++ rest) = takeText .json opening (c :: done) rest := by
  rcases escapeChar_cases c with ⟨e, written, letter, known⟩ | ⟨written, control⟩ | ⟨written, quote, slash, plain⟩
  · rw [written, List.cons_append, List.singleton_append, takeText, known]
    · exact fun _ _ _ _ _ _ code _ => letter code
    · exact letter
  · rw [written]
    exact takeText_code control more
  · have unfolded : (Dialect.json.foldsLines && isFoldable c) = false := rfl
    rw [written, List.singleton_append, takeText, unfolded, if_neg Bool.false_ne_true, if_neg plain]
    · exact quote
    · exact fun back _ => slash back
    · exact fun _ _ _ _ _ _ back _ => slash back
    · exact fun _ back _ => slash back
    · exact fun _ _ back _ => slash back

theorem takeText_escaped (opening done cs rest : List Char) :
    takeText .json opening done (cs.flatMap JsonTree.escapeChar ++ '"' :: rest) = .ok (done.reverse ++ cs, rest) := by
  induction cs generalizing done with
  | nil => rw [List.flatMap_nil, List.nil_append, takeText, List.append_nil]
  | cons c cs ih =>
    rw [List.flatMap_cons, List.append_assoc, takeText_escapeChar c (by simp), ih, List.reverse_cons,
      List.append_assoc, List.singleton_append]

/-! ## Trees -/

namespace JsonTree

mutual

/-- The value that a tree is written for. -/
def toValue : JsonTree → Value
  | .bool b => .bool b
  | .text s => .text s
  | .object fields => .mapping (Entries.ofList (toEntries fields))

/-- The entries that fields are written for. -/
def toEntries : List (String × JsonTree) → List (Value × Value)
  | [] => []
  | (name, tree) :: rest => (.text name, toValue tree) :: toEntries rest

end

mutual

/-- How many trees there are in a tree, each field counted as one more. -/
def weight : JsonTree → Nat
  | .bool _ => 1
  | .text _ => 1
  | .object fields => weightOf fields + 1

/-- How many trees there are in fields. -/
def weightOf : List (String × JsonTree) → Nat
  | [] => 0
  | (_, tree) :: rest => weight tree + weightOf rest + 1

end

mutual

/-- How deep objects are nested in a tree. -/
def nesting : JsonTree → Nat
  | .bool _ => 0
  | .text _ => 0
  | .object fields => nestingOf fields + 1

/-- How deep objects are nested in fields. -/
def nestingOf : List (String × JsonTree) → Nat
  | [] => 0
  | (_, tree) :: rest => Nat.max (nesting tree) (nestingOf rest)

end

private theorem skip_visible {c : Char} (cs : List Char) (visible : Dialect.json.isSpace c = false) :
    skip .json (c :: cs) = c :: cs :=
  List.dropWhile_cons_of_neg (by rw [visible]; exact Bool.false_ne_true)

private theorem skip_blanks (count : Nat) (cs : List Char) :
    skip .json (List.replicate count ' ' ++ cs) = skip .json cs := by
  induction count with
  | zero => rfl
  | succ count ih => exact ih

private theorem skip_lineStart (level : Nat) (cs : List Char) :
    skip .json ((lineStart level).toList ++ cs) = skip .json cs := by
  rw [lineStart, String.toList_ofList, List.cons_append]
  exact skip_blanks (2 * level) cs

private theorem toList_quoted (s : String) (rest : List Char) :
    (quoted s).toList ++ rest = '"' :: (s.toList.flatMap escapeChar ++ '"' :: rest) := by
  rw [quoted, String.toList_ofList, List.cons_append, List.cons_append, List.append_assoc, List.singleton_append]

/-- What follows a field: nothing, or a comma and the fields after it. -/
private def afterField (level : Nat) (rest : List (String × JsonTree)) : List Char :=
  match rest with
  | [] => []
  | rest => ',' :: (indentedFields level rest).toList

private theorem indentedFields_cons (level : Nat) (name : String) (tree : JsonTree) (rest : List (String × JsonTree))
    (cs : List Char) :
    (indentedFields level ((name, tree) :: rest)).toList ++ cs =
      (lineStart level).toList ++ '"' :: (name.toList.flatMap escapeChar ++
        '"' :: ':' :: ' ' :: ((indented level tree).toList ++ (afterField level rest ++ cs))) := by
  have colon : (": " : String).toList = [':', ' '] := rfl
  have comma : ("," : String).toList = [','] := rfl
  cases rest with
  | nil =>
    rw [indentedFields, afterField]
    simp only [String.toList_append, List.append_assoc, toList_quoted, colon, List.cons_append, List.nil_append]
  | cons next rest =>
    rw [indentedFields, afterField]
    · simp only [String.toList_append, List.append_assoc, toList_quoted, colon, comma, List.cons_append,
        List.nil_append]
    all_goals nofun

private theorem toList_object (level : Nat) (fields : List (String × JsonTree)) (cs : List Char)
    (filled : fields ≠ []) :
    (indented level (.object fields)).toList ++ cs =
      '\x7b' :: ((indentedFields (level + 1) fields).toList ++ ((lineStart level).toList ++ '\x7d' :: cs)) := by
  have opening : ("\x7b" : String).toList = ['\x7b'] := rfl
  have closing : ("\x7d" : String).toList = ['\x7d'] := rfl
  obtain ⟨field, fields, rfl⟩ := List.exists_cons_of_ne_nil filled
  rw [indented]
  simp only [String.toList_append, List.append_assoc, opening, closing, List.cons_append,
    List.nil_append]

private theorem toList_emptyObject (level : Nat) (cs : List Char) :
    (indented level (.object [])).toList ++ cs = '\x7b' :: '\x7d' :: cs := by
  rw [indented]
  rfl

/-- A tree begins with a character that is no blank. -/
private theorem skip_indented (tree : JsonTree) (level : Nat) (cs : List Char) :
    skip .json ((indented level tree).toList ++ cs) = (indented level tree).toList ++ cs := by
  cases tree with
  | bool b =>
    rw [indented]
    cases b <;> exact skip_visible _ rfl
  | text s =>
    rw [indented, toList_quoted]
    exact skip_visible _ rfl
  | object fields =>
    by_cases empty : fields = []
    · rw [empty, toList_emptyObject]
      exact skip_visible _ rfl
    · rw [toList_object _ _ _ empty]
      exact skip_visible _ rfl

private theorem skip_indentedFields {fields : List (String × JsonTree)} (level : Nat) (cs : List Char)
    (filled : fields ≠ []) :
    ∃ rest, skip .json ((indentedFields level fields).toList ++ cs) = '"' :: rest := by
  obtain ⟨⟨name, tree⟩, fields, rfl⟩ := List.exists_cons_of_ne_nil filled
  rw [indentedFields_cons, skip_lineStart]
  exact ⟨_, skip_visible _ rfl⟩

private theorem takeValue_word (depth fuel : Nat) (b : Bool) (rest : List Char) :
    takeValue .json depth (fuel + 1) ((word b).toList ++ rest) = .ok (.bool b, rest) := by
  have yes : (word true).toList = ['t', 'r', 'u', 'e'] := rfl
  have no : (word false).toList = ['f', 'a', 'l', 's', 'e'] := rfl
  cases b
  · rw [no, List.cons_append, takeValue]
    · rfl
    all_goals intro _ same; injection same with first; exact absurd first (by decide)
  · rw [yes, List.cons_append, takeValue]
    · rfl
    all_goals intro _ same; injection same with first; exact absurd first (by decide)

mutual

/-- What is written for a tree is read back, with all that is nested in it. -/
theorem takeValue_indented : (tree : JsonTree) → (level depth fuel : Nat) → (rest : List Char) →
    tree.nesting ≤ depth → tree.weight ≤ fuel →
      takeValue .json depth fuel ((tree.indented level).toList ++ rest) = .ok (tree.toValue, rest)
  | .bool b, level, depth, fuel, rest, _, enough => by
    obtain ⟨fuel, rfl⟩ := Nat.exists_eq_succ_of_ne_zero (Nat.ne_zero_of_lt enough)
    rw [indented, toValue]
    exact takeValue_word depth fuel b rest
  | .text s, level, depth, fuel, rest, _, enough => by
    obtain ⟨fuel, rfl⟩ := Nat.exists_eq_succ_of_ne_zero (Nat.ne_zero_of_lt enough)
    rw [indented, toList_quoted, takeValue, takeText_escaped, toValue]
    simp [Except.map]
  | .object [], level, depth, fuel, rest, shallow, enough => by
    obtain ⟨fuel, rfl⟩ := Nat.exists_eq_succ_of_ne_zero (Nat.ne_zero_of_lt enough)
    obtain ⟨depth, rfl⟩ := Nat.exists_eq_succ_of_ne_zero (Nat.ne_zero_of_lt shallow)
    have closes : skip .json ('\x7d' :: rest) = '\x7d' :: rest := skip_visible _ rfl
    rw [toList_emptyObject, takeValue, closes]
    rfl
  | .object (field :: fields), level, depth, fuel, rest, shallow, enough => by
    obtain ⟨fuel, rfl⟩ := Nat.exists_eq_succ_of_ne_zero (Nat.ne_zero_of_lt enough)
    obtain ⟨depth, rfl⟩ := Nat.exists_eq_succ_of_ne_zero (Nat.ne_zero_of_lt shallow)
    have filled : field :: fields ≠ [] := List.cons_ne_nil _ _
    have fields_read := takeFields_indented (field :: fields) filled (level + 1) level depth fuel [] rest
      (Nat.le_of_succ_le_succ shallow) (Nat.le_of_succ_le_succ enough)
    obtain ⟨others, begins⟩ := skip_indentedFields (level + 1) ((lineStart level).toList ++ '\x7d' :: rest) filled
    rw [toList_object _ _ _ filled, takeValue, begins]
    rw [begins] at fields_read
    rw [if_neg (by simp), Nat.succ_sub_one]
    change (takeFields .json depth fuel [] ('"' :: others)).map _ = _
    rw [fields_read]
    rfl

theorem takeFields_indented : (fields : List (String × JsonTree)) → fields ≠ [] →
    (level outer depth fuel : Nat) → (done : Entries) → (rest : List Char) →
      nestingOf fields ≤ depth → weightOf fields ≤ fuel →
        takeFields .json depth fuel done
          (skip .json ((indentedFields level fields).toList ++ ((lineStart outer).toList ++ '\x7d' :: rest))) =
            .ok ((toEntries fields).foldl (fun entries pair => entries.insert pair.1 pair.2) done, rest)
  | [], filled, _, _, _, _, _, _, _, _ => absurd rfl filled
  | (name, tree) :: others, _, level, outer, depth, fuel, done, rest, shallow, enough => by
    obtain ⟨fuel, rfl⟩ := Nat.exists_eq_succ_of_ne_zero (Nat.ne_zero_of_lt enough)
    have quote (cs : List Char) : skip .json ('"' :: cs) = '"' :: cs := skip_visible _ rfl
    have colon (cs : List Char) : skip .json (':' :: cs) = ':' :: cs := skip_visible _ rfl
    have blank (cs : List Char) : skip .json (' ' :: cs) = skip .json cs := rfl
    have tree_read := takeValue_indented tree level depth fuel
      (afterField level others ++ ((lineStart outer).toList ++ '\x7d' :: rest))
      (Nat.le_trans (Nat.le_max_left _ _) shallow) (by rw [weightOf] at enough; omega)
    rw [indentedFields_cons, skip_lineStart, quote, takeFields, takeText_escaped]
    simp only [bind, Except.bind, colon, blank, skip_indented, tree_read, List.reverse_nil, List.nil_append,
      String.ofList_toList]
    rw [if_pos (by rfl)]
    -- A field is followed by the brace that ends the object, or by a comma and the next field.
    cases others with
    | nil =>
      have closes : skip .json ((lineStart outer).toList ++ '\x7d' :: rest) = '\x7d' :: rest := by
        rw [skip_lineStart]
        exact skip_visible _ rfl
      rw [afterField, List.nil_append, closes]
      rfl
    | cons next others =>
      have comma (cs : List Char) : skip .json (',' :: cs) = ',' :: cs := skip_visible _ rfl
      have others_read := takeFields_indented (next :: others) (List.cons_ne_nil _ _) level outer depth fuel
        (done.insert (.text name) tree.toValue) rest (Nat.le_trans (Nat.le_max_right _ _) shallow)
        (by rw [weightOf] at enough; omega)
      have follows : afterField level (next :: others) = ',' :: (indentedFields level (next :: others)).toList := rfl
      rw [follows, List.cons_append, comma]
      exact others_read

end

mutual

/-- Each tree that is written takes a character at least. -/
theorem weight_le_length : (tree : JsonTree) → (level : Nat) → tree.weight ≤ (tree.indented level).toList.length
  | .bool b, level => by
    rw [weight, indented]
    cases b <;> decide
  | .text s, level => by
    have written := congrArg List.length (toList_quoted s [])
    rw [weight, indented]
    simp only [List.append_nil, List.length_cons] at written
    omega
  | .object [], level => by
    rw [indented]
    decide
  | .object (field :: fields), level => by
    have written := congrArg List.length (toList_object level (field :: fields) [] (List.cons_ne_nil _ _))
    have fields_written := weightOf_le_length (field :: fields) (level + 1)
    simp only [List.append_nil, List.length_cons, List.length_append] at written
    rw [weight]
    omega

theorem weightOf_le_length : (fields : List (String × JsonTree)) → (level : Nat) →
    weightOf fields ≤ (indentedFields level fields).toList.length
  | [], level => Nat.zero_le _
  | (name, tree) :: others, level => by
    have written := congrArg List.length (indentedFields_cons level name tree others [])
    have tree_written := weight_le_length tree level
    have others_written := weightOf_le_length others level
    have follows : (indentedFields level others).toList.length ≤ (afterField level others).length := by
      cases others with
      | nil => exact Nat.le_refl 0
      | cons next others => exact Nat.le_succ _
    simp only [List.append_nil, List.length_cons, List.length_append] at written
    rw [weightOf]
    omega

end

/-- A tree that is not nested too deeply is read back from its lines, whatever blanks follow. -/
theorem read_indented (tree : JsonTree) (blanks : List Char) (shallow : tree.nesting ≤ Dialect.json.depth)
    (blank : ∀ c ∈ blanks, Dialect.json.isSpace c = true) :
    Json.read ((tree.indented 0).toList ++ blanks) = .ok tree.toValue := by
  have fuel : tree.weight ≤ 2 * ((tree.indented 0).toList ++ blanks).length + 2 := by
    have := weight_le_length tree 0
    rw [List.length_append]
    omega
  have read := takeValue_indented tree 0 _ _ blanks shallow fuel
  -- A text that begins with a mark of the byte order is refused, but no value begins with one.
  have unmarked : ∀ cs, (tree.indented 0).toList ++ blanks ≠ '\uFEFF' :: cs := by
    intro cs same
    rw [same, takeValue] at read
    · exact nomatch read
    all_goals intro _ begins; injection begins with mark; exact absurd mark (by decide)
  have nothing : skip .json blanks = [] := List.dropWhile_eq_nil_iff.mpr blank
  rw [Json.read, readAs, skip_indented, read]
  · dsimp only
    rw [nothing]
  · exact unmarked

/-! ## What it consists of -/

mutual

/-- All texts of a tree and all names of its fields have a property. -/
def AllTexts (Q : String → Prop) : JsonTree → Prop
  | .bool _ => True
  | .text s => Q s
  | .object fields => AllTextsIn Q fields

def AllTextsIn (Q : String → Prop) : List (String × JsonTree) → Prop
  | [] => True
  | (name, tree) :: rest => Q name ∧ AllTexts Q tree ∧ AllTextsIn Q rest

end

private theorem ascii_of_escaped {e c : Char} (known : escaped? e = some c) :
    0x20 ≤ e.toNat ∧ e.toNat < 0x80 ∧ c.toNat < 0x80 := by
  rw [escaped?.eq_def] at known
  split at known
  all_goals cases known
  all_goals decide

section

open Text (Consists)

variable {P : Char → Prop} (printable : ∀ c : Char, 0x20 ≤ c.toNat → c.toNat < 0x80 → P c)
include printable

private theorem consists_escapeChar {c : Char} (kept : 0x20 ≤ c.toNat → P c) : Consists P (escapeChar c) := by
  have slash : P '\\' := printable _ (by decide) (by decide)
  rcases escapeChar_cases c with ⟨e, written, -, known⟩ | ⟨written, -⟩ | ⟨written, -, -, visible⟩
  · obtain ⟨low, high, -⟩ := ascii_of_escaped known
    rw [written]
    exact .cons slash (.cons (printable e low high) .nil)
  · rw [written]
    refine .cons slash (.cons (printable _ (by decide) (by decide)) fun d member => ?_)
    obtain ⟨low, high⟩ := Text.ascii_of_mem_hexDigits member
    exact printable d low high
  · rw [written]
    exact .cons (kept (Nat.not_lt.mp visible)) .nil

private theorem consists_quoted {s : String} (kept : ∀ c ∈ s.toList, 0x20 ≤ c.toNat → P c) :
    Consists P (quoted s).toList := by
  have mark : P '"' := printable _ (by decide) (by decide)
  rw [quoted, String.toList_ofList]
  refine .append (.cons mark fun d member => ?_) (.cons mark .nil)
  obtain ⟨c, inText, inEscape⟩ := List.mem_flatMap.mp member
  exact consists_escapeChar printable (kept c inText) d inEscape

private theorem consists_ascii {s : String} (ascii : ∀ c ∈ s.toList, 0x20 ≤ c.toNat ∧ c.toNat < 0x80) :
    Consists P s.toList :=
  fun c member => printable c (ascii c member).1 (ascii c member).2

variable (feed : P '\n')
include feed

private theorem consists_lineStart (level : Nat) : Consists P (lineStart level).toList := by
  rw [lineStart, String.toList_ofList]
  exact .cons feed (.blanks (printable ' ' (by decide) (by decide)) _)

mutual

/-- JSON consists of printable ASCII, feeds, and the characters of its texts that are no controls. -/
theorem consists_indented {Q : String → Prop} (kept : ∀ s, Q s → ∀ c ∈ s.toList, 0x20 ≤ c.toNat → P c) :
    (tree : JsonTree) → (level : Nat) → tree.AllTexts Q → Consists P (tree.indented level).toList
  | .bool b, level, _ => by
    rw [indented]
    cases b <;> exact consists_ascii printable (by decide)
  | .text s, level, all => by
    rw [indented]
    exact consists_quoted printable (kept s all)
  | .object [], level, _ => by
    rw [indented]
    exact consists_ascii printable (by decide)
  | .object (field :: fields), level, all => by
    have opening : Consists P ("\x7b" : String).toList := consists_ascii printable (by decide)
    have closing : Consists P ("\x7d" : String).toList := consists_ascii printable (by decide)
    have inside := consists_indentedFields kept (field :: fields) (level + 1) all
    rw [indented]
    simp only [String.toList_append]
    exact ((opening.append inside).append (consists_lineStart printable feed level)).append closing

theorem consists_indentedFields {Q : String → Prop} (kept : ∀ s, Q s → ∀ c ∈ s.toList, 0x20 ≤ c.toNat → P c) :
    (fields : List (String × JsonTree)) → (level : Nat) → AllTextsIn Q fields →
      Consists P (indentedFields level fields).toList
  | [], level, _ => .nil
  | (name, tree) :: rest, level, ⟨ofName, ofTree, ofRest⟩ => by
    have colon : Consists P (": " : String).toList := consists_ascii printable (by decide)
    have comma : Consists P ("," : String).toList := consists_ascii printable (by decide)
    have start := consists_lineStart printable feed level
    have named := consists_quoted printable (kept name ofName)
    have value := consists_indented kept tree level ofTree
    have others := consists_indentedFields kept rest level ofRest
    have field := ((start.append named).append colon).append value
    cases rest with
    | nil =>
      rw [indentedFields]
      simpa only [String.toList_append] using field
    | cons next rest =>
      rw [indentedFields]
      · simpa only [String.toList_append] using (field.append comma).append others
      all_goals nofun

end

end

/-! ## What keeps it from being written -/

open Text (IsWhole)

private theorem isWhole_of_quoted {s : String} (whole : IsWhole (quoted s)) : IsWhole s := by
  intro c member
  cases half : Text.isHalf c with
  | false => rfl
  | true =>
    have code := (Text.isHalf_iff.mp half).1
    have itself : c ∈ escapeChar c := by
      rcases escapeChar_cases c with ⟨e, written, -, known⟩ | ⟨-, control⟩ | ⟨written, -⟩
      · have ascii := (ascii_of_escaped known).2.2
        omega
      · omega
      · rw [written]
        exact List.mem_singleton_self c
    have inQuoted : c ∈ (quoted s).toList := by
      rw [quoted, String.toList_ofList]
      exact List.mem_append_left _ (List.mem_cons_of_mem _ (List.mem_flatMap.mpr ⟨c, member, itself⟩))
    exact absurd (whole c inQuoted) (by rw [half]; exact Bool.noConfusion)

mutual

/-- A half of a surrogate pair in a text of a tree is one in its JSON. -/
theorem allTexts_of_isWhole : (tree : JsonTree) → ∀ level, IsWhole (tree.indented level) → tree.AllTexts IsWhole
  | .bool _ => by
    intro level _
    rw [AllTexts]
    trivial
  | .text s => by
    intro level whole
    rw [indented] at whole
    rw [AllTexts]
    exact isWhole_of_quoted whole
  | .object [] => by
    intro level _
    rw [AllTexts, AllTextsIn]
    trivial
  | .object (field :: fields) => by
    intro level whole
    rw [indented, Text.isWhole_append, Text.isWhole_append, Text.isWhole_append] at whole
    rw [AllTexts]
    exact allTextsIn_of_isWhole (field :: fields) (level + 1) whole.1.1.2

theorem allTextsIn_of_isWhole : (fields : List (String × JsonTree)) →
    ∀ level, IsWhole (indentedFields level fields) → AllTextsIn IsWhole fields
  | [] => by
    intro level _
    rw [AllTextsIn]
    trivial
  | (name, tree) :: rest => by
    intro level whole
    have parts : IsWhole (quoted name) ∧ IsWhole (tree.indented level) ∧ IsWhole (indentedFields level rest) := by
      cases rest with
      | nil =>
        have nothing : IsWhole (indentedFields level []) := by
          rw [indentedFields]
          decide
        rw [indentedFields] at whole
        simp only [Text.isWhole_append] at whole
        exact ⟨whole.1.1.2, whole.2, nothing⟩
      | cons next rest =>
        rw [indentedFields] at whole
        · simp only [Text.isWhole_append] at whole
          exact ⟨whole.1.1.1.1.2, whole.1.1.2, whole.2⟩
        · nofun
    obtain ⟨ofName, ofTree, ofRest⟩ := parts
    rw [AllTextsIn]
    exact ⟨isWhole_of_quoted ofName, allTexts_of_isWhole tree level ofTree, allTextsIn_of_isWhole rest level ofRest⟩

end

end JsonTree

end DatasetForm
