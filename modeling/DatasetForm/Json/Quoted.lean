import DatasetForm.Json.Dialect

/-!
Reading a quoted text: characters, escapes, and in some files the ends of lines, of which one stands for a
blank and more stand for as many less one.
-/

set_option autoImplicit false
set_option relaxedAutoImplicit false

namespace DatasetForm

namespace Json

/-- The number of a hexadecimal digit. -/
def hexValue? (c : Char) : Option Nat :=
  let n := c.toNat
  if 0x30 ≤ n && n ≤ 0x39 then some (n - 0x30)
  else if 0x61 ≤ n && n ≤ 0x66 then some (n - 0x61 + 10)
  else if 0x41 ≤ n && n ≤ 0x46 then some (n - 0x41 + 10)
  else none

/-- The number of hexadecimal digits. -/
def hexCode? (digits : List Char) : Option Nat :=
  digits.foldl (fun code c => code.bind fun n => (hexValue? c).map (16 * n + ·)) (some 0)

/-- The character after a backslash that stands for one. -/
def escaped? (c : Char) : Option Char :=
  match c with
  | '"' | '\\' | '/' => some c
  | 'b' => some (Char.ofNat 0x08)
  | 'f' => some (Char.ofNat 0x0C)
  | 'n' => some '\n'
  | 'r' => some '\r'
  | 't' => some '\t'
  | _ => none

/-- May the character stand in the space around the end of a line inside a text? -/
def isFoldable (c : Char) : Bool :=
  c == ' ' || c == '\t' || Dialect.endsLine c

/-- The end of a line as it is kept: only separators of lines and paragraphs stay what they are. -/
def keptEnd (c : Char) : Char :=
  if c.toNat == 0x2028 || c.toNat == 0x2029 then c else '\n'

/-- What a run of blanks and ends of lines stands for. Without an end of a line it is kept. Otherwise its
blanks are lost, and its first end stands for a blank or, when others follow, for nothing, unless it
separates lines or paragraphs. -/
def folded (run : List Char) : List Char :=
  match (run.filter Dialect.endsLine).map keptEnd with
  | [] => run
  | '\n' :: [] => [' ']
  | '\n' :: ends => ends
  | ends => ends

/-- Does a text begin with the mark of another document? -/
def beginsDocument (cs : List Char) : Bool :=
  let mark := cs.take 3
  (mark == ['-', '-', '-'] || mark == ['.', '.', '.']) &&
    ((cs.drop 3).head?.map fun c => isFoldable c).getD true

/-- Does a run of blanks and ends of lines lead to the mark of another document? -/
def leavesDocument (run rest : List Char) : Bool :=
  (run.getLast?.map Dialect.endsLine).getD false && beginsDocument rest

/-- No more is left of a text after characters at its beginning have been passed. -/
theorem length_dropWhile_le (p : Char → Bool) (cs : List Char) : (cs.dropWhile p).length ≤ cs.length :=
  (List.dropWhile_sublist p).length_le

/-- Read the characters of a text up to its closing quote; `opening` is the text from the opening quote
on, `done` what has been read, last first. -/
def takeText (dialect : Dialect) (opening : List Char) (done : List Char) :
    List Char → Except JsonFault (List Char × List Char)
  | [] => JsonFault.at .unterminated opening
  | '"' :: cs => .ok (done.reverse, cs)
  | ['\\'] => JsonFault.at .unterminated opening
  | '\\' :: 'u' :: a :: b :: c :: d :: e :: cs =>
    match hexCode? [a, b, c, d] with
    | none => JsonFault.at .codeEscape ('u' :: a :: b :: c :: d :: e :: cs)
    | some code =>
      match e, cs with
      | '\\', 'u' :: f :: g :: h :: i :: j :: rest =>
        if dialect.joinsHalves && Text.isHighHalf code then
          match hexCode? [f, g, h, i] with
          | none => JsonFault.at .codeEscape ('u' :: f :: g :: h :: i :: j :: rest)
          | some low =>
            if Text.isLowHalf low then
              takeText dialect opening (Char.ofNat (Text.pairCode code low) :: done) (j :: rest)
            else
              takeText dialect opening (Text.charOfCode code :: done)
                ('\\' :: 'u' :: f :: g :: h :: i :: j :: rest)
        else
          takeText dialect opening (Text.charOfCode code :: done)
            ('\\' :: 'u' :: f :: g :: h :: i :: j :: rest)
      | e, cs => takeText dialect opening (Text.charOfCode code :: done) (e :: cs)
  | '\\' :: 'u' :: cs => JsonFault.at .codeEscape ('u' :: cs)
  | '\\' :: c :: cs =>
    match escaped? c with
    | some d => takeText dialect opening (d :: done) cs
    | none => JsonFault.at .escape ('\\' :: c :: cs)
  | c :: cs =>
    if dialect.foldsLines && isFoldable c then
      let run := c :: cs.takeWhile isFoldable
      let rest := cs.dropWhile isFoldable
      if leavesDocument run rest then JsonFault.at .documentMark rest
      else takeText dialect opening ((folded run).reverse ++ done) rest
    else if c.toNat < 0x20 then JsonFault.at .control (c :: cs)
    else takeText dialect opening (c :: done) cs
  termination_by cs => cs.length
  decreasing_by
    all_goals simp_wf
    all_goals first
      | omega
      | (have shorter := length_dropWhile_le isFoldable cs; omega)

end Json

end DatasetForm
