import DatasetForm.Json.Quoted
import DatasetForm.Text.Runs

/-!
Reading JSON. A text that is none is refused at the first place where it cannot go on.
-/

set_option autoImplicit false
set_option relaxedAutoImplicit false

namespace DatasetForm

namespace Json

/-- The text after blanks. -/
def skip (dialect : Dialect) (cs : List Char) : List Char :=
  cs.dropWhile dialect.isSpace

/-- What follows a word at the beginning of a text. -/
def afterWord? : (word cs : List Char) → Option (List Char)
  | [], cs => some cs
  | _ :: _, [] => none
  | w :: ws, c :: cs => if w == c then afterWord? ws cs else none

/-- The words that stand for values. -/
def words (dialect : Dialect) : List (String × Value) :=
  [("null", .null), ("true", .bool true), ("false", .bool false), ("NaN", dialect.word "NaN"),
    ("Infinity", dialect.word "Infinity"), ("-Infinity", dialect.word "-Infinity")]

/-- Read one of the words. -/
def takeWord? (dialect : Dialect) (cs : List Char) : Option (Value × List Char) :=
  (words dialect).findSome? fun (word, v) => (afterWord? word.toList cs).map fun rest => (v, rest)

/-- Read a number or one of the words. -/
def takeScalar (dialect : Dialect) (cs : List Char) : Except JsonFault (Value × List Char) :=
  match takeWord? dialect cs with
  | some read => .ok read
  | none =>
    match Decimal.take? cs with
    | none => JsonFault.at .noValue cs
    | some (d, rest) =>
      match dialect.number (cs.take (cs.length - rest.length)) d with
      | .ok v => .ok (v, rest)
      | .error problem => JsonFault.at problem cs

/-- Does a key end where it has to: not too far from its beginning, and on the same line? `opening` is the
text from its opening quote on, `rest` the text from the colon on. -/
def keyEndsInTime (dialect : Dialect) (opening rest : List Char) : Bool :=
  match dialect.keySpan? with
  | none => true
  | some span =>
    let length := opening.length - rest.length
    length ≤ span && !(opening.take length).any Dialect.endsLine

mutual

/-- Read a value in which lists and mappings may be nested `depth` deep. Every value takes at least one
character, so that the length of the text is fuel enough. -/
def takeValue (dialect : Dialect) (depth : Nat) :
    (fuel : Nat) → List Char → Except JsonFault (Value × List Char)
  | 0, cs => JsonFault.at .noValue cs
  | fuel + 1, cs =>
    match cs with
    | '"' :: rest =>
      (takeText dialect cs [] rest).map fun (s, rest) => (.text (String.ofList s), rest)
    | '[' :: rest =>
      if depth == 0 then JsonFault.at .tooDeep cs
      else match skip dialect rest with
        | ']' :: rest => .ok (.list [], rest)
        | rest => (takeItems dialect (depth - 1) fuel [] rest).map fun (items, rest) => (.list items, rest)
    | '\x7b' :: rest =>
      if depth == 0 then JsonFault.at .tooDeep cs
      else match skip dialect rest with
        | '\x7d' :: rest => .ok (.mapping [], rest)
        | rest =>
          (takeFields dialect (depth - 1) fuel [] rest).map fun (fields, rest) => (.mapping fields, rest)
    | cs => takeScalar dialect cs

/-- Read the items of a list and its closing bracket; `done` has been read, last first. -/
def takeItems (dialect : Dialect) (depth : Nat) :
    (fuel : Nat) → List Value → List Char → Except JsonFault (List Value × List Char)
  | 0, _, cs => JsonFault.at .noValue cs
  | fuel + 1, done, cs => do
    let (v, rest) ← takeValue dialect depth fuel cs
    match skip dialect rest with
    | ']' :: rest => return ((v :: done).reverse, rest)
    | ',' :: rest => takeItems dialect depth fuel (v :: done) (skip dialect rest)
    | rest => JsonFault.at .noComma rest

/-- Read the fields of an object and its closing brace. -/
def takeFields (dialect : Dialect) (depth : Nat) :
    (fuel : Nat) → Entries → List Char → Except JsonFault (Entries × List Char)
  | 0, _, cs => JsonFault.at .noKey cs
  | fuel + 1, done, cs =>
    match cs with
    | '"' :: afterQuote => do
      let (key, rest) ← takeText dialect cs [] afterQuote
      match skip dialect rest with
      | ':' :: rest =>
        if keyEndsInTime dialect cs (':' :: rest) then
          let (v, rest) ← takeValue dialect depth fuel (skip dialect rest)
          let done := Entries.insert done (.text (String.ofList key)) v
          match skip dialect rest with
          | '\x7d' :: rest => return (done, rest)
          | ',' :: rest => takeFields dialect depth fuel done (skip dialect rest)
          | rest => JsonFault.at .noComma rest
        else JsonFault.at .noColon (':' :: rest)
      | rest => JsonFault.at .noColon rest
    | cs => JsonFault.at .noKey cs

end

/-- Read a text that holds one value. -/
def readAs (dialect : Dialect) (cs : List Char) : Except JsonFault Value :=
  match takeValue dialect dialect.depth (2 * cs.length + 2) (skip dialect cs) with
  | .error f => .error f
  | .ok (v, rest) =>
    match skip dialect rest with
    | [] => .ok v
    | rest => JsonFault.at .extra rest

/-- Read a text that holds one JSON value. -/
def read (cs : List Char) : Except JsonFault Value :=
  match cs with
  | '\uFEFF' :: _ => JsonFault.at .byteOrderMark cs
  | cs => readAs .json cs

/-- May the character stand in a file of plain scalars? -/
def isFileChar (c : Char) : Bool :=
  let n := c.toNat
  n == 0x09 || n == 0x0A || n == 0x0D || (0x20 ≤ n && n ≤ 0x7E) || n == 0x85 ||
    (0xA0 ≤ n && n ≤ 0xFFFD) || 0x10000 ≤ n

/-- The first place with a character that may not stand in a file of plain scalars. -/
def checkFileChars : List Char → Except JsonFault Unit
  | [] => .ok ()
  | c :: cs => if isFileChar c then checkFileChars cs else JsonFault.at .notPrintable (c :: cs)

/-- Of two findings at some depths the one that is less deep, and the first when both are equally deep. -/
def shallower (a b : Option (Nat × Nat)) : Option (Nat × Nat) :=
  match a, b with
  | none, b => b
  | a, none => a
  | some (m, x), some (n, y) => if n < m then some (n, y) else some (m, x)

mutual

/-- The least deep of the whole numbers with too many digits, with its depth and digits. -/
def longNumber? (depth : Nat) : Value → Option (Nat × Nat)
  | .int n =>
    if n.natAbs < tenTo Failure.digitLimit then none else some (depth, (Nat.repr n.natAbs).length)
  | .list items => longNumberIn? (depth + 1) items
  | .mapping entries => longNumberUnder? (depth + 1) entries
  | _ => none

/-- The least deep of the long numbers in the items of a list. -/
def longNumberIn? (depth : Nat) : List Value → Option (Nat × Nat)
  | [] => none
  | v :: rest => shallower (longNumber? depth v) (longNumberIn? depth rest)

/-- The least deep of the long numbers in the values of a mapping. -/
def longNumberUnder? (depth : Nat) : List (Value × Value) → Option (Nat × Nat)
  | [] => none
  | (_, v) :: rest => shallower (longNumber? depth v) (longNumberUnder? depth rest)

end

/-- Read a file of plain scalars, lists and mappings; an empty one holds null. Numbers are made only when the
whole file has been read, level by level. -/
def readScalars (cs : List Char) : Except JsonFault Value := do
  let cs := match cs with
    | '\uFEFF' :: rest => rest
    | cs => cs
  checkFileChars cs
  if (skip .scalars cs).isEmpty then return .null
  let v ← readAs .scalars cs
  match longNumber? 0 v with
  | none => return v
  | some (_, digits) => JsonFault.at (.tooManyDigits digits) []

end Json

end DatasetForm
