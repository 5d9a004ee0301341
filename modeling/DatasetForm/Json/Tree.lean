import DatasetForm.Text.Quoted

/-!
Writing JSON: on one line without blanks, and on lines indented by two blanks a level.
-/

set_option autoImplicit false
set_option relaxedAutoImplicit false

namespace DatasetForm

/-- What is written: truth values, texts, and objects, whose fields keep their order. -/
inductive JsonTree
  | bool (b : Bool)
  | text (s : String)
  | object (fields : List (String × JsonTree))

namespace JsonTree

/-- One character inside quotes. -/
def escapeChar (c : Char) : List Char :=
  if c == '"' || c == '\\' then ['\\', c]
  else if c == '\n' then ['\\', 'n']
  else if c == '\r' then ['\\', 'r']
  else if c == '\t' then ['\\', 't']
  else if c.toNat == 0x08 then ['\\', 'b']
  else if c.toNat == 0x0C then ['\\', 'f']
  else if c.toNat < 0x20 then '\\' :: 'u' :: Text.hexDigits 4 c.toNat
  else [c]

def quoted (text : String) : String :=
  String.ofList ('"' :: text.toList.flatMap escapeChar ++ ['"'])

/-- The word for a truth value. -/
def word (b : Bool) : String :=
  if b then "true" else "false"

mutual

/-- A tree on one line. -/
def compact : JsonTree → String
  | .bool b => word b
  | .text s => quoted s
  | .object fields => "\x7b" ++ compactFields fields ++ "\x7d"

/-- Fields on one line. -/
def compactFields : List (String × JsonTree) → String
  | [] => ""
  | [(name, tree)] => quoted name ++ ":" ++ compact tree
  | (name, tree) :: rest => quoted name ++ ":" ++ compact tree ++ "," ++ compactFields rest

end

mutual

/-- The first halves of surrogate pairs in a tree: what holds them cannot be written. -/
def halfFault? : JsonTree → Option HalfFault
  | .bool _ => none
  | .text s => Text.halfFault? s
  | .object fields => halfFaultIn? fields

/-- The first halves of surrogate pairs in fields. -/
def halfFaultIn? : List (String × JsonTree) → Option HalfFault
  | [] => none
  | (name, tree) :: rest =>
    (Text.halfFault? name).or ((halfFault? tree).or (halfFaultIn? rest))

end

/-- A line break and the blanks before a line at a level. -/
def lineStart (level : Nat) : String :=
  String.ofList ('\n' :: List.replicate (2 * level) ' ')

mutual

/-- A tree on lines, when it begins at a level. -/
def indented (level : Nat) : JsonTree → String
  | .bool b => word b
  | .text s => quoted s
  | .object [] => "\x7b\x7d"
  | .object (field :: fields) =>
    "\x7b" ++ indentedFields (level + 1) (field :: fields) ++ lineStart level ++ "\x7d"

/-- Fields on lines of their own. -/
def indentedFields (level : Nat) : List (String × JsonTree) → String
  | [] => ""
  | [(name, tree)] => lineStart level ++ quoted name ++ ": " ++ indented level tree
  | (name, tree) :: rest =>
    lineStart level ++ quoted name ++ ": " ++ indented level tree ++ "," ++ indentedFields level rest

end

end JsonTree

end DatasetForm
