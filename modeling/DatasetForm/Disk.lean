import DatasetForm.Text.Runs
import DatasetForm.Text.Surrogate

/-!
The files that a program can see, by their paths.
-/

set_option autoImplicit false
set_option relaxedAutoImplicit false

namespace DatasetForm

/-- What stands at a path. -/
inductive Node
  | missing
  /-- Nothing can stand there: the path, or a name that is looked for in a folder, is too long. -/
  | tooLong
  | folder
  | file (bytes : List Nat)
  deriving DecidableEq, Repr

/-- The files that a program can see. -/
abbrev Disk := String → Node

/-- Why nothing can be looked for at a path. -/
inductive PathFault
  /-- It holds the character that ends paths. -/
  | nul
  /-- It holds half of a surrogate pair that stands for no byte. -/
  | notEncodable (fault : HalfFault)
  deriving DecidableEq, Repr

namespace Path

/-- Does the character stand for a byte that is no part of a text? -/
def isStrayByte (c : Char) : Bool :=
  Text.isHalf c && 0xDC80 ≤ Text.codeOf c && Text.codeOf c ≤ 0xDCFF

/-- Why nothing can be looked for at a path, if so. -/
def fault? (path : String) : Option PathFault :=
  match Text.halfFault? (String.ofList (path.toList.filter fun c => !isStrayByte c)) with
  | some fault => some (.notEncodable fault)
  | none => if path.toList.contains '\x00' then some .nul else none

/-- The number of bytes that a path or a part of it takes. -/
def byteCount : List Char → Nat
  | [] => 0
  | c :: cs => (if isStrayByte c then 1 else c.utf8Size) + byteCount cs

/-- The most bytes that a name takes. -/
def nameLimit : Nat := 255

/-- The most bytes that a path takes. -/
def pathLimit : Nat := 4095

/-- The names in a path, those that say nothing left out. -/
def names (path : String) : List (List Char) :=
  (Text.splitAt '/' path.toList).filter fun name => !name.isEmpty && name != ['.']

/-- Does the path begin at the root? -/
def isRooted (path : String) : Bool :=
  path.toList.head? == some '/'

/-- A path in its shortest spelling. -/
def normal (path : String) : String :=
  let names := String.ofList (Text.joinRuns '/' (names path))
  if isRooted path then "/" ++ names else if names == "" then "." else names

/-- A name in a folder. -/
def child (folder name : String) : String :=
  if folder == "" then normal name else normal (folder ++ "/" ++ name)

/-- The last name in a path. -/
def fileName (path : String) : String :=
  match (names path).getLast? with
  | some name => String.ofList name
  | none => ""

/-- The end of the last name from its last dot on, unless the dot begins or ends it. -/
def suffix (path : String) : String :=
  let name := (fileName path).toList
  let ending := (name.reverse.takeWhile (· != '.')).reverse
  if ending.length + 1 < name.length && !ending.isEmpty then String.ofList ('.' :: ending) else ""

end Path

namespace Disk

/-- What stands at the end of a chain of names from the top folder on. -/
def nodeAt (files : List (List (List Char) × List Nat)) (names : List (List Char)) : Node :=
  match files.lookup names with
  | some bytes => .file bytes
  | none => if names.isEmpty || files.any (names.isPrefixOf ·.1) then .folder else .missing

/-- Follow names from where `done` leads to. Only folders lead on, and two dots lead back. No folder is asked for a
name that is too long. -/
def follow (node : List (List Char) → Node) (done : List (List Char)) : List (List Char) → Node
  | [] => node done
  | name :: names =>
    match node done with
    | .folder =>
      if name.isEmpty || name == ['.'] then follow node done names
      else if name == ['.', '.'] then follow node done.dropLast names
      else if Path.byteCount name > Path.nameLimit then .tooLong
      else follow node (done ++ [name]) names
    | _ => .missing

/-- A disk with some files, given by their paths; what leads to a file is a folder. The root leads to none of them. -/
def ofFiles (files : List (String × List Nat)) : Disk := fun path =>
  let own := nodeAt (files.map fun file => (Path.names file.1, file.2))
  if path == "" || (Path.fault? path).isSome then .missing
  else if Path.byteCount path.toList > Path.pathLimit then .tooLong
  else follow (if Path.isRooted path then nodeAt [] else own) [] (Text.splitAt '/' path.toList)

end Disk

end DatasetForm
