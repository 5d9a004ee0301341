import DatasetForm.Text.Utf8Message
import DatasetForm.Value.Basic

/-!
Reading values of fixed shapes out of decoded documents: which kind was expected at which place, and which
kind stood there.
-/

set_option autoImplicit false
set_option relaxedAutoImplicit false

namespace DatasetForm

/-- One step on the way to a place in a document. -/
inductive Step
  | field (name : String)
  | item (index : Nat)
  deriving DecidableEq, Repr

def Step.text : Step → String
  | .field name => s!".{name}"
  | .item index => s!"[{index}]"

/-- What is wrong with a value at a place. -/
inductive ShapeProblem
  /-- A value of one kind stands where another was expected. -/
  | kind (expected got : String)
  /-- A text writes a number that is past the largest one. -/
  | outOfRange
  /-- A text writes a whole number with more digits than are read. -/
  | wholeOutOfRange
  /-- A text, or the key of a mapping, has no bytes to be looked at. -/
  | notEncodable (fault : HalfFault)
  deriving DecidableEq, Repr

/-- Something wrong at a place. The path leads from the document to the place. -/
structure ShapeFault where
  problem : ShapeProblem
  path : List Step
  deriving DecidableEq, Repr

/-- The text of a problem. -/
def ShapeProblem.message : ShapeProblem → String
  | .kind expected got => s!"Expected `{expected}`, got `{got}`"
  | .outOfRange => "Number out of range"
  | .wholeOutOfRange => "Integer value out of range"
  | .notEncodable fault => fault.message

/-- The text of a fault. What cannot be encoded is told without its place. -/
def ShapeFault.message (fault : ShapeFault) : String :=
  let place := fault.path.foldl (fun text step => text ++ step.text) "$"
  match fault.problem with
  | .notEncodable fault => fault.message
  | problem => s!"{problem.message} - at `{place}`"

namespace Value

/-- The name of a value's kind in the terms of documents. -/
def shapeName : Value → String
  | .null => "null"
  | .list _ => "array"
  | .tuple _ => "array"
  | .mapping _ => "object"
  | v => v.kindName

/-- A fault for a value at a place. -/
def misfit {α : Type} (v : Value) (expected : String) (path : List Step) : Except ShapeFault α :=
  .error ⟨.kind expected v.shapeName, path⟩

def readText (path : List Step) : Value → Except ShapeFault String
  | .text s => .ok s
  | v => v.misfit "str" path

def readTextOrNull (path : List Step) : Value → Except ShapeFault (Option String)
  | .null => .ok none
  | .text s => .ok (some s)
  | v => v.misfit "str | null" path

/-- Read the items of a list with `read`, from position `index` on. -/
def readItemsFrom {α : Type} (read : List Step → Value → Except ShapeFault α) (path : List Step) :
    (index : Nat) → List Value → Except ShapeFault (List α)
  | _, [] => .ok []
  | index, v :: rest => do
    let first ← read (path ++ [.item index]) v
    let others ← readItemsFrom read path (index + 1) rest
    return first :: others

/-- Read a list with `read` for its items. -/
def readList {α : Type} (read : List Step → Value → Except ShapeFault α) (path : List Step) :
    Value → Except ShapeFault (List α)
  | .list items => readItemsFrom read path 0 items
  | .tuple items => readItemsFrom read path 0 items
  | v => v.misfit "array" path

/-- A text whose bytes are looked at. -/
def readBytes (path : List Step) (text : String) : Except ShapeFault String :=
  match Text.halfFault? text with
  | none => .ok text
  | some fault => .error ⟨.notEncodable fault, path⟩

/-- Read the fields of a mapping one after the other; `read` takes what has been read so far, and the path
and value of a field. Keys that are no texts are left out. -/
def readFields {α : Type} (read : α → String → List Step → Value → Except ShapeFault α)
    (path : List Step) (start : α) : Value → Except ShapeFault α
  | .mapping entries =>
    entries.foldlM
      (fun acc entry =>
        match entry.1 with
        | .text name =>
          (readBytes path name).bind fun name => read acc name (path ++ [.field name]) entry.2
        | _ => .ok acc)
      start
  | v => v.misfit "object" path

end Value

end DatasetForm
