import DatasetForm.Disk
import DatasetForm.Json.Reader
import DatasetForm.Record.Basic
import DatasetForm.Text.Case
import DatasetForm.Text.Utf8Message

/-!
Records in files. The name of a file tells how it is written: JSON when it ends in `.json`, plain scalars,
lists and mappings otherwise.
-/

set_option autoImplicit false
set_option relaxedAutoImplicit false

namespace DatasetForm

/-- Why a file holds no record. -/
inductive RecordFault
  /-- Its bytes are no text. -/
  | notText (fault : Utf8Fault)
  /-- Its text is not written as one of its kind is. -/
  | unreadable (fault : JsonFault) (text : List Char)
  /-- It holds something other than a mapping. -/
  | notMapping
  /-- The mapping does not have the shape of a record. -/
  | malformed (failure : Failure)
  /-- It goes past what is read. -/
  | limit (failure : Failure)

namespace RecordFault

/-- The text of a fault in the file at a path. -/
def message (path : String) : RecordFault → String
  | .notText fault => s!"Cannot parse {path}: {fault.message}"
  | .unreadable fault text => s!"Cannot parse {path}: {fault.message text}"
  | .notMapping => s!"{path} does not contain a metadata record"
  | .malformed failure => s!"Malformed record in {path}: {failure.message}"
  | .limit failure => failure.message

end RecordFault

namespace Record

/-- Does the name of a file say that it holds JSON? -/
def isJsonName (path : String) : Bool :=
  Text.lower (Path.suffix path) == ".json"

/-- A text that is not read: it is none of its kind, or goes past what is read. -/
def faultOf (fault : JsonFault) (text : List Char) : RecordFault :=
  match fault.problem.limit? with
  | some failure => .limit failure
  | none => .unreadable fault text

/-- The value that the text of a file stands for. -/
def readText (path : String) (text : List Char) : Except JsonFault Value :=
  if isJsonName path then Json.read text else Json.readScalars text

def valueOfBytes (path : String) (bytes : List Nat) : Except RecordFault Value :=
  match Text.decodeUtf8 bytes with
  | .error fault => .error (.notText fault)
  | .ok cs =>
    let text := Text.unifyLines cs
    match readText path text with
    | .error fault => .error (faultOf fault text)
    | .ok v => .ok v

def ofBytes (path : String) (bytes : List Nat) : Except RecordFault Record :=
  match valueOfBytes path bytes with
  | .error fault => .error fault
  | .ok (.mapping fields) =>
    match ofValue (.mapping fields) with
    | .error failure => .error (if failure.isLimit then .limit failure else .malformed failure)
    | .ok record => .ok record
  | .ok _ => .error .notMapping

end Record

end DatasetForm
