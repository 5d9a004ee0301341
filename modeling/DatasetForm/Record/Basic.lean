import DatasetForm.Dates.Row
import DatasetForm.Title.Row

/-!
Records: the part of the description of a dataset that is checked. `Record.ofValue` reads one from a decoded
document, with either spelling of its keys.
-/

set_option autoImplicit false
set_option relaxedAutoImplicit false

namespace DatasetForm

/-- A contributor with its roles as they were written. -/
structure Contributor where
  roles : List String := []
  kind : Option String := none
  firstName : Option String := none
  lastName : Option String := none
  institutionName : Option String := none
  orcid : Option String := none
  deriving DecidableEq, Repr

/-- The description of a dataset. -/
structure Record where
  titles : List Title := []
  publicationYear : Option String := none
  version : Option String := none
  doi : Option String := none
  abstract : Option String := none
  url : Option String := none
  dates : List DateRange := []
  contributors : List Contributor := []
  deriving DecidableEq, Repr

namespace Record

/-- Change the value under a key, if the mapping has it. -/
def adjust (fields : Entries) (name : String) (change : Value → Except Failure Value) :
    Except Failure Entries :=
  match fields.field? name with
  | none => .ok fields
  | some v => (change v).map fun w => fields.insert (.text name) w

/-- The publication year is kept as text, and may stand under either of two keys. -/
def foldYear (fields : Entries) : Entries :=
  let year := (fields.field? "publication_year").getD ((fields.field? "year").getD .null)
  let kept := match year with
    | .null => fields
    | year => fields.insert (.text "publication_year") (.text year.toText)
  kept.erase (.text "year")

/-- A version is kept as text: documents may hold it as a number. -/
def versionText (v : Value) : Except Failure Value :=
  .ok (DateRow.dateText v)

/-- A title row as a mapping. -/
def titleFields (row : TitleRow) : Value :=
  .mapping [(.text "title", row.title), (.text "title_type", row.kind)]

/-- A date row as a mapping. -/
def dateFields (row : DateRow) : Value :=
  .mapping [(.text "date_type", row.kind), (.text "start_date", row.start), (.text "end_date", row.stop)]

/-- Change each item of a list; other values stay. -/
def mapList (change : Value → Except Failure Value) : Value → Except Failure Value
  | .list items => (items.mapM change).map .list
  | v => .ok v

/-- Reduce the title rows of a list to mappings of one shape. -/
def reduceTitles : Value → Except Failure Value :=
  mapList fun v => (TitleRow.ofValue v).map titleFields

/-- Reduce the date rows of a list to mappings of one shape. -/
def reduceDates : Value → Except Failure Value :=
  mapList fun v => (DateRow.ofValue v).map dateFields

/-- A single role stands for a list of one. -/
def reduceContributor : Value → Value
  | .mapping fields =>
    match Entries.field? fields "roles" with
    | some (.text role) => .mapping (Entries.insert fields (.text "roles") (.list [.text role]))
    | _ => .mapping fields
  | v => v

/-- Reduce the roles of all contributors of a list to lists. -/
def reduceContributors : Value → Except Failure Value :=
  mapList fun v => .ok (reduceContributor v)

/-- Reduce the fields of a document to one shape. -/
def reduce (fields : Entries) : Except Failure Entries := do
  let fields := foldYear fields
  let fields ← adjust fields "version" versionText
  let fields ← adjust fields "titles" reduceTitles
  let fields ← adjust fields "dates" reduceDates
  adjust fields "contributors" reduceContributors

def readTitle (path : List Step) : Value → Except ShapeFault Title :=
  Value.readFields
    (fun (title : Title) name path v =>
      match name with
      | "title" => (v.readText path).map fun s => { title with text := s }
      | "title_type" => (v.readText path).map fun s => { title with kind := s }
      | _ => .ok title)
    path ⟨"", TitleType.mainTitle.slug⟩

def readDateRange (path : List Step) : Value → Except ShapeFault DateRange :=
  Value.readFields
    (fun (range : DateRange) name path v =>
      match name with
      | "date_type" => (v.readText path).map fun s => { range with kind := s }
      | "start_date" => (v.readTextOrNull path).map fun s => { range with start := s }
      | "end_date" => (v.readTextOrNull path).map fun s => { range with stop := s }
      | _ => .ok range)
    path ⟨"", none, none⟩

def readContributor (path : List Step) : Value → Except ShapeFault Contributor :=
  Value.readFields
    (fun (c : Contributor) name path v =>
      match name with
      | "roles" => (v.readList Value.readText path).map fun roles => { c with roles }
      | "type" => (v.readTextOrNull path).map fun s => { c with kind := s }
      | "first_name" => (v.readTextOrNull path).map fun s => { c with firstName := s }
      | "last_name" => (v.readTextOrNull path).map fun s => { c with lastName := s }
      | "institution_name" => (v.readTextOrNull path).map fun s => { c with institutionName := s }
      | "orcid" => (v.readTextOrNull path).map fun s => { c with orcid := s }
      | _ => .ok c)
    path {}

/-- Read one field of a record. Unknown fields are left out. -/
def readField (record : Record) (name : String) (path : List Step) (v : Value) :
    Except ShapeFault Record :=
  match name with
  | "titles" => (v.readList readTitle path).map fun titles => { record with titles }
  | "publication_year" => (v.readTextOrNull path).map fun s => { record with publicationYear := s }
  | "version" => (v.readTextOrNull path).map fun s => { record with version := s }
  | "doi" => (v.readTextOrNull path).map fun s => { record with doi := s }
  | "abstract" => (v.readTextOrNull path).map fun s => { record with abstract := s }
  | "url" => (v.readTextOrNull path).map fun s => { record with url := s }
  | "dates" => (v.readList readDateRange path).map fun dates => { record with dates }
  | "contributors" =>
    (v.readList readContributor path).map fun contributors => { record with contributors }
  | _ => .ok record

/-- Read a record from fields of one shape. -/
def read (fields : Entries) : Except Failure Record :=
  match Value.readFields readField [] {} (.mapping fields) with
  | .ok record => .ok record
  | .error fault => .error (.ofShape fault)

/-- Read a record from a decoded document. -/
def ofValue (v : Value) : Except Failure Record :=
  if v.depth > Value.depthLimit then .error .tooDeep
  else match v.snakeFields? with
  | some fields => (reduce fields).bind read
  | none => .error (.noOperation v.snakeKeys.qualifiedKindName "get")

end Record

end DatasetForm
