import DatasetForm.Title.Slug
import DatasetForm.Value.Order
import DatasetForm.Value.SnakeCase

/-!
Title rows. A form hands in rows in several shapes: rows already made, mappings in either spelling of
their keys, and pairs. `TitleRow.ofValue` reduces them to one.
-/

set_option autoImplicit false
set_option relaxedAutoImplicit false

namespace DatasetForm

inductive TitleType
  | mainTitle
  | alternativeTitle
  | subtitle
  | translatedTitle
  | other
  deriving DecidableEq, Repr

namespace TitleType

/-- All types, in the order in which they are offered. -/
def all : List TitleType :=
  [.mainTitle, .alternativeTitle, .subtitle, .translatedTitle, .other]

def slug : TitleType → String
  | .mainTitle => "main-title"
  | .alternativeTitle => "alternative-title"
  | .subtitle => "subtitle"
  | .translatedTitle => "translated-title"
  | .other => "other"

end TitleType

/-- A title with its type, both texts. -/
structure Title where
  text : String
  kind : String
  deriving DecidableEq, Repr

/-- A row of a form for a title. What it was filled with has not been checked. -/
structure TitleRow where
  title : Value
  kind : Value

namespace TitleRow

def toValue (row : TitleRow) : Value :=
  .titleRow row.title row.kind

/-- Is the row one for a main title? -/
def isMain (row : TitleRow) : Bool :=
  row.kind.same (.text TitleType.mainTitle.slug)

/-- A row from the fields of a mapping. Without a usable type it is a main title. -/
def ofFields (fields : Entries) : TitleRow :=
  let kind := (fields.field? "title_type").getD ((fields.field? "type").getD .null)
  let slug := Title.slugOf kind
  { title := ((fields.field? "title").getD .null).orEmpty
    kind := .text (if slug == "" then TitleType.mainTitle.slug else slug) }

/-- A row from a pair of title and type. -/
def ofPair (title kind : Value) : TitleRow :=
  ⟨title.orEmpty, .text (Title.slugOf kind)⟩

/-- A row from a value: a row as it is, a mapping, or a pair. -/
def ofValue (v : Value) : Except Failure TitleRow :=
  match v with
  | .titleRow title kind => .ok ⟨title, kind⟩
  | .list [title, kind] => .ok (ofPair title kind)
  | .tuple [title, kind] => .ok (ofPair title kind)
  | v =>
    match v.snakeFields? with
    | some fields => .ok (ofFields fields)
    | none => .error (.cannotBuild "TitleEntry" v.kindName)

/-- The rows in a value that holds rows, or none when the value is missing. -/
def rowsOf (v : Value) : Except Failure (List TitleRow) :=
  v.itemsOrNone.bind fun items => items.mapM ofValue

end TitleRow

def Title.row (t : Title) : TitleRow :=
  ⟨.text t.text, .text t.kind⟩

end DatasetForm
