import DatasetForm.Role.Basic

/-!
Whether a contributor is a person or an institution, inferred from what the record declares and from the
roles.
-/

set_option autoImplicit false
set_option relaxedAutoImplicit false

namespace DatasetForm

inductive ContributorKind
  | person
  | institution
  deriving DecidableEq, Repr

namespace ContributorKind

def all : List ContributorKind :=
  [.person, .institution]

def word : ContributorKind → String
  | .person => "person"
  | .institution => "institution"

/-- Does a declared type name an institution, blanks around it and case aside? -/
def namesInstitution (declared : String) : Bool :=
  Text.lower (Text.strip declared) == ContributorKind.institution.word

/-- A contributor is an institution when the declared type says so, or when there are roles that are not
blank and only institutions can have each of them. -/
def infer (declared : String) (roles : List String) : ContributorKind :=
  let filled := roles.filter fun role => Text.strip role != ""
  if namesInstitution declared then .institution
  else if !filled.isEmpty && filled.all Role.isInstitutionalName then .institution
  else .person

/-- The names of the roles in a value. Unlike for labels, an item that is neither a text nor missing is
an error. -/
def roleNames (v : Value) : Except Failure (List String) :=
  v.itemsOrNone.bind fun items => items.mapM (·.textOrEmpty "strip")

/-- The kind of contributor, from values. The roles are not looked at when the declared type decides. -/
def inferFrom (declared roles : Value) : Except Failure ContributorKind :=
  match declared.textOrEmpty "strip" with
  | .error failure => .error failure
  | .ok text =>
    if namesInstitution text then .ok .institution
    else (roleNames roles).map (infer text)

end ContributorKind

end DatasetForm
