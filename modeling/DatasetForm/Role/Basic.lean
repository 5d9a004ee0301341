import DatasetForm.Text.Blank
import DatasetForm.Text.Case
import DatasetForm.Text.Mark
import DatasetForm.Text.Normal
import DatasetForm.Value.Order

/-!
Roles of contributors. Role names come in many spellings; each is reduced to a key of small letters and
digits, and known keys have one label.
-/

set_option autoImplicit false
set_option relaxedAutoImplicit false

namespace DatasetForm

/-- The roles with a label of their own. -/
inductive Role
  | contactPerson
  | dataCollector
  | dataCurator
  | dataManager
  | distributor
  | editor
  | hostingInstitution
  | other
  | producer
  | projectLeader
  | projectManager
  | projectMember
  | registrationAgency
  | registrationAuthority
  | relatedPerson
  | researcher
  | researchGroup
  | rightsHolder
  | sponsor
  | supervisor
  | translator
  | workPackageLeader
  deriving DecidableEq, Repr

namespace Role

/-- All roles, in the order of their keys. -/
def all : List Role :=
  [.contactPerson, .dataCollector, .dataCurator, .dataManager, .distributor, .editor,
    .hostingInstitution, .other, .producer, .projectLeader, .projectManager, .projectMember,
    .registrationAgency, .registrationAuthority, .relatedPerson, .researcher, .researchGroup,
    .rightsHolder, .sponsor, .supervisor, .translator, .workPackageLeader]

def label : Role → String
  | .contactPerson => "Contact Person"
  | .dataCollector => "Data Collector"
  | .dataCurator => "Data Curator"
  | .dataManager => "Data Manager"
  | .distributor => "Distributor"
  | .editor => "Editor"
  | .hostingInstitution => "Hosting Institution"
  | .other => "Other"
  | .producer => "Producer"
  | .projectLeader => "Project Leader"
  | .projectManager => "Project Manager"
  | .projectMember => "Project Member"
  | .registrationAgency => "Registration Agency"
  | .registrationAuthority => "Registration Authority"
  | .relatedPerson => "Related Person"
  | .researcher => "Researcher"
  | .researchGroup => "Research Group"
  | .rightsHolder => "Rights Holder"
  | .sponsor => "Sponsor"
  | .supervisor => "Supervisor"
  | .translator => "Translator"
  | .workPackageLeader => "Work Package Leader"

def key : Role → String
  | .contactPerson => "contactperson"
  | .dataCollector => "datacollector"
  | .dataCurator => "datacurator"
  | .dataManager => "datamanager"
  | .distributor => "distributor"
  | .editor => "editor"
  | .hostingInstitution => "hostinginstitution"
  | .other => "other"
  | .producer => "producer"
  | .projectLeader => "projectleader"
  | .projectManager => "projectmanager"
  | .projectMember => "projectmember"
  | .registrationAgency => "registrationagency"
  | .registrationAuthority => "registrationauthority"
  | .relatedPerson => "relatedperson"
  | .researcher => "researcher"
  | .researchGroup => "researchgroup"
  | .rightsHolder => "rightsholder"
  | .sponsor => "sponsor"
  | .supervisor => "supervisor"
  | .translator => "translator"
  | .workPackageLeader => "workpackageleader"

/-- Can only an institution have the role? -/
def isInstitutional : Role → Bool
  | .distributor | .hostingInstitution | .registrationAgency | .registrationAuthority
  | .researchGroup | .sponsor => true
  | _ => false

/-- The role with a key. -/
def ofKey? (key : String) : Option Role :=
  all.find? fun role => role.key == key

/-- What one character of a role name adds to the key: the small letters and digits among its parts,
accents left out. The order of accents does not matter, since none is kept. -/
def keyPart (c : Char) : List Char :=
  (((Text.decompose c).filter fun d => !Text.isMark d).flatMap Text.foldChar).filter Text.isLowerAlnum

/-- The key of a role name before old names are replaced. -/
def rawKey (name : String) : String :=
  String.ofList (name.toList.flatMap keyPart)

/-- The key of a role name. The point of contact of older records is a contact person. -/
def keyOf (name : String) : String :=
  let key := rawKey name
  if key == "pointofcontact" then Role.contactPerson.key else key

/-- The label of a role name: that of a known role, otherwise the name itself without blanks at its
ends. -/
def labelOf (name : String) : String :=
  match ofKey? (keyOf name) with
  | some role => role.label
  | none => Text.strip name

/-- Is the name that of a role that only an institution can have? -/
def isInstitutionalName (name : String) : Bool :=
  match ofKey? (keyOf name) with
  | some role => role.isInstitutional
  | none => false

/-- The name in a value that has to be a text or missing. -/
def nameOf (v : Value) : Except Failure String :=
  match v.orEmpty with
  | .text s => .ok s
  | w => .error (.notNormalizable w.kindName)

/-- Put a label at the end of labels that do not hold it; the empty label is left out. -/
def addLabel (labels : List String) (label : String) : List String :=
  if label == "" || labels.contains label then labels else labels ++ [label]

/-- The labels of role names, each once, in the order in which they first appear. -/
def labelsOf (names : List String) : List String :=
  (names.map labelOf).foldl addLabel []

/-- The texts among values. -/
def textsAmong (values : List Value) : List String :=
  values.filterMap fun v => match v with
    | .text s => some s
    | _ => none

/-- The role names in a value: a single name, the items of a list, the values of a mapping. Items that
are no texts are left out. -/
def namesIn (v : Value) : Except Failure (List String) :=
  if !v.isTruthy then .ok []
  else match v with
    | .text s => .ok [s]
    | .mapping entries => .ok (textsAmong (entries.map (·.2)))
    | v => v.items.map textsAmong

end Role

end DatasetForm
