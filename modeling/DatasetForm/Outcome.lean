import DatasetForm.Complaint
import DatasetForm.Json.Tree

/-!
The one result that a field displays: an error, which keeps the form from being submitted, or a warning,
which does not.
-/

set_option autoImplicit false
set_option relaxedAutoImplicit false

namespace DatasetForm

/-- How bad an outcome is. Only errors block submission. -/
inductive Severity
  | error
  | warning
  deriving DecidableEq, Repr

namespace Severity

def word : Severity → String
  | .error => "error"
  | .warning => "warning"

/-- The name of a severity in headings. -/
def heading : Severity → String
  | .error => "ERROR"
  | .warning => "WARNING"

/-- The severity that a word stands for. -/
def ofValue (v : Value) : Except Failure Severity :=
  match v with
  | .text s =>
    if s == Severity.error.word then .ok .error
    else if s == Severity.warning.word then .ok .warning
    else .error (.unknownSeverity v)
  | _ => .error (.unknownSeverity v)

end Severity

/-- The result of a check that found something. -/
structure Outcome where
  severity : Severity
  complaint : Complaint

namespace Outcome

/-- An outcome that blocks submission. -/
def error (complaint : Complaint) : Outcome :=
  ⟨.error, complaint⟩

/-- An outcome that does not. -/
def warning (complaint : Complaint) : Outcome :=
  ⟨.warning, complaint⟩

/-- The text shown for an outcome. -/
def message (o : Outcome) : String :=
  o.complaint.message

/-- Does the outcome keep the form from being submitted? -/
def blocks (o : Outcome) : Bool :=
  o.severity == .error

/-- The outcome on one line, severity first. -/
def line (o : Outcome) : String :=
  s!"[{o.severity.heading}] {o.message}"

def json (o : Outcome) : JsonTree :=
  .object [("severity", .text o.severity.word), ("message", .text o.message)]

end Outcome

/-- The answer of a check of one value: accepted, perhaps with the form in which to keep the value, or
refused. -/
inductive Verdict
  | accepted (normal : Option String)
  | refused (complaint : Complaint)

namespace Verdict

/-- Is the value accepted? -/
def isAccepted : Verdict → Bool
  | .accepted _ => true
  | .refused _ => false

/-- The form in which to keep an accepted value. -/
def normal? : Verdict → Option String
  | .accepted normal => normal
  | .refused _ => none

/-- A refusal is an error. -/
def outcome? : Verdict → Option Outcome
  | .accepted _ => none
  | .refused complaint => some (.error complaint)

end Verdict

end DatasetForm
