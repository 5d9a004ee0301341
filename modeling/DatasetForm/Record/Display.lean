import DatasetForm.Record.Report
import DatasetForm.Table

/-!
Showing the report of a record to people, as a table, and to programs, as JSON. Both list the same fields
with the same severities and messages, in the same order.
-/

set_option autoImplicit false
set_option relaxedAutoImplicit false

namespace DatasetForm

namespace Report

/-- The report as a table under a title. -/
def table (r : Report) (title : String) : Table :=
  { title := some title
    heads := ["Field", "Severity", "Message"]
    rows := r.findings.map fun (field, outcome) =>
      [field.text, outcome.severity.word, outcome.message] }

/-- How many findings of each severity there are. -/
def counts (r : Report) : String :=
  s!"Errors: {r.errors.length}  Warnings: {r.warnings.length}"

/-- The report on the file with a name, as texts for people. -/
def texts (r : Report) (name : String) : List String :=
  if r.findings.isEmpty then [pageText s!"✓ {name}: no issues found"]
  else [(r.table s!"Validation results for {name}").text, r.counts]

/-- The report on the file at a path, for programs. -/
def json (r : Report) (path : String) : JsonTree :=
  .object [("record", .text path), ("valid", .bool (!r.hasErrors)),
    ("outcomes", .object (r.findings.map fun (field, outcome) => (field.text, outcome.json)))]

end Report

end DatasetForm
