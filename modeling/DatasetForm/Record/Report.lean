import DatasetForm.Record.Basic
import DatasetForm.Role.Contributor
import DatasetForm.Rule.Dates
import DatasetForm.Rule.Titles

/-!
Checking a whole record: each field has at most one outcome, and the report lists them in the order of the
fields.
-/

set_option autoImplicit false
set_option relaxedAutoImplicit false

namespace DatasetForm

/-- The fields of a record that can have an outcome. -/
inductive FieldId
  | titles
  | title (index : Nat)
  | publicationYear
  | version
  | doi
  | abstract
  | url
  | dates
  | date (index : Nat)
  | roles (index : Nat)
  | orcid (index : Nat)
  deriving DecidableEq, Repr

/-- The text of a field's id. -/
def FieldId.text : FieldId → String
  | .titles => "titles"
  | .title index => s!"titles.{index}"
  | .publicationYear => "publication_year"
  | .version => "version"
  | .doi => "doi"
  | .abstract => "abstract"
  | .url => "url"
  | .dates => "dates"
  | .date index => s!"dates.{index}"
  | .roles index => s!"contributors.{index}.roles"
  | .orcid index => s!"contributors.{index}.orcid"

/-- A field together with its outcome. -/
abbrev Finding := FieldId × Outcome

/-- The outcomes of a record, in the order of its fields. -/
structure Report where
  findings : List Finding

namespace Report

def ofSeverity (r : Report) (severity : Severity) : List Finding :=
  r.findings.filter fun finding => finding.2.severity == severity

def errors (r : Report) : List Finding :=
  r.ofSeverity .error

def warnings (r : Report) : List Finding :=
  r.ofSeverity .warning

/-- Is there an error? -/
def hasErrors (r : Report) : Bool :=
  !r.errors.isEmpty

/-- The lines of the findings of one severity under a heading, after an empty line. -/
def sectionLines (r : Report) (severity : Severity) : List String :=
  match r.ofSeverity severity with
  | [] => []
  | findings =>
    s!"\n{severity.heading} ({findings.length}):" ::
      findings.map fun finding => s!"  {finding.1.text}: {finding.2.message}"

/-- The report as text, with the time at which it was made. -/
def summary (r : Report) (time : DateTime) : String :=
  let head := ["=== Validation Report ===", s!"Generated: {time.spacedText}"]
  let body :=
    if r.findings.isEmpty then ["No issues found"] else r.sectionLines .error ++ r.sectionLines .warning
  Value.joined "\n" (head ++ body)

end Report

namespace Record

/-- A finding, if there is an outcome. -/
def finding (field : FieldId) (outcome : Option Outcome) : List Finding :=
  (outcome.map fun o => (field, o)).toList

/-- A text that may be missing, as a value. -/
def textValue : Option String → Value
  | none => .null
  | some s => .text s

/-- What is wrong with the titles as a whole. -/
def titleSetOutcome (titles : List Title) (most : Value) : Except Failure (Option Outcome) :=
  if titles.isEmpty then .ok (some (.error .noTitle))
  else match (Value.int titles.length).compares .greater most with
    | .error failure => .error failure
    | .ok true => .ok (some (.error (.tooManyTitles most)))
    | .ok false =>
      .ok (if titles.any fun t => t.kind == TitleType.mainTitle.slug then none
        else some (.error .noMainTitle))

def checkTitles (settings : Settings) (titles : List Title) : List Finding :=
  ((Rule.revalidate settings (titles.map Title.row)).zipIdx.map fun (outcome, index) =>
    finding (.title index) outcome).flatten

/-- The findings on the fields that stand by themselves. -/
def checkFields (settings : Settings) (today : Date) (record : Record) : List Finding :=
  let check (field : FieldId) (rules : List Rule) (part : Option String) : List Finding :=
    finding field (Rule.evaluate rules (textValue part) .null)
  check .publicationYear (Rule.yearRules settings today) record.publicationYear ++
    check .version Rule.versionRules record.version ++
    check .doi (Rule.doiRules settings) record.doi ++
    check .abstract (Rule.abstractRules settings) record.abstract ++
    check .url (Rule.urlRules "URL" false) record.url

/-- What is wrong with the number of dates. -/
def dateSetOutcome (dates : List DateRange) (most : Value) : Except Failure (Option Outcome) :=
  match (Value.int dates.length).compares .greater most with
  | .error failure => .error failure
  | .ok many => .ok (if many then some (.error (.tooManyDates most)) else none)

def dateOutcome (today : Date) (range : DateRange) : Except Failure (Option Outcome) :=
  (Rule.dateRules (.text range.kind) today).map fun rules =>
    Rule.evaluate rules range.row.toValue .null

/-- The findings on the date ranges, from position `index` on. -/
def checkDates (today : Date) : (index : Nat) → List DateRange → Except Failure (List Finding)
  | _, [] => .ok []
  | index, range :: ranges => do
    let outcome ← dateOutcome today range
    let others ← checkDates today (index + 1) ranges
    return finding (.date index) outcome ++ others

/-- The findings on one contributor. Only a person has an ORCID identifier to check. -/
def checkContributor (index : Nat) (c : Contributor) : List Finding :=
  let labels := Role.labelsOf c.roles
  finding (.roles index) (if labels.isEmpty then some (.error .noRole) else none) ++
    (if ContributorKind.infer (c.kind.getD "") labels = .person then
      finding (.orcid index) (Rule.evaluate Rule.orcidRules (textValue c.orcid) .null)
    else [])

def checkContributors (contributors : List Contributor) : List Finding :=
  (contributors.zipIdx.map fun (c, index) => checkContributor index c).flatten

/-- Check every field of a record. -/
def check (settings : Settings) (today : Date) (record : Record) : Except Failure Report := do
  let titleSet ← titleSetOutcome record.titles settings.maxTitles
  let dateSet ← dateSetOutcome record.dates settings.maxDates
  let dates ← checkDates today 0 record.dates
  return ⟨finding .titles titleSet ++ checkTitles settings record.titles ++
    checkFields settings today record ++ finding .dates dateSet ++ dates ++
    checkContributors record.contributors⟩

end Record

end DatasetForm
