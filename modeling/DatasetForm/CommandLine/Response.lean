import DatasetForm.CommandLine.Request
import DatasetForm.Dates.Row
import DatasetForm.Record.Display
import DatasetForm.Record.File
import DatasetForm.Settings.Load

/-!
What the program answers: texts to read, lines that tell what went wrong, and a status, which is zero when
all is well, one when something was found wrong, and two when the program was not called as it has to be.
A text that cannot be written in UTF-8 ends the program.
-/

set_option autoImplicit false
set_option relaxedAutoImplicit false

namespace DatasetForm

/-- A failure that the program has no words of its own for. -/
inductive Crash
  | config (fault : ConfigFault)
  | failure (cause : Failure)

/-- The text of a crash. -/
def Crash.message : Crash → String
  | .config fault => fault.message
  | .failure cause => cause.message

/-- What the program answers. -/
structure Response where
  status : Nat := 0
  /-- What is written for people or programs to read, one text after the other. -/
  output : List String := []
  /-- What was done, for those who want to know. -/
  log : List String := []
  errors : List String := []
  crash : Option Crash := none

namespace Response

/-- Lines as a text; each one is ended by a line feed alone. -/
def textOf (lines : List String) : String :=
  String.ofList (Text.withoutReturns (String.join (lines.map (· ++ "\n"))).toList)

/-- What is written for people to read. -/
def outputText (r : Response) : String :=
  textOf r.output

/-- What is written beside it: what was done, and then what went wrong. Here a half of a surrogate pair is
told by its code. -/
def errorText (r : Response) : String :=
  Text.escapeHalves (textOf (r.log.map ("DEBUG: " ++ ·) ++ r.errors))

/-- The answer that is one text. -/
def ofText (text : String) : Response :=
  { output := [Text.withoutSequences text] }

/-- The answer that tells what went wrong. -/
def ofErrors (status : Nat) (errors : List String) : Response :=
  { status, errors := errors.map Text.withoutSequences }

/-- The answer when something was found wrong. -/
def failed (message : String) : Response :=
  ofErrors 1 [message]

/-- The answer to a crash. -/
def crashed (crash : Crash) : Response :=
  { status := 1, crash := some crash }

/-- Why a path cannot be used, as a failure. -/
def failureOf : PathFault → Failure
  | .nul => .nulInPath
  | .notEncodable fault => .notEncodable fault

/-- An answer up to the first text that cannot be written. -/
def written (r : Response) : Response :=
  match r.output.findSome? Text.halfFault? with
  | none => r
  | some fault =>
    { r with
      status := 1
      output := r.output.takeWhile fun text => (Text.halfFault? text).isNone
      crash := some (.failure (.notEncodable fault)) }

/-- The answer to a command line that asks for nothing that can be done. -/
def ofHalt : Halt → Response
  | .version => { output := ["dcform version 0.1.0"] }
  | .help c => { output := [c.usage] }
  | .noArguments c => ofErrors 2 [c.usage]
  | .usage c fault =>
    let usage := if fault.isTerse then [] else [c.usage, s!"Try '{c.path} --help' for help.", ""]
    ofErrors 2 (usage ++ [s!"Error: {fault.message}"])
  | .unusablePath fault => crashed (.failure (failureOf fault))

/-- The answer to a report on the file at a path. -/
def ofReport (path : String) (style : ReportStyle) (report : Report) : Response :=
  { status := if report.hasErrors then 1 else 0
    output := match style with
      | .table => report.texts (Path.fileName path)
      | .json => [(report.json path).indented 0]
    log := [s!"Checked record: {report.errors.length} errors, {report.warnings.length} warnings"] }

/-- The answer to a request to check the record in the bytes of a file. -/
def ofFile (limits : Limits) (today : Date) (path : String) (bytes : List Nat) (style : ReportStyle) :
    Response :=
  match Record.ofBytes path bytes with
  | .error (.limit failure) => crashed (.failure failure)
  | .error fault => failed s!"Error: {fault.message path}"
  | .ok record =>
    match record.check limits.settings today with
    | .error failure => crashed (.failure failure)
    | .ok report => ofReport path style report

/-- The tokens in a stored date, each with a label: the ends of a range, or the value by itself. -/
def dateParts (value : String) : List (String × String) :=
  if value.toList.contains '/' then
    let (start, stop) := DateRow.parse value
    (start.map fun s => ("start", s)).toList ++ (stop.map fun s => ("end", s)).toList
  else [("value", value)]

/-- A stored date taken apart. -/
def dateTable (value : String) : Table :=
  { heads := ["Part", "Date", "Time", "Timezone"]
    rows := (dateParts value).map fun (label, part) =>
      let token := DateToken.parse part
      [label, token.date, token.time.getD "", token.zone.getD ""] }

/-- The answer to roles. -/
def ofRoles (roles : List String) (type : Option String) : Response :=
  let labels := Role.labelsOf roles
  let kind := ContributorKind.infer (type.getD "") labels
  { output := labels.map (fun label => pageText s!"  • {label}") ++ [s!"Contributor type: {kind.word}"] }

/-- The answer to a request, if all of it can be written. -/
def answerTo (disk : Disk) (limits : Limits) (today : Date) : Request → Response
  | .check path style =>
    match disk path with
    | .file bytes => ofFile limits today (Path.normal path) bytes style
    | _ => ofHalt (.usage .check (.noFile "'RECORD'" "File" path))
  | .parseDate value => { output := [(dateTable value).text] }
  | .buildDate date time zone => ofText ({ date, time, zone } : DateToken).text
  | .serializeDates start stop _ =>
    match DateRow.compose? (Text.strip (start.getD "")) (Text.strip (stop.getD "")) with
    | some text => ofText text
    | none => ofHalt (.usage .dateSerialize .noDate)
  | .showRoles roles type => ofRoles roles type

/-- The answer to a request. -/
def ofRequest (disk : Disk) (limits : Limits) (today : Date) (request : Request) : Response :=
  (answerTo disk limits today request).written

end Response

end DatasetForm
