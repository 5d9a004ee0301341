import DatasetForm.CommandLine.Run
import DatasetForm.Proofs.Record.Display
import DatasetForm.Proofs.Record.Reading
import DatasetForm.Proofs.Settings.Precedence
import DatasetForm.Proofs.Text.Runs

/-!
The answer to a request to check the record in a file: a status that tells whether the file holds a record without
errors, and a report that is the same in both styles.
-/

set_option autoImplicit false
set_option relaxedAutoImplicit false

namespace DatasetForm

open Text (IsWhole)

namespace Path

variable {path : String}

private theorem whole_of_mem_names (whole : IsWhole path) {name : List Char} (member : name ∈ names path) :
    ∀ c ∈ name, Text.isHalf c = false :=
  Text.consists_splitAt whole '/' name (List.mem_of_mem_filter member)

theorem isWhole_normal (whole : IsWhole path) : IsWhole (normal path) := by
  have joined : IsWhole (String.ofList (Text.joinRuns '/' (names path))) := by
    intro c member
    rw [String.toList_ofList] at member
    rcases Text.mem_joinRuns member with rfl | ⟨name, inNames, inName⟩
    · decide
    · exact whole_of_mem_names whole inNames c inName
  rw [normal]
  split
  · exact .append (by decide) joined
  · split
    · decide
    · exact joined

theorem isWhole_fileName (whole : IsWhole path) : IsWhole (fileName path) := by
  rw [fileName]
  split
  next name last =>
    intro c member
    rw [String.toList_ofList] at member
    exact whole_of_mem_names whole (List.mem_of_getLast? last) c member
  · decide

end Path

/-- The text by which a report names the file at a path: its name, or the whole path. -/
def ReportStyle.heading (path : String) : ReportStyle → String
  | .table => Path.fileName path
  | .json => path

theorem ReportStyle.isWhole_heading {path : String} (named : IsWhole path) (style : ReportStyle) :
    IsWhole (style.heading path) := by
  cases style with
  | table => exact Path.isWhole_fileName named
  | json => exact named

namespace Record

/-- The file holds the record: it is read as a mapping, and the record is made of the mapping. -/
def IsIn (path : String) (bytes : List Nat) (record : Record) : Prop :=
  ∃ fields, valueOfBytes path bytes = .ok (.mapping fields) ∧ ofValue (.mapping fields) = .ok record

/-- The file goes past no limit of what is read at all: if it is read as a mapping, no text in it holds a half of a
surrogate pair, and it is not nested too deeply. Its bytes may be no text, and its text may be broken. -/
def IsOrdinary (path : String) (bytes : List Nat) : Prop :=
  match valueOfBytes path bytes with
  | .ok (.mapping fields) => (Value.mapping fields).IsWhole ∧ (Value.mapping fields).depth ≤ Value.depthLimit
  | .error (.limit _) => False
  | _ => True

variable {path : String} {bytes : List Nat} {record : Record}

theorem ofBytes_eq_ok_iff : ofBytes path bytes = .ok record ↔ IsIn path bytes record := by
  constructor
  · intro read
    rw [ofBytes] at read
    split at read
    · cases read
    next fields value =>
      cases made : ofValue (.mapping fields) with
      | error failure =>
        rw [made] at read
        cases read
      | ok other =>
        rw [made] at read
        cases read
        exact ⟨fields, value, made⟩
    · cases read
  · rintro ⟨fields, value, made⟩
    rw [ofBytes, value]
    dsimp only
    rw [made]

/-- An ordinary file is refused, if at all, in words. -/
theorem ofBytes_ne_limit (ordinary : IsOrdinary path bytes) (failure : Failure) :
    ofBytes path bytes ≠ .error (.limit failure) := by
  intro refused
  rw [IsOrdinary] at ordinary
  rw [ofBytes] at refused
  split at refused
  next fault failed =>
    cases refused
    rw [failed] at ordinary
    exact ordinary
  next fields value =>
    rw [value] at ordinary
    have made := delivers_ofValue ordinary.1 ordinary.2
    split at refused
    next other failed =>
      rw [failed] at made
      have spared : other.isLimit = false := made
      rw [spared] at refused
      cases refused
    · cases refused
  · cases refused

theorem isWhole_url (ordinary : IsOrdinary path bytes) (held : IsIn path bytes record) :
    ∀ url ∈ record.url, IsWhole url := by
  obtain ⟨fields, value, made⟩ := held
  rw [IsOrdinary, value] at ordinary
  have delivers := delivers_ofValue ordinary.1 ordinary.2
  rw [made] at delivers
  exact delivers

end Record

namespace Response

variable {disk : Disk} {env : Environment} {today : Date} {args : List String} {limits : Limits} {path : String}
  {style : ReportStyle} {bytes : List Nat}

theorem written_of_isWhole {r : Response} (whole : ∀ text ∈ r.output, IsWhole text) : r.written = r := by
  have nothing : r.output.findSome? Text.halfFault? = none :=
    List.findSome?_eq_none_iff.mpr fun text member => Text.halfFault?_eq_none_iff.mpr (whole text member)
  rw [written, nothing]

/-- An answer that can be written stays as it is, and any other is a crash. -/
theorem written_cases (r : Response) :
    (r.written = r ∧ ∀ text ∈ r.output, IsWhole text) ∨ (r.written.crash ≠ none ∧ r.written.status = 1) := by
  by_cases whole : ∀ text ∈ r.output, IsWhole text
  · exact .inl ⟨written_of_isWhole whole, whole⟩
  · rw [written]
    split
    next nothing =>
      refine absurd (fun text member => ?_) whole
      exact Text.halfFault?_eq_none_iff.mp (List.findSome?_eq_none_iff.mp nothing text member)
    · exact .inr ⟨Option.some_ne_none _, rfl⟩

theorem isWhole_output {report : Report} (messages : ∀ found ∈ report.findings, IsWhole found.2.message)
    (named : IsWhole (style.heading path)) : ∀ text ∈ (ofReport path style report).output, IsWhole text := by
  cases style with
  | table => exact report.isWhole_texts named messages
  | json => exact List.forall_mem_singleton.mpr ((Report.isWhole_json_iff messages).mpr named)

theorem status_ofReport (path : String) (style : ReportStyle) (report : Report) :
    (ofReport path style report).status = if report.hasErrors then 1 else 0 :=
  rfl

/-- The answer to an ordinary file is a report on the record that it holds, or one line that tells why it holds none. -/
theorem ofFile_cases (ordinary : Record.IsOrdinary path bytes) (limits : Limits) (today : Date) (style : ReportStyle) :
    (∃ record report, Record.IsIn path bytes record ∧ record.check limits.settings today = .ok report ∧
        ofFile limits today path bytes style = ofReport path style report) ∨
      (∀ record, ¬ Record.IsIn path bytes record) ∧
        ∃ message, ofFile limits today path bytes style = failed message := by
  cases read : Record.ofBytes path bytes with
  | ok record =>
    obtain ⟨report, checked⟩ := Record.exists_check limits today record
    refine .inl ⟨record, report, Record.ofBytes_eq_ok_iff.mp read, checked, ?_⟩
    rw [ofFile, read]
    dsimp only
    rw [checked]
  | error fault =>
    have none_held (record : Record) : ¬ Record.IsIn path bytes record := by
      intro held
      rw [Record.ofBytes_eq_ok_iff.mpr held] at read
      cases read
    refine .inr ⟨none_held, s!"Error: {fault.message path}", ?_⟩
    cases fault with
    | limit failure => exact absurd read (Record.ofBytes_ne_limit ordinary failure)
    | _ => rw [ofFile, read]

theorem isIn_unique {record other : Record} (held : Record.IsIn path bytes record)
    (held' : Record.IsIn path bytes other) : record = other := by
  rw [← Record.ofBytes_eq_ok_iff] at held held'
  exact Except.ok.inj (held.symm.trans held')

/-- The file holds a record in whose report there is no error. -/
def HoldsSound (limits : Limits) (today : Date) (path : String) (bytes : List Nat) : Prop :=
  ∃ record report, Record.IsIn path bytes record ∧ record.check limits.settings today = .ok report ∧
    report.hasErrors = false

theorem holdsSound_iff {record : Record} {report : Report} (held : Record.IsIn path bytes record)
    (checked : record.check limits.settings today = .ok report) :
    HoldsSound limits today path bytes ↔ report.hasErrors = false := by
  constructor
  · rintro ⟨other, report', held', checked', sound⟩
    rw [isIn_unique held' held, checked] at checked'
    rw [Except.ok.inj checked', sound]
  · exact fun sound => ⟨record, report, held, checked, sound⟩

section

variable (file : disk path = .file bytes) (ordinary : Record.IsOrdinary (Path.normal path) bytes)
include file ordinary

private theorem ofRequest_cases (limits : Limits) (today : Date) (style : ReportStyle) :
    (∃ record report, Record.IsIn (Path.normal path) bytes record ∧
        record.check limits.settings today = .ok report ∧
        ofRequest disk limits today (.check path style) = (ofReport (Path.normal path) style report).written) ∨
      (∀ record, ¬ Record.IsIn (Path.normal path) bytes record) ∧
        ∃ message, ofRequest disk limits today (.check path style) = failed message := by
  have answer : ofRequest disk limits today (.check path style) =
      (ofFile limits today (Path.normal path) bytes style).written := by
    rw [ofRequest, answerTo, file]
  rw [answer]
  rcases ofFile_cases ordinary limits today style with ⟨record, report, held, checked, same⟩ | ⟨nothing, message, same⟩
  · exact .inl ⟨record, report, held, checked, by rw [same]⟩
  · refine .inr ⟨nothing, message, ?_⟩
    rw [same]
    exact written_of_isWhole (List.forall_mem_nil _)

private theorem crash_eq_none (limits : Limits) (today : Date)
    (named : ∀ record, Record.IsIn (Path.normal path) bytes record → IsWhole (style.heading (Path.normal path))) :
    (ofRequest disk limits today (.check path style)).crash = none := by
  rcases ofRequest_cases file ordinary limits today style with
    ⟨record, report, held, checked, answer⟩ | ⟨_, _, answer⟩
  · have messages := Record.isWhole_messages checked (Record.isWhole_url ordinary held)
    rw [answer, written_of_isWhole (isWhole_output messages (named record held))]
    rfl
  · rw [answer]
    rfl

private theorem isWhole_of_crash_eq_none (limits : Limits) (today : Date)
    (calm : (ofRequest disk limits today (.check path .json)).crash = none) {record : Record}
    (held : Record.IsIn (Path.normal path) bytes record) : IsWhole (Path.normal path) := by
  rcases ofRequest_cases file ordinary limits today .json with
    ⟨other, report, held', checked, answer⟩ | ⟨nothing, -⟩
  · rw [answer] at calm
    rcases written_cases (ofReport (Path.normal path) .json report) with ⟨-, whole⟩ | ⟨crash, -⟩
    · have messages := Record.isWhole_messages checked (Record.isWhole_url ordinary held')
      exact (Report.isWhole_json_iff messages).mp (List.forall_mem_singleton.mp whole)
    · exact absurd calm crash
  · exact absurd held (nothing record)

private theorem status_cases (limits : Limits) (today : Date) (style : ReportStyle) :
    (ofRequest disk limits today (.check path style)).status = 0 ∨
      (ofRequest disk limits today (.check path style)).status = 1 := by
  rcases ofRequest_cases file ordinary limits today style with ⟨_, report, _, _, answer⟩ | ⟨_, _, answer⟩
  · rw [answer]
    rcases written_cases (ofReport (Path.normal path) style report) with ⟨same, -⟩ | ⟨-, one⟩
    · rw [same, status_ofReport]
      cases report.hasErrors <;> decide
    · exact .inr one
  · rw [answer]
    exact .inr rfl

private theorem status_eq_zero_iff (limits : Limits) (today : Date) (style : ReportStyle) :
    (ofRequest disk limits today (.check path style)).status = 0 ↔
      (ofRequest disk limits today (.check path style)).crash = none ∧
        HoldsSound limits today (Path.normal path) bytes := by
  rcases ofRequest_cases file ordinary limits today style with
    ⟨record, report, held, checked, answer⟩ | ⟨nothing, message, answer⟩
  · rw [answer, holdsSound_iff held checked]
    rcases written_cases (ofReport (Path.normal path) style report) with ⟨same, -⟩ | ⟨crash, one⟩
    · have calm : (ofReport (Path.normal path) style report).crash = none := rfl
      rw [same, status_ofReport, and_iff_right calm]
      cases report.hasErrors <;> decide
    · rw [one]
      exact ⟨fun zero => absurd zero (by decide), fun calm => absurd calm.1 crash⟩
  · have unsound : ¬ HoldsSound limits today (Path.normal path) bytes := by
      rintro ⟨record, -, held, -⟩
      exact nothing record held
    have one : (failed message).status = 1 := rfl
    rw [answer, one]
    exact ⟨fun zero => absurd zero (by decide), fun calm => absurd calm.2 unsound⟩

end

/-! ## The command line -/

/-- The command line asks for this, under these settings. -/
def Asks (disk : Disk) (env : Environment) (args : List String) (limits : Limits) (request : Request) : Prop :=
  args ≠ [] ∧ ∃ a path? c rest, Request.arguments .program args = .ok a ∧
    Request.configPath disk .program a = .ok path? ∧ Request.member disk .program a = .ok (c, rest) ∧
    Config.loadLimits disk env path? = .ok limits ∧ Request.ofMember disk c rest = .ok request

/-- The answer to a command line is the answer to what it asks for; only what is told of what was done may differ. -/
theorem ofArguments_of_asks {request : Request} (asked : Asks disk env args limits request) (today : Date) :
    ∃ log, ofArguments disk env today args = { ofRequest disk limits today request with log } := by
  obtain ⟨some, a, path?, c, rest, arguments, config, member, loaded, read⟩ := asked
  rw [ofArguments, if_neg (by rwa [List.isEmpty_iff]), arguments]
  dsimp only
  rw [config]
  dsimp only
  rw [member]
  dsimp only
  rw [ofMember, loaded]
  dsimp only
  rw [read]
  exact ⟨_, rfl⟩

/-- The severity in a finding that was read back. -/
def severityIn : Value → Option Value
  | .mapping fields => Entries.field? fields "severity"
  | _ => none

/-- What is written shows the report: a line that says that there is nothing to tell; a table whose rows begin with the
fields and their severities; or JSON that is read back with the verdict, which agrees with the status, and with
the same fields and severities in the same order. -/
def Shows (r : Response) (path : String) (report : Report) : ReportStyle → Prop
  | .table =>
    if report.listing = [] then r.output = [pageText s!"✓ {Path.fileName path}: no issues found"]
    else ∃ table, r.output = [Table.text table, report.counts] ∧
      table.rows.map (List.take 2) = report.listing.map fun (field, severity) => [field, severity]
  | .json => ∃ outcomes : Entries, Json.read r.outputText.toList = .ok (.mapping [(.text "record", .text path),
      (.text "valid", .bool (r.status == 0)), (.text "outcomes", .mapping outcomes)]) ∧
    outcomes.map (fun entry => (entry.1, severityIn entry.2)) =
      report.listing.map fun (field, severity) => (.text field, some (.text severity))

private theorem withoutReturns_of_not_mem {cs : List Char} (absent : '\r' ∉ cs) : Text.withoutReturns cs = cs := by
  induction cs with
  | nil => rfl
  | cons c cs ih =>
    obtain ⟨first, rest⟩ := not_or.mp (mt List.mem_cons.mpr absent)
    rw [Text.withoutReturns, ih rest]
    rintro cs' rfl -
    exact first rfl

theorem shows_ofReport (named : IsWhole path) {report : Report}
    (distinct : (report.findings.map fun found => found.1.text).Nodup)
    (messages : ∀ found ∈ report.findings, IsWhole found.2.message) (log : List String) :
    Shows { ofReport path style report with log } path report style := by
  cases style with
  | table =>
    have nothing : report.listing = [] ↔ report.findings = [] := List.map_eq_nil_iff
    have output : (ofReport path .table report).output = report.texts (Path.fileName path) := rfl
    rw [Shows, output, Report.texts]
    by_cases empty : report.findings = []
    · rw [if_pos (nothing.mpr empty), if_pos (List.isEmpty_iff.mpr empty)]
    · rw [if_neg (mt nothing.mp empty), if_neg (mt List.isEmpty_iff.mp empty)]
      refine ⟨_, rfl, ?_⟩
      rw [Report.table, Report.listing, List.map_map, List.map_map]
      rfl
  | json =>
    have clean := report.consists_json named messages
    have text : (outputText { ofReport path .json report with log }).toList =
        ((report.json path).indented 0).toList ++ ['\n'] := by
      have joined : String.join [(report.json path).indented 0 ++ "\n"] = (report.json path).indented 0 ++ "\n" := by
        simp [String.join]
      -- Returns are left out of what is written, but JSON holds none.
      have returns : '\r' ∉ ((report.json path).indented 0 ++ "\n").toList := by
        rw [String.toList_append, List.mem_append, not_or]
        exact ⟨fun member => (clean _ member).2 rfl, by decide⟩
      have lines : outputText { ofReport path .json report with log } =
          String.ofList (Text.withoutReturns (String.join [(report.json path).indented 0 ++ "\n"]).toList) := rfl
      rw [lines, String.toList_ofList, joined, withoutReturns_of_not_mem returns, String.toList_append]
      rfl
    have status : ((ofReport path .json report).status == 0) = !report.hasErrors := by
      rw [status_ofReport]
      cases report.hasErrors <;> rfl
    rw [Shows, text, Report.read_json distinct]
    refine ⟨_, by rw [status]; rfl, ?_⟩
    rw [Report.listing, List.map_map, List.map_map]
    exact List.map_congr_left fun found _ => rfl

/-- In JSON, which names the whole path, no failure goes past the program exactly when the path can be written, or there
is nothing to report. -/
theorem crash_json_iff (asked : Asks disk env args limits (.check path .json)) (file : disk path = .file bytes)
    (ordinary : Record.IsOrdinary (Path.normal path) bytes) (today : Date) :
    (ofArguments disk env today args).crash = none ↔
      ∀ record, Record.IsIn (Path.normal path) bytes record → IsWhole (Path.normal path) := by
  obtain ⟨log, answer⟩ := ofArguments_of_asks asked today
  rw [answer]
  constructor
  · exact fun calm record held => isWhole_of_crash_eq_none file ordinary limits today calm held
  · intro named
    have calm : (ofRequest disk limits today (.check path .json)).crash = none :=
      crash_eq_none file ordinary limits today named
    exact calm

def nearLimitText : String :=
  "\x7b\"titles\":[\x7b\"title\":\"Ice cores\"\x7d],\"year\":\"2023\",\"abstract\":\"Snow\"\x7d"

/-- A file with a record whose title is as long as a title may be. -/
def nearLimitFiles : Disk :=
  Disk.ofFiles [("cores.json", nearLimitText.toList.map Char.toNat)]

def nearLimitVariables : Environment :=
  [("XDG_CONFIG_HOME", "conf"), ("DCFORM_TITLE_MAX_LENGTH", "9")]

def nearLimitFields : Entries :=
  [(.text "titles", .list [.mapping [(.text "title", .text "Ice cores")]]),
    (.text "year", .text "2023"), (.text "abstract", .text "Snow")]

def nearLimitRecord : Record :=
  { titles := [⟨"Ice cores", "main-title"⟩], publicationYear := some "2023", abstract := some "Snow" }

def nearLimitReport : Report :=
  ⟨[(.title 0, .warning (.nearLimit "Title" 9 (.int 9)))]⟩

private theorem nearLimit_loaded :
    Config.loadLimits nearLimitFiles nearLimitVariables none = .ok { titleMaxLength := 9 } := by
  have held : List.Forall₂ (Config.Holds nearLimitFiles) (Config.defaultPaths nearLimitVariables)
      [none, none, none] := by
    have paths : Config.defaultPaths nearLimitVariables =
        ["conf/dcform/config.yaml", ".dcform.yaml", "dcform.yaml"] := by decide +kernel
    rw [paths]
    exact .cons (.missing (by decide +kernel)) (.cons (.missing (by decide +kernel))
      (.cons (.missing (by decide +kernel)) .nil))
  obtain ⟨configs, read, carried⟩ := Config.exists_ofFiles held
  cases carried
  rw [Config.loadLimits, Config.load, Config.consulted, read]
  rfl

set_option maxRecDepth 4000 in
private theorem nearLimit_value :
    Record.valueOfBytes "cores.json" (nearLimitText.toList.map Char.toNat) = .ok (.mapping nearLimitFields) := by
  have decoded : Text.decodeUtf8 (nearLimitText.toList.map Char.toNat) = .ok nearLimitText.toList := rfl
  have json : Record.isJsonName "cores.json" = true := by decide +kernel
  have read : Json.read (Text.unifyLines nearLimitText.toList) = .ok (.mapping nearLimitFields) := by cbv
  rw [Record.valueOfBytes, decoded]
  dsimp only
  rw [Record.readText, if_pos json, read]

private theorem nearLimit_file : nearLimitFiles "cores.json" = .file (nearLimitText.toList.map Char.toNat) := by
  decide +kernel

private theorem nearLimit_record {bytes : List Nat}
    (value : Record.valueOfBytes "cores.json" bytes = .ok (.mapping nearLimitFields)) :
    Record.IsOrdinary (Path.normal "cores.json") bytes ∧
      Record.IsIn (Path.normal "cores.json") bytes nearLimitRecord := by
  have place : Path.normal "cores.json" = "cores.json" := by decide +kernel
  have whole : (Value.mapping nearLimitFields).IsWhole := by
    simp only [nearLimitFields, Value.IsWhole, Value.HasWholeEntries, Value.AreWhole]
    decide
  rw [place, Record.IsOrdinary, value]
  exact ⟨⟨whole, by decide +kernel⟩, nearLimitFields, value, rfl⟩

private theorem nearLimit_checked :
    nearLimitRecord.check ({ titleMaxLength := 9 } : Limits).settings ⟨2024, 3, 1, by decide⟩ = .ok nearLimitReport :=
  rfl

private theorem nearLimit_asks : Asks nearLimitFiles nearLimitVariables ["check", "cores.json"] { titleMaxLength := 9 }
    (.check "cores.json" .table) :=
  ⟨nofun, _, none, .check, ["cores.json"], rfl, rfl, rfl, nearLimit_loaded, by decide +kernel⟩

private theorem nearLimit_asks_json : Asks nearLimitFiles nearLimitVariables ["check", "cores.json", "--format", "json"]
    { titleMaxLength := 9 } (.check "cores.json" .json) :=
  ⟨nofun, _, none, .check, ["cores.json", "--format", "json"], rfl, rfl, rfl, nearLimit_loaded, by decide +kernel⟩

end Response

end DatasetForm
