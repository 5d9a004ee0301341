import DatasetForm.CommandLine.Arguments
import DatasetForm.Disk

/-!
What a command line asks for. Arguments are judged in a fixed order: a request for the version or for help
comes first, then the values of options, then the other arguments.
-/

set_option autoImplicit false
set_option relaxedAutoImplicit false

namespace DatasetForm

/-- How a report is shown. -/
inductive ReportStyle
  | table
  | json
  deriving DecidableEq, Repr

namespace ReportStyle

/-- All styles, the default first. -/
def all : List ReportStyle :=
  [.table, .json]

def word : ReportStyle → String
  | .table => "table"
  | .json => "json"

end ReportStyle

/-- What is asked of one command. -/
inductive Request
  /-- Check the record in a file. -/
  | check (path : String) (style : ReportStyle)
  /-- Take a date or a range of dates apart. -/
  | parseDate (value : String)
  /-- Put a date, a time and a zone together. -/
  | buildDate (date : String) (time zone : Option String)
  /-- Write a range of dates as a record keeps it. -/
  | serializeDates (start stop : Option String) (type : String)
  /-- Write roles in their usual form and tell the type of the contributor. -/
  | showRoles (roles : List String) (type : Option String)
  deriving DecidableEq, Repr

/-- Why a command line asks for nothing that can be done. -/
inductive Halt
  /-- The version is asked for. -/
  | version
  /-- Help for a command is asked for. -/
  | help (command : Command)
  /-- A group of commands is called with no arguments at all. -/
  | noArguments (command : Command)
  | usage (command : Command) (fault : UsageFault)
  /-- A path is named at which nothing can be looked for. -/
  | unusablePath (fault : PathFault)
  deriving DecidableEq, Repr

namespace Request

/-- A request for the version or for help, whichever comes first. -/
def announced (c : Command) (a : Arguments) : Except Halt Unit :=
  match (a.switches.map Prod.fst).find? fun s => s == .version || s == .help with
  | some .version => .error .version
  | some _ => .error (.help c)
  | none => .ok ()

/-- Read arguments, unless they ask for the version or for help. -/
def arguments (c : Command) (args : List String) : Except Halt Arguments :=
  match Arguments.read c args with
  | .error fault => .error (.usage c fault)
  | .ok a => (announced c a).map fun _ => a

def styleOf (a : Arguments) : Except UsageFault ReportStyle :=
  match a.value? .format with
  | none => .ok .table
  | some word =>
    match ReportStyle.all.find? fun style => style.word == word with
    | some style => .ok style
    | none => .error (.notAChoice Switch.format.name word (ReportStyle.all.map ReportStyle.word))

/-- The one argument that a command takes. -/
def operand (name : String) (a : Arguments) : Except UsageFault String :=
  match a.operands with
  | [] => .error (.missingOperand name)
  | operand :: _ => .ok operand

/-- No arguments but the first `count` may be given. -/
def noMore (count : Nat) (a : Arguments) : Except UsageFault Unit :=
  match a.operands.drop count with
  | [] => .ok ()
  | extra => .error (.extraOperands extra)

/-- What stands at a path. -/
def nodeAt (disk : Disk) (path : String) : Except Halt Node :=
  match Path.fault? path with
  | some fault => .error (.unusablePath fault)
  | none => .ok (disk path)

/-- The path of a file that exists. -/
def filePath (disk : Disk) (c : Command) (path : String) : Except Halt String := do
  match ← nodeAt disk path with
  | .missing | .tooLong => throw (.usage c (.noFile "'RECORD'" "File" path))
  | .folder => throw (.usage c (.isFolder "'RECORD'" path))
  | .file _ => return path

/-- The path of a configuration, if one is given. Whether it is a file is seen when it is read. -/
def configPath (disk : Disk) (c : Command) (a : Arguments) : Except Halt (Option String) := do
  match a.value? .config with
  | none => return none
  | some path =>
    match ← nodeAt disk path with
    | .missing | .tooLong => throw (.usage c (.noFile "'--config' / '-c'" "Path" path))
    | _ => return some path

/-- A fault in the arguments of a command. -/
def inUsage {α : Type} (c : Command) : Except UsageFault α → Except Halt α
  | .ok a => .ok a
  | .error fault => .error (.usage c fault)

/-- What is asked of a command by its arguments; a group by itself asks for nothing. -/
def ofArguments (disk : Disk) (c : Command) (a : Arguments) : Except Halt Request := do
  match c with
  | .check =>
    let style ← inUsage c (styleOf a)
    let path ← inUsage c (operand "RECORD" a)
    let path ← filePath disk c path
    inUsage c (noMore 1 a)
    return .check path style
  | .dateParse =>
    let value ← inUsage c (operand "VALUE" a)
    inUsage c (noMore 1 a)
    return .parseDate value
  | .dateBuild =>
    let date ← inUsage c (operand "DATE" a)
    inUsage c (noMore 1 a)
    return .buildDate date (a.value? .time) (a.value? .timezone)
  | .dateSerialize =>
    inUsage c (noMore 0 a)
    return .serializeDates (a.value? .start) (a.value? .stop) ((a.value? .type).getD "")
  | .roles =>
    let _ ← inUsage c (operand "ROLES..." a)
    return .showRoles a.operands (a.value? .type)
  | .program | .date => throw (.usage c .missingCommand)

/-- The command of a group that arguments name, and the arguments that are left for it. A name that looks
like an option is read as one first. -/
def member (disk : Disk) (group : Command) (a : Arguments) : Except Halt (Command × List String) :=
  match a.operands with
  | [] => .error (.usage group .missingCommand)
  | name :: rest =>
    match group.members.lookup name with
    | some c => .ok (c, rest)
    | none =>
      let unknown := Halt.usage group
        (.noSuchCommand name (Text.similarTo name (group.members.map Prod.fst)))
      if name.startsWith "-" then do
        let again ← arguments group (name :: rest)
        let _ ← configPath disk group again
        throw unknown
      else .error unknown

/-- What the arguments of a single command ask for. -/
def ofCommand (disk : Disk) (c : Command) (args : List String) : Except Halt Request := do
  let a ← arguments c args
  ofArguments disk c a

/-- What the arguments of a command of the program ask for. -/
def ofMember (disk : Disk) (c : Command) (args : List String) : Except Halt Request := do
  if !c.isGroup then ofCommand disk c args
  else if args.isEmpty then throw (.noArguments c)
  else
    let a ← arguments c args
    let (c, args) ← member disk c a
    ofCommand disk c args

end Request

end DatasetForm
