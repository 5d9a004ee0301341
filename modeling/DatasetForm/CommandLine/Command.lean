/-!
The commands of the program and the options of each.
-/

set_option autoImplicit false
set_option relaxedAutoImplicit false

namespace DatasetForm

/-- The options. -/
inductive Switch
  | verbose
  | quiet
  | noColor
  | debug
  | config
  | version
  | help
  | format
  | time
  | timezone
  | start
  | stop
  | type
  deriving DecidableEq, Repr

namespace Switch

/-- How an option is written in full. -/
def name : Switch → String
  | .verbose => "--verbose"
  | .quiet => "--quiet"
  | .noColor => "--no-color"
  | .debug => "--debug"
  | .config => "--config"
  | .version => "--version"
  | .help => "--help"
  | .format => "--format"
  | .time => "--time"
  | .timezone => "--timezone"
  | .start => "--start"
  | .stop => "--end"
  | .type => "--type"

/-- The letter that stands for an option, if it has one. -/
def letter? : Switch → Option Char
  | .verbose => some 'v'
  | .quiet => some 'q'
  | .config => some 'c'
  | .timezone => some 'z'
  | _ => none

/-- Does a value follow the option? -/
def takesValue : Switch → Bool
  | .config | .format | .time | .timezone | .start | .stop | .type => true
  | _ => false

end Switch

/-- The commands: the program as a whole, groups of commands, and single ones. -/
inductive Command
  | program
  | check
  | date
  | dateParse
  | dateBuild
  | dateSerialize
  | roles
  deriving DecidableEq, Repr

namespace Command

/-- The words by which a command is called. -/
def path : Command → String
  | .program => "dcform"
  | .check => "dcform check"
  | .date => "dcform date"
  | .dateParse => "dcform date parse"
  | .dateBuild => "dcform date build"
  | .dateSerialize => "dcform date serialize"
  | .roles => "dcform roles"

/-- The options of a command. -/
def switches : Command → List Switch
  | .program => [.verbose, .quiet, .noColor, .debug, .config, .version, .help]
  | .check => [.format, .help]
  | .date => [.help]
  | .dateParse => [.help]
  | .dateBuild => [.time, .timezone, .help]
  | .dateSerialize => [.start, .stop, .type, .help]
  | .roles => [.type, .help]

/-- The commands of a group with the names by which they are called in it. -/
def members : Command → List (String × Command)
  | .program => [("check", .check), ("date", .date), ("roles", .roles)]
  | .date => [("build", .dateBuild), ("parse", .dateParse), ("serialize", .dateSerialize)]
  | _ => []

/-- Is the command a group of others? -/
def isGroup (c : Command) : Bool :=
  !c.members.isEmpty

/-- What a command takes besides options, as it is named in messages. -/
def operandName? : Command → Option String
  | .check => some "RECORD"
  | .dateParse => some "VALUE"
  | .dateBuild => some "DATE"
  | .roles => some "ROLES..."
  | _ => none

/-- How a command is called, on one line. -/
def usage (c : Command) : String :=
  let operands :=
    if c.isGroup then " COMMAND [ARGS]..." else (c.operandName?.map (" " ++ ·)).getD ""
  s!"Usage: {c.path} [OPTIONS]{operands}"

end Command

end DatasetForm
