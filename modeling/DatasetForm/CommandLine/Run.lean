import DatasetForm.CommandLine.Response

/-!
The program: from the files, the environment, the day and the arguments to what it answers.
-/

set_option autoImplicit false
set_option relaxedAutoImplicit false

namespace DatasetForm

namespace Response

/-- Is it told what is done? -/
def showsLog (a : Arguments) : Bool :=
  (a.has .verbose || a.has .debug) && !a.has .quiet

/-- The lines that tell which configurations are loaded. -/
def configLog (disk : Disk) (env : Environment) (path? : Option String) : List String :=
  (Config.opened disk (Config.paths env path?)).map fun path =>
    s!"Loading configuration from {path}"

/-- The answer when no settings can be loaded; faults that no one reports are crashes. Those who want every detail
are told the fault alone. -/
def ofConfigFault (a : Arguments) (fault : ConfigFault) : Response :=
  if !fault.isReported then crashed (.config fault)
  else failed (if a.has .debug then s!"Error: {fault.message}" else s!"Error loading config file: {fault.message}")

/-- The answer of a command of the program, once the options of the program itself are read. -/
def ofMember (disk : Disk) (env : Environment) (today : Date) (a : Arguments) (path? : Option String) (c : Command)
    (args : List String) : Response :=
  match Config.loadLimits disk env path? with
  | .error fault => ofConfigFault a fault
  | .ok limits =>
    match Request.ofMember disk c args with
    | .error halt => ofHalt halt
    | .ok request => ofRequest disk limits today request

/-- The answer to a command line. -/
def ofArguments (disk : Disk) (env : Environment) (today : Date) (args : List String) : Response :=
  if args.isEmpty then ofHalt (.noArguments .program)
  else match Request.arguments .program args with
    | .error halt => ofHalt halt
    | .ok a =>
      match Request.configPath disk .program a with
      | .error halt => ofHalt halt
      | .ok path? =>
        match Request.member disk .program a with
        | .error halt => ofHalt halt
        | .ok (c, rest) =>
          let response := ofMember disk env today a path? c rest
          { response with log := if showsLog a then configLog disk env path? ++ response.log else [] }

end Response

end DatasetForm
