import DatasetForm.CommandLine.Run
import Std.Time.Zoned

/-!
The program on a real system: it looks at the clock, the environment and the files that its arguments may
name, and writes what it answers.
-/

set_option autoImplicit false
set_option relaxedAutoImplicit false

namespace DatasetForm

/-- The day on the clock. -/
def readToday : IO Date := do
  let now ← Std.Time.PlainDate.now
  let day? := Date.ofNumbers? now.year.toInt.toNat now.month.val.toNat now.day.val.toNat
  return day?.getD ⟨1970, 1, 1, by decide⟩

/-- The variables of the environment that matter. -/
def readEnvironment : IO Environment := do
  let names := ["XDG_CONFIG_HOME", "HOME"] ++ SettingName.all.map SettingName.environmentName
  let found ← names.mapM fun name => return (← IO.getEnv name).map fun value => (name, value)
  return found.filterMap id

/-- What stands at a path. -/
def readNode (path : String) : IO Node := do
  let place := (← IO.currentDir) / path
  if path == "" then return .missing
  if !(← place.pathExists) then
    let long := Path.byteCount path.toList > Path.pathLimit ||
      (Path.names path).any fun name => Path.byteCount name > Path.nameLimit
    return if long then .tooLong else .missing
  if ← place.isDir then return .folder
  try
    let bytes ← IO.FS.readBinFile path
    return .file (bytes.toList.map UInt8.toNat)
  catch _ => return .missing

/-- The paths that an argument may name: it may stand after a letter or after an equals sign. -/
def pathsIn (arg : String) : List String :=
  let named := (Text.cutAt '=' arg.toList).2.map String.ofList
  [arg, String.ofList (arg.toList.drop 2)] ++ named.toList

/-- The files that a command line can lead to. -/
def readDisk (env : Environment) (args : List String) : IO Disk := do
  let paths := Config.defaultPaths env ++ args.flatMap pathsIn
  let nodes ← (paths ++ paths.map Path.normal).mapM fun path => return (path, ← readNode path)
  return fun path => (nodes.lookup path).getD .missing

end DatasetForm

open DatasetForm in
/-- Answer a command line. -/
def main (args : List String) : IO UInt32 := do
  let env ← readEnvironment
  let response := Response.ofArguments (← readDisk env args) env (← readToday) args
  IO.print response.outputText
  IO.eprint response.errorText
  match response.crash with
  | some crash => IO.eprintln crash.message
  | none => pure ()
  return UInt32.ofNat response.status
