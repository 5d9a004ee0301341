import DatasetForm.Json.Reader
import DatasetForm.Settings.Conversion
import DatasetForm.Disk
import DatasetForm.Settings.Merge
import DatasetForm.Text.Utf8Message

/-!
Loading settings: from the configuration files, the later over the earlier, and from environment variables
over all of them. A file holds the settings in a section of their own or, when it has no such section, by
themselves.
-/

set_option autoImplicit false
set_option relaxedAutoImplicit false

namespace DatasetForm

/-- Why no settings can be loaded. -/
inductive ConfigFault
  /-- There is no file at the path that was asked for. -/
  | notFound (path : String)
  /-- There is a folder in the place of a file. -/
  | isFolder (path : String)
  /-- A path at which files are looked for is too long. -/
  | tooLong (path : String)
  /-- A file is not written as one of its kind is. -/
  | malformed (path : String) (fault : JsonFault) (text : List Char)
  /-- A file holds something other than a mapping. -/
  | notMapping (path : String)
  /-- The section of the settings is not a mapping. -/
  | sectionNotMapping
  /-- A setting has the wrong kind or range. -/
  | invalid (failure : Failure)
  /-- The bytes of a file are no text. -/
  | encoding (fault : Utf8Fault)
  /-- The configuration itself is not a mapping. -/
  | noSections (failure : Failure)
  /-- A file goes past what is read. -/
  | limit (failure : Failure)

namespace ConfigFault

/-- Is the fault reported as one of the configuration? The others go past everyone who looks for those: paths that
are too long, bytes that are no text, and text that goes past what is read. -/
def isReported : ConfigFault → Bool
  | .tooLong _ | .encoding _ | .noSections _ | .limit _ => false
  | _ => true

/-- The text of a fault. -/
def message : ConfigFault → String
  | .notFound path => s!"{path}: Config file not found"
  | .isFolder path =>
    s!"{path}: Error reading config file: [Errno 21] Is a directory: {Text.quoted path}"
  | .tooLong path => s!"[Errno 36] File name too long: {Text.quoted path}"
  | .malformed path fault text => s!"{path}: Invalid YAML in config file: {fault.message text}"
  | .notMapping path => s!"{path}: Config file must contain a mapping"
  | .sectionNotMapping => "'validation' section must be a mapping"
  | .invalid failure => s!"Invalid validation settings: {failure.message}"
  | .encoding fault => fault.message
  | .noSections failure => failure.message
  | .limit failure => failure.message

end ConfigFault

/-- The variables of the environment. -/
abbrev Environment := List (String × String)

namespace Config

/-- The key of the section that holds the settings. -/
def sectionKey : Value :=
  .text "validation"

/-- The settings in environment variables, as a configuration. -/
def ofEnvironment (env : Environment) : Entries :=
  let fields := SettingName.all.filterMap fun name =>
    (env.lookup name.environmentName).map fun s => (Value.text name.key, Value.text s)
  if fields.isEmpty then [] else [(sectionKey, .mapping fields)]

/-- A text that is not read: it is none of its kind, or goes past what is read. -/
def faultOf (path : String) (fault : JsonFault) (text : List Char) : ConfigFault :=
  match fault.problem.limit? with
  | some failure => .limit failure
  | none => .malformed path fault text

/-- The configuration in the bytes of a file. A file that holds nothing is an empty one. -/
def ofBytes (path : String) (bytes : List Nat) : Except ConfigFault Entries :=
  match Text.decodeUtf8 bytes with
  | .error fault => .error (.encoding fault.atEnd)
  | .ok cs =>
    match Json.readScalars (Text.unifyLines cs) with
    | .error fault => .error (faultOf path fault (Text.unifyLines cs))
    | .ok v =>
      if !v.isTruthy then .ok []
      else match v with
        | .mapping entries => .ok entries
        | _ => .error (.notMapping path)

/-- A configuration with its settings in a section of their own. -/
def sectioned (config : Entries) : Entries :=
  match config.get? sectionKey with
  | some _ => config
  | none => [(sectionKey, .mapping config)]

/-- The folder in which a user keeps configurations. -/
def folderOf (env : Environment) : String :=
  (env.lookup "XDG_CONFIG_HOME").getD (Path.child ((env.lookup "HOME").getD "") ".config")

/-- The paths of configuration files, the lowest first. -/
def defaultPaths (env : Environment) : List String :=
  [Path.child (Path.child (folderOf env) "dcform") "config.yaml", ".dcform.yaml", "dcform.yaml"]

/-- The configuration in a file, if there is one. -/
def ofFile? (disk : Disk) (path : String) : Except ConfigFault (Option Entries) :=
  match disk path with
  | .missing => .ok none
  | .tooLong => .error (.tooLong path)
  | .folder => .error (.isFolder path)
  | .file bytes => (ofBytes path bytes).map fun config => some (sectioned config)

/-- The configurations in the files that exist. -/
def ofFiles (disk : Disk) : List String → Except ConfigFault (List Entries)
  | [] => .ok []
  | path :: paths => do
    let config ← ofFile? disk path
    let others ← ofFiles disk paths
    return config.toList ++ others

/-- The paths at which something was found until a configuration could not be read. -/
def opened (disk : Disk) : List String → List String
  | [] => []
  | path :: paths =>
    match ofFile? disk path with
    | .error (.tooLong _) => []
    | .error _ => [path]
    | .ok none => opened disk paths
    | .ok (some _) => path :: opened disk paths

/-- The paths that are consulted. -/
def paths (env : Environment) : (path? : Option String) → List String
  | none => defaultPaths env
  | some path => [Path.normal path]

/-- The configurations in the files that are consulted: the one at an explicit path, which must exist, or
those at the default paths. -/
def consulted (disk : Disk) (env : Environment) (path? : Option String) :
    Except ConfigFault (List Entries) :=
  match path? with
  | none => ofFiles disk (defaultPaths env)
  | some path => do
    match ← ofFile? disk (Path.normal path) with
    | some config => return [config]
    | none => throw (.notFound (Path.normal path))

/-- The configuration from all sources. -/
def load (disk : Disk) (env : Environment) (path? : Option String) : Except ConfigFault Entries :=
  (consulted disk env path?).map fun configs => Entries.overlayAll (configs ++ [ofEnvironment env])

/-- The settings in a configuration: those of its section or, when it has none, its own. -/
def limitsOf (config : Value) : Except ConfigFault Limits :=
  match config with
  | .mapping entries =>
    match (Entries.get? entries sectionKey).getD config with
    | .mapping fields =>
      match Limits.ofSection fields with
      | .ok limits => .ok limits
      | .error failure => .error (.invalid failure)
    | _ => .error .sectionNotMapping
  | v => .error (.noSections (.noOperation v.qualifiedKindName "get"))

/-- The settings from all sources. -/
def loadLimits (disk : Disk) (env : Environment) (path? : Option String) :
    Except ConfigFault Limits :=
  (load disk env path?).bind fun config => limitsOf (.mapping config)

end Config

end DatasetForm
