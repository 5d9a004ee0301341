import DatasetForm.CommandLine.Command
import DatasetForm.Text.Quoted
import DatasetForm.Text.Runs
import DatasetForm.Text.Similar

/-!
Reading the arguments of a command: options with their values, and what else is given. Options may stand
anywhere, except that those of a group end where the name of its command stands; after two hyphens by
themselves nothing is an option.
-/

set_option autoImplicit false
set_option relaxedAutoImplicit false

namespace DatasetForm

/-- What is wrong with the arguments of a command. -/
inductive UsageFault
  | noSuchOption (name : String) (similar : List String)
  | noSuchCommand (name : String) (similar : List String)
  | needsValue (name : String)
  | takesNoValue (name : String)
  | missingOperand (name : String)
  | missingCommand
  | extraOperands (operands : List String)
  /-- The value of an option is none of those that it may have. -/
  | notAChoice (option value : String) (choices : List String)
  /-- There is nothing at the path that an option or operand names; `kind` says what there should be. -/
  | noFile (parameter kind path : String)
  /-- There is a folder where a file should be. -/
  | isFolder (parameter path : String)
  /-- A range was to be written, and neither of its ends is given. -/
  | noDate
  deriving DecidableEq, Repr

namespace UsageFault

/-- Texts with blanks between them. -/
def spaced (texts : List String) : String :=
  " ".intercalate texts

/-- Texts in quotes, with commas between them. -/
def listed (texts : List String) : String :=
  ", ".intercalate (texts.map Text.quoted)

/-- What is said about names similar to one that does not exist. -/
def hint : List String → String
  | [] => ""
  | [name] => s!" Did you mean {Text.quoted name}?"
  | names => s!" (Did you mean one of: {listed (names.mergeSort fun a b => a ≤ b)}?)"

/-- The text of a fault. -/
def message : UsageFault → String
  | .noSuchOption name similar => s!"No such option {Text.quoted name}.{hint similar}"
  | .noSuchCommand name similar => s!"No such command {Text.quoted name}.{hint similar}"
  | .needsValue name => s!"Option {Text.quoted name} requires an argument."
  | .takesNoValue name => s!"Option {Text.quoted name} does not take a value."
  | .missingOperand name => s!"Missing argument '{name}'."
  | .missingCommand => "Missing command."
  | .extraOperands [operand] => s!"Got unexpected extra argument ({operand})"
  | .extraOperands operands => s!"Got unexpected extra arguments ({spaced operands})"
  | .notAChoice option value choices =>
    s!"Invalid value for '{option}': {Text.quoted value} is not one of {listed choices}."
  | .noFile parameter kind path =>
    s!"Invalid value for {parameter}: {kind} {Text.quoted path} does not exist."
  | .isFolder parameter path =>
    s!"Invalid value for {parameter}: File {Text.quoted path} is a directory."
  | .noDate => "Provide --start, --end or both"

/-- Is the fault told by itself, without how the command is called? -/
def isTerse : UsageFault → Bool
  | .needsValue _ | .takesNoValue _ => true
  | _ => false

end UsageFault

/-- The arguments of a command: the options in the order in which they were given, with their values, and
the other arguments. -/
structure Arguments where
  switches : List (Switch × String) := []
  operands : List String := []

namespace Arguments

/-- The value of an option; the last one that was given counts. -/
def value? (a : Arguments) (s : Switch) : Option String :=
  a.switches.reverse.lookup s

/-- Was an option given? -/
def has (a : Arguments) (s : Switch) : Bool :=
  (a.value? s).isSome

/-- The options in one argument. All but the last have no value; the value of the last one may stand in the
same argument or be the next one. -/
structure Bundle where
  flags : List Switch := []
  /-- The last option, how it was written, and its value. -/
  last : Option (Switch × String × Option String) := none

/-- Read an option that is written in full. -/
def readName (c : Command) (arg : List Char) : Except UsageFault Bundle :=
  let (written, value?) := Text.cutAt '=' arg
  let name := String.ofList written
  match c.switches.find? fun s => s.name == name with
  | none => .error (.noSuchOption name (Text.similarTo name (c.switches.map Switch.name)))
  | some s =>
    if s.takesValue then .ok { last := some (s, name, value?.map String.ofList) }
    else if value?.isSome then .error (.takesNoValue name)
    else .ok { flags := [s] }

/-- Read letters that stand for options; `done` has been read, last first. -/
def readLetters (c : Command) (done : List Switch) : List Char → Except UsageFault Bundle
  | [] => .ok { flags := done.reverse }
  | letter :: rest =>
    let written := String.ofList ['-', letter]
    match c.switches.find? fun s => s.letter? == some letter with
    | none => .error (.noSuchOption written [])
    | some s =>
      if s.takesValue then
        let value? := if rest.isEmpty then none else some (String.ofList rest)
        .ok { flags := done.reverse, last := some (s, written, value?) }
      else readLetters c (s :: done) rest

/-- Read the options in an argument, if it holds any. A hyphen by itself is none. -/
def readBundle? (c : Command) (arg : String) : Option (Except UsageFault Bundle) :=
  match arg.toList with
  | '-' :: '-' :: rest => some (readName c ('-' :: '-' :: rest))
  | '-' :: letter :: rest => some (readLetters c [] (letter :: rest))
  | _ => none

/-- Put options before others. -/
def addSwitches (switches : List (Switch × String)) (a : Arguments) : Arguments :=
  { a with switches := switches ++ a.switches }

def read (c : Command) : List String → Except UsageFault Arguments
  | [] => .ok {}
  | arg :: rest =>
    if arg == "--" then .ok { operands := rest }
    else match readBundle? c arg with
      | none =>
        if c.isGroup then .ok { operands := arg :: rest }
        else (read c rest).map fun a => { a with operands := arg :: a.operands }
      | some (.error fault) => .error fault
      | some (.ok bundle) =>
        let flags := bundle.flags.map fun s => (s, "")
        match bundle.last with
        | none => (read c rest).map (addSwitches flags)
        | some (s, _, some v) => (read c rest).map (addSwitches (flags ++ [(s, v)]))
        | some (s, written, none) =>
          match rest with
          | [] => .error (.needsValue written)
          | v :: rest => (read c rest).map (addSwitches (flags ++ [(s, v)]))

end Arguments

end DatasetForm
