import VideoTerminal.Export.Format
import VideoTerminal.Text.Character
import VideoTerminal.Text.Numeral

/-!
The arguments of the command line.
-/

namespace VideoTerminal.CommandLine

/-- What the arguments ask of a replay. Without an input file the standard
input is read. -/
structure Options where
  lines : Option Nat := none
  columns : Option Nat := none
  settings : Option String := none
  format : Export.Format := .text
  copy : Bool := false
  input : Option String := none
deriving DecidableEq

/-- What the program is asked to do. -/
inductive Request where
  | help
  | version
  | replay (options : Options)
deriving DecidableEq

/-- What is wrong with the arguments. -/
inductive UsageError where
  | missingValue (option : String)
  | invalidValue (option text : String)
  | unknownFormat (name : String)
  | unknownArgument (argument : String)
  | secondInput
deriving DecidableEq

def UsageError.message : UsageError → String
  | missingValue option => "Missing value for " ++ option
  | invalidValue option text => "Invalid value for " ++ option ++ ": " ++ text
  | unknownFormat name => "Unknown format: " ++ name
  | unknownArgument argument => "Unknown argument: " ++ argument ++ ". Use -h for help."
  | secondInput => "Only one input file is accepted"

/-- The options that take a value. -/
inductive ValueOption where
  | lines
  | columns
  | settings
  | format
deriving DecidableEq

/-- The long spelling of an option. -/
def ValueOption.name : ValueOption → String
  | lines => "--lines"
  | columns => "--columns"
  | settings => "--config"
  | format => "--format"

/-- An argument, by its spelling. -/
inductive Argument where
  | help
  | version
  | copy
  | value (option : ValueOption)
  | unknown
  | path
deriving DecidableEq

/-- What an argument is. A lone hyphen is the path of the standard input. -/
def Argument.ofText (text : String) : Argument :=
  match text with
  | "-h" | "--help" => help
  | "-v" | "--version" => version
  | "--copy" => copy
  | "-l" | "--lines" => value .lines
  | "-c" | "--columns" => value .columns
  | "--config" => value .settings
  | "-f" | "--format" => value .format
  | _ => if text.toList.head? = some '-' ∧ text ≠ "-" then unknown else path

namespace Options

/-- The number given as the value of an option. -/
def number (option : ValueOption) (text : String) : Except UsageError Nat :=
  match Text.word? text.toList with
  | some value => .ok value
  | none => .error (.invalidValue option.name text)

/-- The options with the value of one of them set. -/
def setValue (options : Options) (option : ValueOption) (text : String) :
    Except UsageError Options :=
  match option with
  | .lines => do return { options with lines := some (← number option text) }
  | .columns => do return { options with columns := some (← number option text) }
  | .settings => .ok { options with settings := some text }
  | .format =>
      match Export.Format.named? text with
      | some format => .ok { options with format }
      | none => .error (.unknownFormat text)

/-- The options with an input file, which may be the standard input. -/
def setInput (options : Options) (path : String) : Except UsageError Options :=
  if options.input.isSome then .error .secondInput
  else if path = "-" then .ok options
  else .ok { options with input := some path }

end Options

/-- Read arguments from left to right, up to one that asks for help or the
version. An option may be `awaiting` its value. -/
def readArguments (options : Options) (awaiting : Option ValueOption) :
    List String → Except UsageError Request
  | [] =>
      match awaiting with
      | some option => .error (.missingValue option.name)
      | none => .ok (.replay options)
  | text :: rest =>
      match awaiting with
      | some option => do readArguments (← options.setValue option text) none rest
      | none =>
          match Argument.ofText text with
          | .help => .ok .help
          | .version => .ok .version
          | .copy => readArguments { options with copy := true } none rest
          | .value option => readArguments options (some option) rest
          | .path => do readArguments (← options.setInput text) none rest
          | .unknown => .error (.unknownArgument text)

/-- What the arguments ask for. -/
def request (arguments : List String) : Except UsageError Request :=
  readArguments {} none arguments

end VideoTerminal.CommandLine
