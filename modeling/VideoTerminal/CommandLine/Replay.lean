import VideoTerminal.CommandLine.Options
import VideoTerminal.Session.Act
import VideoTerminal.Settings.Text

/-!
The program: it replays what a remote side has written, and prints the screen
that results together with its history.
-/

namespace VideoTerminal.CommandLine

/-- What a path leads to. -/
inductive Resource where
  | file (bytes : List UInt8)
  | folder
deriving DecidableEq

/-- What a run of the program finds around it. -/
structure Surroundings where
  home : Option String
  lookUp : String → Option Resource
  input : List UInt8

/-- What a run of the program leaves behind. -/
structure Outcome where
  code : Nat := 0
  output : String := ""
  complaint : String := ""
deriving DecidableEq

/-- Why a replay fails. -/
inductive Failure where
  | usage (error : UsageError)
  | settingsFile (path : String)
  | settings (error : Settings.Error)
  | input (path : String)
  | transport (error : Transport.Error)
  | nothingToExport (error : Export.Error)
  | noClipboard
  | stopped (figure : Figure)
deriving DecidableEq

def Failure.message : Failure → String
  | usage error => error.message
  | settingsFile path => "Failed to load " ++ path
  | settings error => error.message
  | input path => "Failed to open " ++ path
  | transport error => error.message
  | nothingToExport error => error.message
  | noClipboard => "Clipboard unavailable"
  | stopped figure => figure.message

/-- What a failed run leaves behind. A figure that does not fit is not an error
that the program reports; it stops there. -/
def Failure.outcome (failure : Failure) : Outcome :=
  match failure with
  | stopped figure => { code := 101, complaint := figure.message }
  | _ => { code := 1, complaint := "Error: " ++ failure.message }

def programName : String :=
  "cellterm"

def programVersion : String :=
  programName ++ " 0.1.0"

def helpText : String :=
  "\n".intercalate [
    programVersion ++ " - terminal stream replay",
    "",
    "Usage: " ++ programName ++ " [OPTIONS] [FILE]",
    "",
    "Reads FILE, or stdin when absent, and prints the final screen",
    "together with its scrollback.",
    "",
    "Options:",
    "  -l, --lines <N>       Screen height",
    "  -c, --columns <N>     Screen width",
    "      --config <PATH>   Configuration file (default ~/.cellterm/config.toml)",
    "  -f, --format <FMT>    text, crlf, raw, ansi or html (default text)",
    "      --copy            Copy to the clipboard instead of printing",
    "  -v, --version         Show version",
    "  -h, --help            Show this help",
    "",
    "Logging is controlled with RUST_LOG (default: info)."]

/-! ## Settings -/

/-- The settings file in a home directory. -/
def homeSettings (home : String) : String :=
  let tail := ".cellterm/config.toml"
  if home.isEmpty ∨ home.toList.getLast? = some '/' then home ++ tail else home ++ "/" ++ tail

/-- Read a settings file. -/
def readSettings (surroundings : Surroundings) (path : String) :
    Except Settings.Error Settings :=
  match surroundings.lookUp path with
  | some (.file bytes) =>
      match Text.decodeUtf8? bytes with
      | some text => Settings.read (String.ofList text)
      | none => .error (.unreadable path)
  | some .folder | none => .error (.unreadable path)

/-- The settings in the home directory, and the default ones if there are
none. -/
def standardSettings (surroundings : Surroundings) : Except Settings.Error Settings :=
  match surroundings.home.map homeSettings with
  | some path =>
      if (surroundings.lookUp path).isSome then readSettings surroundings path else .ok {}
  | none => .ok {}

/-- The settings for a replay: those of a file, with the size from the
arguments. -/
def loadSettings (options : Options) (surroundings : Surroundings) :
    Except Failure Settings := do
  let settings ←
    match options.settings with
    | some path => (readSettings surroundings path).mapError fun _ => .settingsFile path
    | none => (standardSettings surroundings).mapError .settings
  let sized :=
    { settings with
      lines := options.lines.getD settings.lines
      columns := options.columns.getD settings.columns }
  sized.validate.mapError .settings

/-! ## Replay -/

/-- What reading the input gives. A directory can be opened, but not read. -/
def openInput (options : Options) (surroundings : Surroundings) :
    Except Failure (List Transport.Read) :=
  match options.input with
  | none => .ok [.bytes surroundings.input]
  | some path =>
      match surroundings.lookUp path with
      | some (.file bytes) => .ok [.bytes bytes]
      | some .folder => .ok [.broken]
      | none => .error (.input path)

/-- The text that is printed after a replay: every cell, in the format asked
for. -/
def replay (options : Options) (surroundings : Surroundings) : Except Failure String := do
  let settings ← loadSettings options surroundings
  let session ← (Session.ofSettings settings).mapError .settings
  let reads ← openInput options surroundings
  let (session, attached) := session.attachStream reads
  attached.mapError .transport
  let session ← (session.actInWords .processOutput).mapError .stopped
  let session ← (session.actInWords (.call .selectAll)).mapError .stopped
  let text ← (session.exportSelection options.format).mapError .nothingToExport
  if options.copy then throw .noClipboard
  return if options.format = .html then text ++ "\n" else text

/-- Do what is asked for. -/
def fulfil (request : Request) (surroundings : Surroundings) : Except Failure Outcome :=
  match request with
  | .help => .ok { complaint := helpText }
  | .version => .ok { complaint := programVersion }
  | .replay options => do return { output := ← replay options surroundings }

/-- Run the program. -/
def run (arguments : List String) (surroundings : Surroundings) : Outcome :=
  let outcome : Except Failure Outcome := do
    fulfil (← (request arguments).mapError .usage) surroundings
  match outcome with
  | .ok outcome => outcome
  | .error failure => failure.outcome

/-- The files that a run may look at. -/
def paths (arguments : List String) (home : Option String) : List String :=
  match request arguments with
  | .ok (.replay options) =>
      (options.settings.orElse fun _ => home.map homeSettings).toList ++ options.input.toList
  | _ => []

/-- A run reads the standard input. -/
def readsInput (arguments : List String) : Bool :=
  match request arguments with
  | .ok (.replay options) => options.input.isNone
  | _ => false

end VideoTerminal.CommandLine
