import VideoTerminal.Settings.Basic
import VideoTerminal.Toml.Document

/-!
The text of settings: a TOML document with a key for each of them. Keys that
are missing leave the default, and keys that are not known are passed over.
-/

namespace VideoTerminal.Settings

open Toml

/-! ## Reading -/

/-- A number that is not negative. -/
def number? : Node → Option Nat
  | .integer (.ofNat value) => some value
  | _ => none

def truth? : Node → Option Bool
  | .boolean value => some value
  | _ => none

def string? : Node → Option String
  | .string characters => some (String.ofList characters)
  | _ => none

/-- A colour as text. -/
def colour? (node : Node) : Option Rgb :=
  (string? node).bind Rgb.parse?

/-- The name of a preset, or a list of colours. -/
def paletteChoice? : Node → Option PaletteChoice
  | .string characters => some (.preset (String.ofList characters))
  | .array items => (items.mapM colour?).map .colours
  | _ => none

/-- The value of a key, or a default where the key is missing. -/
def field {alpha : Type} (entries : Entries) (key : String) (missing : alpha)
    (ofNode? : Node → Option alpha) : Except Error alpha :=
  match entries.find? key.toList with
  | none => .ok missing
  | some node =>
      match ofNode? node with
      | some value => .ok value
      | none => .error .malformed

/-- The settings that a table holds. -/
def ofEntries (entries : Entries) : Except Error Settings := do
  let standard : Settings := {}
  return {
    lines := ← field entries "lines" standard.lines number?
    columns := ← field entries "columns" standard.columns number?
    historyLimit := ← field entries "history_size" standard.historyLimit number?
    palette := ← field entries "palette" standard.palette paletteChoice?
    foreground := ← field entries "foreground" none fun node => (colour? node).map some
    background := ← field entries "background" none fun node => (colour? node).map some
    blinkIsBold := ← field entries "blink_is_bold" standard.blinkIsBold truth?
    sequenceTimeout :=
      ← field entries "sequence_timeout_ms" standard.sequenceTimeout number?
    blinkPeriod := ← field entries "blink_period_ms" standard.blinkPeriod number?
    cursorAlwaysBlinks :=
      ← field entries "force_blink_cursor" standard.cursorAlwaysBlinks truth?
    cellWidth := ← field entries "cell_width" standard.cellWidth number?
    cellHeight := ← field entries "cell_height" standard.cellHeight number?
    title := ← field entries "title" standard.title string? }

/-- Read settings that a terminal can have. -/
def read (text : String) : Except Error Settings :=
  match document? text.toList with
  | none => .error .malformed
  | some entries => do (← ofEntries entries).validate

/-! ## Writing -/

/-- The largest number that a document can hold: that of a machine word with
a sign. -/
def numberLimit : Nat :=
  Text.wordSize / 2 - 1

def writeNumber (value : Nat) : Except Error (List Char) :=
  if value ≤ numberLimit then .ok (toString value).toList else .error .unwritable

def writeTruth (value : Bool) : List Char :=
  (if value then "true" else "false").toList

def writeColour (colour : Rgb) : List Char :=
  writeString colour.hexText.toList

/-- A list of at most one item stands on one line, a longer one has a line for
each item. -/
def writeList (items : List (List Char)) : List Char :=
  match items with
  | [] => ['[', ']']
  | [item] => ['['] ++ item ++ [']']
  | _ => "[\n".toList ++ items.flatMap (fun item => "    ".toList ++ item ++ ",\n".toList) ++ [']']

def writePalette : PaletteChoice → List Char
  | .preset name => writeString name.toList
  | .colours colours => writeList (colours.map writeColour)

/-- The line of a key. -/
def writeField (key : String) (value : List Char) : List Char :=
  key.toList ++ " = ".toList ++ value ++ ['\n']

/-- Write settings. A default colour that is not given has no line. -/
def write (settings : Settings) : Except Error String := do
  let number (key : String) (value : Nat) : Except Error (List Char) := do
    return writeField key (← writeNumber value)
  let truth (key : String) (value : Bool) : List Char := writeField key (writeTruth value)
  let colour (key : String) (value : Option Rgb) : List Char :=
    (value.map fun value => writeField key (writeColour value)).getD []
  let parts := [
    ← number "lines" settings.lines,
    ← number "columns" settings.columns,
    ← number "history_size" settings.historyLimit,
    writeField "palette" (writePalette settings.palette),
    colour "foreground" settings.foreground,
    colour "background" settings.background,
    truth "blink_is_bold" settings.blinkIsBold,
    ← number "sequence_timeout_ms" settings.sequenceTimeout,
    ← number "blink_period_ms" settings.blinkPeriod,
    truth "force_blink_cursor" settings.cursorAlwaysBlinks,
    ← number "cell_width" settings.cellWidth,
    ← number "cell_height" settings.cellHeight,
    writeField "title" (writeString settings.title.toList)]
  return String.ofList parts.flatten

end VideoTerminal.Settings
