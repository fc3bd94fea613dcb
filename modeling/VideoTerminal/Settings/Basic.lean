import VideoTerminal.Colour.Palette

/-!
The settings of a terminal, what can be wrong with them, and the palette that
they choose.
-/

namespace VideoTerminal

/-- The base colours: a preset by its name, or a list. -/
inductive PaletteChoice where
  | preset (name : String)
  | colours (colours : List Rgb)
deriving DecidableEq

/-- The settings of a terminal. Times are in milliseconds, and a time of zero
turns the timer off. -/
structure Settings where
  lines : Nat := 25
  columns : Nat := 80
  historyLimit : Nat := 1000
  palette : PaletteChoice := .preset "xwterm"
  foreground : Option Rgb := none
  background : Option Rgb := none
  blinkIsBold : Bool := true
  sequenceTimeout : Nat := 0
  blinkPeriod : Nat := 500
  cursorAlwaysBlinks : Bool := true
  cellWidth : Nat := 9
  cellHeight : Nat := 17
  title : String := "ANSI Terminal"
deriving DecidableEq

namespace Settings

/-- What can be wrong with settings, or with the text of them. -/
inductive Error where
  | unreadable (path : String)
  | malformed
  | unwritable
  | invalidSize (lines columns : Nat)
  | unknownPalette (name : String)
  | paletteLength (length : Nat)
deriving DecidableEq

def Error.message : Error → String
  | unreadable path => "Failed to read " ++ path
  | malformed => "Invalid configuration"
  | unwritable => "Failed to serialize configuration"
  | invalidSize lines columns => s!"Invalid size {columns}x{lines}"
  | unknownPalette name => "Unknown palette '" ++ name ++ "'"
  | paletteLength length => s!"Palette needs 16 colours, got {length}"

end Settings

/-- The palette with the chosen base colours. -/
def PaletteChoice.palette? : PaletteChoice → Except Settings.Error Palette
  | preset name =>
      match Palette.preset? name with
      | some palette => .ok palette
      | none => .error (.unknownPalette name)
  | colours list =>
      if size : list.toArray.size = 16 then .ok { base := ⟨list.toArray, size⟩ }
      else .error (.paletteLength list.length)

namespace Settings

/-- The chosen palette with the chosen default colours. -/
def fullPalette (settings : Settings) : Except Error Palette := do
  let palette ← settings.palette.palette?
  return palette.withDefaults settings.foreground settings.background

/-- The settings, if a terminal can have them: its size is not zero, and its
palette exists. The size is looked at first. -/
def validate (settings : Settings) : Except Error Settings :=
  if settings.lines = 0 ∨ settings.columns = 0 then
    .error (.invalidSize settings.lines settings.columns)
  else do
    let _ ← settings.palette.palette?
    return settings

end Settings

end VideoTerminal
