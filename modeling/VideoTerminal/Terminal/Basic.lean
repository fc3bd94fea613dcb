import VideoTerminal.Grid.LogicalLine
import VideoTerminal.Grid.Resize
import VideoTerminal.Terminal.BlinkMarks
import VideoTerminal.Terminal.Damage

/-!
The state of a terminal: its screens, the cursor, the pen that new characters
are written with, the modes, and what a renderer has still to be told.
-/

namespace VideoTerminal

/-- The modes that applications switch. -/
structure Modes where
  applicationCursor : Bool := false
  cursorVisible : Bool := true
  cursorBlink : Bool := true
  bracketedPaste : Bool := false
  autoWrap : Bool := true
  insert : Bool := false
  newLine : Bool := false
deriving DecidableEq

/-- What is saved to be restored together. -/
structure Snapshot where
  cursor : Position
  pen : Rendition
  margins : Margins
deriving DecidableEq

/-- The size of a cell in pixels. -/
structure CellSize where
  width : Nat := 9
  height : Nat := 17
deriving DecidableEq

/-- The state of a terminal. The cursor is in the column after the last one
when that has been written: the next character goes to the next row. -/
structure Terminal where
  columns : Nat
  lines : Nat
  buffer : ScreenBuffer
  cursor : Position := {}
  pen : Rendition := {}
  modes : Modes := {}
  margins : Margins
  title : String := ""
  palette : Palette := {}
  blinkIsBold : Bool := true
  cursorAlwaysBlinks : Bool := true
  cellSize : CellSize := {}
  snapshot : Option Snapshot := none
  savedPosition : Position := {}
  savedMainPosition : Position := {}
  titleChanged : Bool := false
  wasReset : Bool := false
  damage : DamageLog
  mainBlink : BlinkMarks := {}
  alternateBlink : BlinkMarks := {}
  drawnCursor : Option Position := none
  evicted : Nat := 0
deriving DecidableEq

namespace Terminal

/-- A blank terminal. -/
def blank (lines columns historyLimit : Nat) : Terminal :=
  { columns, lines
    buffer := ScreenBuffer.blank lines columns historyLimit
    margins := { bottom := lines - 1 }
    damage := DamageLog.fresh lines }

def onAlternate (terminal : Terminal) : Bool :=
  terminal.buffer.onAlternate

/-- The cell of a position of the screen. -/
def cell (terminal : Terminal) (x y : Nat) : Cell :=
  (terminal.buffer.screenRow y).cells[x]?.getD {}

/-- The text of a row of the screen, without the blanks at its end. -/
def rowText (terminal : Terminal) (y : Nat) : String :=
  (terminal.buffer.screenRow y).text

/-- What erasing leaves behind. -/
def fill (terminal : Terminal) : Cell :=
  Cell.erased terminal.pen

/-- The column of the cursor, the one after the last counting as the last. -/
def cursorColumn (terminal : Terminal) : Nat :=
  min terminal.cursor.x (terminal.columns - 1)

/-- Change a row of the screen. -/
def modifyRow (terminal : Terminal) (y : Nat) (change : Row → Row) : Terminal :=
  { terminal with buffer := terminal.buffer.modifyScreen y change }

/-- Note that the columns from `start` up to `stop` of a row have changed. -/
def markDamage (terminal : Terminal) (y start stop : Nat) : Terminal :=
  { terminal with damage := terminal.damage.mark y start stop }

/-- Note that the whole screen has changed. -/
def markAll (terminal : Terminal) : Terminal :=
  { terminal with damage := terminal.damage.markAll }

/-- Note that the cell of a cursor has changed. -/
def markCursor (terminal : Terminal) (cursor : Position) : Terminal :=
  let x := min cursor.x (terminal.columns - 1)
  terminal.markDamage cursor.y x (x + 1)

/-- The blink marks of the screen that is shown. -/
def blink (terminal : Terminal) : BlinkMarks :=
  if terminal.onAlternate then terminal.alternateBlink else terminal.mainBlink

/-- Change the blink marks of the screen that is shown. -/
def modifyBlink (terminal : Terminal) (change : BlinkMarks → BlinkMarks) : Terminal :=
  if terminal.onAlternate then
    { terminal with alternateBlink := change terminal.alternateBlink }
  else
    { terminal with mainBlink := change terminal.mainBlink }

/-- Give the terminal a title. -/
def setTitle (terminal : Terminal) (title : String) : Terminal :=
  if terminal.title = title then terminal
  else { terminal with title, titleChanged := true }

/-! ## What a renderer or a session takes -/

/-- The title, when it has changed since it was last taken. -/
def takeTitle (terminal : Terminal) : Terminal × Option String :=
  ({ terminal with titleChanged := false },
    if terminal.titleChanged then some terminal.title else none)

/-- Whether the terminal was reset since this was last asked. -/
def takeReset (terminal : Terminal) : Terminal × Bool :=
  ({ terminal with wasReset := false }, terminal.wasReset)

/-- The number of rows of the history lost since it was last taken. -/
def takeEvicted (terminal : Terminal) : Terminal × Nat :=
  ({ terminal with evicted := 0 }, terminal.evicted)

/-- Note where the cursor was drawn and where it is, when it has moved. -/
def noteCursor (terminal : Terminal) : Terminal :=
  if terminal.drawnCursor = some terminal.cursor then terminal
  else
    let erased := (terminal.drawnCursor.map terminal.markCursor).getD terminal
    { erased.markCursor terminal.cursor with drawnCursor := some terminal.cursor }

/-- What has to be drawn again since it was last taken. -/
def takeDamage (terminal : Terminal) : Terminal × Damage :=
  let noted := terminal.noteCursor
  let (log, damage) := noted.damage.take
  ({ noted with damage := log }, damage)

/-- Note that every blinking cell and the cursor have changed. -/
def markBlink (terminal : Terminal) : Terminal :=
  (terminal.blink.positions.foldl
    (fun current mark => current.markDamage mark.y mark.x (mark.x + 1)) terminal).markCursor
    terminal.cursor

end Terminal

end VideoTerminal
