import VideoTerminal.Terminal.Scroll

/-!
Motion of the cursor, and the characters that end a line.
-/

namespace VideoTerminal.Terminal

/-- The distance of the tab stops. -/
def tabWidth : Nat := 8

/-- Move the cursor to a position, or to the nearest one of the screen. -/
def moveTo (terminal : Terminal) (x y : Nat) : Terminal :=
  { terminal with cursor := Position.clamp ⟨x, y⟩ terminal.columns terminal.lines }

def moveToColumn (terminal : Terminal) (x : Nat) : Terminal :=
  terminal.moveTo x terminal.cursor.y

def moveToRow (terminal : Terminal) (y : Nat) : Terminal :=
  terminal.moveTo terminal.cursorColumn y

/-- Move the cursor up, not past the top margin when it starts below that. -/
def moveUp (terminal : Terminal) (count : Nat) : Terminal :=
  let top := terminal.margins.top
  let limit := if terminal.cursor.y ≥ top then top else 0
  { terminal with cursor := ⟨terminal.cursorColumn, max (terminal.cursor.y - count) limit⟩ }

/-- Move the cursor down, not past the bottom margin when it starts above
that. -/
def moveDown (terminal : Terminal) (count : Nat) : Terminal :=
  let bottom := terminal.margins.bottom
  let limit := if terminal.cursor.y ≤ bottom then bottom else terminal.lines - 1
  { terminal with cursor := ⟨terminal.cursorColumn, min (terminal.cursor.y + count) limit⟩ }

def moveRight (terminal : Terminal) (count : Nat) : Terminal :=
  { terminal with
    cursor :=
      { terminal.cursor with x := min (terminal.cursorColumn + count) (terminal.columns - 1) } }

def moveLeft (terminal : Terminal) (count : Nat) : Terminal :=
  { terminal with cursor := { terminal.cursor with x := terminal.cursorColumn - count } }

/-- Move the cursor back a column; from the first one, to the end of the row
above. -/
def backspace (terminal : Terminal) : Terminal :=
  if terminal.cursor.x = 0 then
    if terminal.cursor.y = 0 then terminal
    else { terminal with cursor := ⟨terminal.columns - 1, terminal.cursor.y - 1⟩ }
  else
    { terminal with
      cursor := { terminal.cursor with x := min terminal.cursor.x terminal.columns - 1 } }

/-- Move the cursor to the next tab stop, or else to the last column. -/
def horizontalTab (terminal : Terminal) : Terminal :=
  let stop := (terminal.cursorColumn / tabWidth + 1) * tabWidth
  { terminal with cursor := { terminal.cursor with x := min stop (terminal.columns - 1) } }

/-- The logical line ends before the cursor. -/
def completeLine (terminal : Terminal) : Terminal :=
  { terminal with
    buffer := terminal.buffer.completeLine terminal.cursor.x terminal.cursor.y }

/-- Go down a row and begin a logical line there, if anything moves. -/
def beginNextLine (terminal : Terminal) : Terminal :=
  let (moved, changed) := terminal.index
  if changed then { moved with buffer := moved.buffer.beginLine moved.cursor.y } else moved

/-- Complete the logical line and return to the first column. -/
def carriageReturn (terminal : Terminal) : Terminal :=
  let completed := terminal.completeLine
  { completed with cursor := { completed.cursor with x := 0 } }

/-- Complete the logical line and begin one on the next row, in the first
column if the mode says so. -/
def lineFeed (terminal : Terminal) : Terminal :=
  let completed := terminal.completeLine
  let x := if completed.modes.newLine then 0 else completed.cursorColumn
  beginNextLine { completed with cursor := { completed.cursor with x } }

/-- Complete the logical line and begin one in the first column of the next
row. -/
def nextLine (terminal : Terminal) : Terminal :=
  terminal.carriageReturn.beginNextLine

/-- Set the margins, given as row numbers from 1, and go to the first position
of the screen. Margins that leave less than two rows are ignored. -/
def setMargins (terminal : Terminal) (top bottom : Nat) : Terminal :=
  let top := max top 1 - 1
  let bottom := max (min bottom terminal.lines) 1 - 1
  if top < bottom then moveTo { terminal with margins := ⟨top, bottom⟩ } 0 0 else terminal

/-! ## Saved positions -/

def savePosition (terminal : Terminal) : Terminal :=
  { terminal with savedPosition := terminal.cursor }

def restorePosition (terminal : Terminal) : Terminal :=
  terminal.moveTo terminal.savedPosition.x terminal.savedPosition.y

/-- Save the cursor, the pen and the margins together. -/
def saveState (terminal : Terminal) : Terminal :=
  { terminal with
    snapshot := some ⟨terminal.cursor, terminal.pen, terminal.margins⟩ }

/-- Restore what was saved, as far as it fits the screen. When nothing was
saved, go to the first position with a default pen. -/
def restoreState (terminal : Terminal) : Terminal :=
  match terminal.snapshot with
  | none => moveTo { terminal with pen := {} } 0 0
  | some saved =>
      let fits := saved.margins.bottom < terminal.lines ∧ saved.margins.top < saved.margins.bottom
      { terminal with
        pen := saved.pen
        margins := if fits then saved.margins else terminal.margins
        cursor :=
          ⟨min saved.cursor.x terminal.columns, min saved.cursor.y (terminal.lines - 1)⟩ }

end VideoTerminal.Terminal
