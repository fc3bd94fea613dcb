import VideoTerminal.Terminal.Scroll

/-!
Printing: characters written at the cursor.
-/

namespace VideoTerminal.Terminal

/-- Leave the column after the last: to the beginning of the next row, which
then continues the logical line, or back to the last column. -/
def wrap (terminal : Terminal) : Terminal :=
  if terminal.cursor.x < terminal.columns then terminal
  else if terminal.modes.autoWrap then
    let y := terminal.cursor.y
    let (moved, _) := index { terminal with cursor := { terminal.cursor with x := 0 } }
    if moved.cursor.y ≠ y ∨ moved.margins.bottom = y then
      { moved with buffer := moved.buffer.continueLine moved.cursor.y }
    else moved
  else
    { terminal with cursor := { terminal.cursor with x := terminal.columns - 1 } }

/-- Put a cell at the cursor, over the one there or before it as the mode
says, and mark it if it blinks. -/
def putCell (terminal : Terminal) (cell : Cell) : Terminal :=
  let ⟨x, y⟩ := terminal.cursor
  let columns := terminal.columns
  let written :=
    if terminal.modes.insert then
      let inserted := terminal.modifyRow y fun row => row.insert x cell
      (inserted.modifyBlink fun marks => marks.shiftColumns y x columns 1).markDamage y x columns
    else
      (terminal.modifyRow y fun row => row.put x cell).markDamage y x (x + 1)
  written.modifyBlink fun marks =>
    if cell.rendition.blink then marks.insert ⟨x, y⟩ else marks.erase ⟨x, y⟩

/-- Write a character with the pen and move on a column. -/
def print (terminal : Terminal) (char : Char) : Terminal :=
  let wrapped := terminal.wrap
  let written := wrapped.putCell ⟨char, wrapped.pen⟩
  { written with cursor := { written.cursor with x := written.cursor.x + 1 } }

/-- Write a run of characters. -/
def printAll (terminal : Terminal) (chars : List Char) : Terminal :=
  chars.foldl print terminal

end VideoTerminal.Terminal
