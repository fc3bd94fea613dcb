import VideoTerminal.Terminal.Motion

/-!
Erasing, and the editing of characters within a row.
-/

namespace VideoTerminal.Terminal

/-- Erase a row, which leaves its logical line. -/
def clearRow (terminal : Terminal) (y : Nat) : Terminal :=
  let fill := terminal.fill
  let cleared := terminal.modifyRow y (Row.clear fill)
  (cleared.modifyBlink fun marks => marks.eraseRow y).markDamage y 0 cleared.columns

/-- Erase `count` rows from row `top` on. -/
def clearRows (terminal : Terminal) (top count : Nat) : Terminal :=
  (List.range count).foldl (fun current k => current.clearRow (top + k)) terminal

/-- Erase the columns from `start` up to `stop` of a row. A row erased as a
whole leaves its logical line. -/
def eraseSpan (terminal : Terminal) (y start stop : Nat) : Terminal :=
  let fill := terminal.fill
  let erased :=
    terminal.modifyRow y fun row =>
      if start = 0 ∧ stop = row.cells.length then row.clear fill
      else row.fillSpan start stop fill
  (erased.modifyBlink fun marks => marks.eraseSpan y start stop).markDamage y start stop

/-- Erase in the row of the cursor: from the cursor on, up to it, or all. -/
def eraseInLine (terminal : Terminal) (part : Nat) : Terminal :=
  let y := terminal.cursor.y
  let x := terminal.cursorColumn
  match part with
  | 0 => terminal.eraseSpan y x terminal.columns
  | 1 => terminal.eraseSpan y 0 (x + 1)
  | 2 => terminal.eraseSpan y 0 terminal.columns
  | _ => terminal

/-- Forget the history, which only the main screen has. -/
def clearHistory (terminal : Terminal) : Terminal :=
  if terminal.onAlternate then terminal
  else { terminal with buffer := terminal.buffer.clearHistory }

/-- Erase on the screen: from the cursor on, up to it, all, or all and the
history too. -/
def eraseInDisplay (terminal : Terminal) (part : Nat) : Terminal :=
  let y := terminal.cursor.y
  match part with
  | 0 => (terminal.eraseInLine 0).clearRows (y + 1) (terminal.lines - (y + 1))
  | 1 => (terminal.clearRows 0 y).eraseInLine 1
  | 2 => terminal.clearRows 0 terminal.lines
  | 3 => (terminal.clearRows 0 terminal.lines).clearHistory
  | _ => terminal

/-- Insert blank columns at the cursor. -/
def insertChars (terminal : Terminal) (count : Nat) : Terminal :=
  let y := terminal.cursor.y
  let x := terminal.cursorColumn
  let columns := terminal.columns
  let count := min count (columns - x)
  let fill := terminal.fill
  let moved := terminal.modifyRow y fun row => row.openGap x count fill
  let marked := moved.modifyBlink fun marks =>
    (marks.shiftColumns y x columns count).eraseSpan y x (x + count)
  marked.markDamage y x columns

/-- Delete columns at the cursor, filling up at the end of the row. -/
def deleteChars (terminal : Terminal) (count : Nat) : Terminal :=
  let y := terminal.cursor.y
  let x := terminal.cursorColumn
  let columns := terminal.columns
  let count := min count (columns - x)
  let fill := terminal.fill
  let moved := terminal.modifyRow y fun row => row.closeGap x count fill
  let marked := moved.modifyBlink fun marks =>
    (marks.eraseSpan y x (x + count)).shiftColumns y (x + count) columns (-(count : Int))
  marked.markDamage y x columns

/-- Erase columns from the cursor on. -/
def eraseChars (terminal : Terminal) (count : Nat) : Terminal :=
  let x := terminal.cursorColumn
  terminal.eraseSpan terminal.cursor.y x (min (x + count) terminal.columns)

end VideoTerminal.Terminal
