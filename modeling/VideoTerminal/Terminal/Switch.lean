import VideoTerminal.Terminal.Motion

/-!
What applications switch on and off: the modes, and the screen that is shown.
The size of the terminal and its reset belong here too, as they leave nothing
of the screen as it was.
-/

namespace VideoTerminal.Terminal

/-- Switch a mode by its number; an unknown number has no effect. -/
def setMode (terminal : Terminal) (mode : Nat) (on : Bool) : Terminal :=
  match mode with
  | 4 => { terminal with modes := { terminal.modes with insert := on } }
  | 20 => { terminal with modes := { terminal.modes with newLine := on } }
  | _ => terminal

/-- Show one of the two screens. Nothing happens to a screen that is shown
already; otherwise the alternate screen may be cleared first. -/
def showScreen (terminal : Terminal) (alternate clear : Bool) : Terminal :=
  if alternate = terminal.onAlternate then terminal
  else
    let cleared :=
      if alternate && clear then
        { terminal with
          buffer := terminal.buffer.clearAlternate terminal.fill, alternateBlink := {} }
      else terminal
    markAll { cleared with buffer := cleared.buffer.showAlternate alternate }

/-- Save the cursor of the main screen. -/
def saveMainPosition (terminal : Terminal) : Terminal :=
  { terminal with savedMainPosition := terminal.cursor }

/-- Return to the cursor saved for the main screen. -/
def restoreMainPosition (terminal : Terminal) : Terminal :=
  terminal.moveTo terminal.savedMainPosition.x terminal.savedMainPosition.y

/-- Show or hide the cursor. -/
def setCursorVisible (terminal : Terminal) (on : Bool) : Terminal :=
  let switched := { terminal with modes := { terminal.modes with cursorVisible := on } }
  switched.markCursor switched.cursor

/-- Switch a private mode by its number; an unknown number has no effect. -/
def setPrivateMode (terminal : Terminal) (mode : Nat) (on : Bool) : Terminal :=
  match mode with
  | 1 => { terminal with modes := { terminal.modes with applicationCursor := on } }
  | 7 => { terminal with modes := { terminal.modes with autoWrap := on } }
  | 12 =>
      if terminal.cursorAlwaysBlinks then terminal
      else { terminal with modes := { terminal.modes with cursorBlink := on } }
  | 25 => terminal.setCursorVisible on
  | 47 => terminal.showScreen on false
  | 1047 => terminal.showScreen on true
  | 1048 => if on then terminal.saveMainPosition else terminal.restoreMainPosition
  | 1049 =>
      if on then terminal.saveMainPosition.showScreen true true
      else (terminal.showScreen false false).restoreMainPosition
  | 2004 => { terminal with modes := { terminal.modes with bracketedPaste := on } }
  | _ => terminal

/-- Fill the screen with the letter E, open the margins and go to the first
position. -/
def alignmentTest (terminal : Terminal) : Terminal :=
  let lines := terminal.lines
  let filled := { terminal with buffer := terminal.buffer.clearScreenRows 0 lines ⟨'E', {}⟩ }
  let unmarked := filled.modifyBlink fun _ => {}
  (moveTo { unmarked with margins := { bottom := lines - 1 } } 0 0).markAll

/-- Begin anew with blank screens and an empty history. The size, the title,
the palette and the settings stay. -/
def reset (terminal : Terminal) : Terminal :=
  { blank terminal.lines terminal.columns terminal.buffer.historyLimit with
    title := terminal.title
    palette := terminal.palette
    blinkIsBold := terminal.blinkIsBold
    cursorAlwaysBlinks := terminal.cursorAlwaysBlinks
    cellSize := terminal.cellSize
    titleChanged := terminal.titleChanged
    wasReset := true
    damage := terminal.damage.markAll }

/-- Give the terminal another size; nothing when the size is the same or has
no cells. The main screen keeps its text and cursor, the margins open, and the
saved positions are held on the screen. -/
def resize? (terminal : Terminal) (lines columns : Nat) : Option Terminal :=
  if lines = 0 ∨ columns = 0 ∨ (lines = terminal.lines ∧ columns = terminal.columns) then none
  else
    let cursor := terminal.cursor
    let mainCursor := if terminal.onAlternate then none else some (cursor.x, cursor.y)
    let (buffer, moved) := terminal.buffer.resize lines columns mainCursor
    some
      { terminal with
        columns, lines, buffer
        cursor :=
          match moved with
          | some (x, y) => ⟨x, y⟩
          | none => ⟨min cursor.x columns, min cursor.y (lines - 1)⟩
        margins := { bottom := lines - 1 }
        savedPosition := terminal.savedPosition.clamp columns lines
        savedMainPosition := terminal.savedMainPosition.clamp columns lines
        mainBlink := {}
        alternateBlink := {}
        drawnCursor := none
        damage := DamageLog.fresh lines }

end VideoTerminal.Terminal
