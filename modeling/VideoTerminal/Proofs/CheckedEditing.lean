import VideoTerminal.Proofs.CheckedMotion
import VideoTerminal.Terminal.Print

/-!
Erasing, editing, printing and switching with their checks, and with them all
that a control function does to a terminal.
-/

namespace VideoTerminal.Checked

variable {lines columns limit : Nat} {terminal : Terminal}

/-! ## Erasing -/

/-- Change a row of the screen. -/
def modifyRow (terminal : Terminal) (y : Nat) (change : Row → Option Row) :
    Option Terminal := do
  let buffer ← modifyScreen terminal.buffer y change
  return { terminal with buffer }

theorem modifyRow_eq
    (wellFormed : terminal.WellFormed lines columns limit)
    {y : Nat}
    (inside : y < lines)
    {checked : Row → Option Row} {change : Row → Row}
    (passes : ∀ row : Row, row.cells.length = columns → checked row = some (change row)) :
    modifyRow terminal y checked = some (terminal.modifyRow y change) := by
  rw [modifyRow, modifyScreen_eq wellFormed.shaped inside passes]
  rfl

def clearRow (terminal : Terminal) (y : Nat) : Option Terminal := do
  let cleared ← modifyRow terminal y fun row => some (row.clear terminal.fill)
  return (cleared.modifyBlink fun marks => marks.eraseRow y).markDamage y 0 cleared.columns

theorem clearRow_eq
    (wellFormed : terminal.WellFormed lines columns limit)
    {y : Nat}
    (inside : y < lines) :
    clearRow terminal y = some (terminal.clearRow y) := by
  rw [clearRow, modifyRow_eq wellFormed inside fun _ _ => rfl]
  rfl

/-- Erase `count` rows from row `top` on. -/
def clearRows (terminal : Terminal) (top count : Nat) : Option Terminal :=
  (List.range count).foldlM (fun current k => clearRow current (top + k)) terminal

theorem clearRows_eq
    (wellFormed : terminal.WellFormed lines columns limit)
    {top count : Nat}
    (inside : top + count ≤ lines) :
    clearRows terminal top count = some (terminal.clearRows top count) := by
  apply foldlM_eq (Terminal.WellFormed lines columns limit) wellFormed
  · exact fun _ _ current => current.clearRow _
  · intro current k member currentWellFormed
    rw [List.mem_range] at member
    exact clearRow_eq currentWellFormed (by omega)

/-- Erase the columns from `start` up to `stop` of a row. -/
def eraseSpan (terminal : Terminal) (y start stop : Nat) : Option Terminal := do
  let erased ← modifyRow terminal y fun row =>
    if start = 0 ∧ stop = row.cells.length then some (row.clear terminal.fill)
    else fillSpan row start stop terminal.fill
  return (erased.modifyBlink fun marks => marks.eraseSpan y start stop).markDamage y start stop

theorem eraseSpan_eq
    (wellFormed : terminal.WellFormed lines columns limit)
    {y start stop : Nat}
    (inside : y < lines)
    (ordered : start ≤ stop)
    (stopInside : stop ≤ columns) :
    eraseSpan terminal y start stop = some (terminal.eraseSpan y start stop) := by
  have passes :
      ∀ row : Row, row.cells.length = columns →
        (if start = 0 ∧ stop = row.cells.length then some (row.clear terminal.fill)
          else fillSpan row start stop terminal.fill) =
        some
          (if start = 0 ∧ stop = row.cells.length then row.clear terminal.fill
            else row.fillSpan start stop terminal.fill) := by
    intro row width
    split
    · rfl
    · exact fillSpan_eq ordered (by omega) _
  rw [eraseSpan, modifyRow_eq wellFormed inside passes]
  rfl

def eraseInLine (terminal : Terminal) (part : Nat) : Option Terminal := do
  let y := terminal.cursor.y
  let x ← cursorColumn terminal
  match part with
  | 0 => eraseSpan terminal y x terminal.columns
  | 1 => eraseSpan terminal y 0 (x + 1)
  | 2 => eraseSpan terminal y 0 terminal.columns
  | _ => return terminal

theorem eraseInLine_eq
    (wellFormed : terminal.WellFormed lines columns limit) (part : Nat) :
    eraseInLine terminal part = some (terminal.eraseInLine part) := by
  have row := wellFormed.cursor_row
  have column := wellFormed.cursorColumn_lt
  obtain rfl := wellFormed.columns_eq
  rw [eraseInLine, cursorColumn_eq wellFormed]
  match part with
  | 0 => exact eraseSpan_eq wellFormed row (Nat.le_of_lt column) (Nat.le_refl _)
  | 1 => exact eraseSpan_eq wellFormed row (Nat.zero_le _) column
  | 2 => exact eraseSpan_eq wellFormed row (Nat.zero_le _) (Nat.le_refl _)
  | _ + 3 => rfl

/-- Forget the history, which only the main screen has. -/
def forgetHistory (terminal : Terminal) : Option Terminal :=
  if terminal.onAlternate then some terminal
  else do
    let buffer ← clearHistory terminal.buffer
    return { terminal with buffer }

theorem forgetHistory_eq (wellFormed : terminal.WellFormed lines columns limit) :
    forgetHistory terminal = some terminal.clearHistory := by
  simp only [forgetHistory, Terminal.clearHistory, clearHistory_eq wellFormed.shaped]
  split <;> rfl

def eraseInDisplay (terminal : Terminal) (part : Nat) : Option Terminal :=
  let y := terminal.cursor.y
  match part with
  | 0 => do
      let erased ← eraseInLine terminal 0
      clearRows erased (y + 1) (erased.lines - (y + 1))
  | 1 => do
      let cleared ← clearRows terminal 0 y
      eraseInLine cleared 1
  | 2 => clearRows terminal 0 terminal.lines
  | 3 => do
      let cleared ← clearRows terminal 0 terminal.lines
      forgetHistory cleared
  | _ => some terminal

theorem eraseInDisplay_eq
    (wellFormed : terminal.WellFormed lines columns limit) (part : Nat) :
    eraseInDisplay terminal part = some (terminal.eraseInDisplay part) := by
  have row := wellFormed.cursor_row
  have linesEq := wellFormed.lines_eq
  match part with
  | 0 =>
      have erased := wellFormed.eraseInLine 0
      have sameLines : (terminal.eraseInLine 0).lines = terminal.lines := by
        rw [erased.lines_eq, linesEq]
      rw [eraseInDisplay, eraseInLine_eq wellFormed]
      simp only [Option.bind_eq_bind, Option.bind_some, sameLines]
      exact clearRows_eq erased (by omega)
  | 1 =>
      rw [eraseInDisplay, clearRows_eq wellFormed (by omega)]
      exact eraseInLine_eq (wellFormed.clearRows _ _) 1
  | 2 => exact clearRows_eq wellFormed (by omega)
  | 3 =>
      rw [eraseInDisplay, clearRows_eq wellFormed (by omega)]
      exact forgetHistory_eq (wellFormed.clearRows _ _)
  | _ + 4 => rfl

/-! ## Editing -/

def insertChars (terminal : Terminal) (count : Nat) : Option Terminal := do
  let y := terminal.cursor.y
  let x ← cursorColumn terminal
  let columns := terminal.columns
  let right ← difference columns x
  let count := min count right
  let moved ← modifyRow terminal y fun row => openGap row x count terminal.fill
  let marked := moved.modifyBlink fun marks =>
    (marks.shiftColumns y x columns count).eraseSpan y x (x + count)
  return marked.markDamage y x columns

theorem insertChars_eq
    (wellFormed : terminal.WellFormed lines columns limit) (count : Nat) :
    insertChars terminal count = some (terminal.insertChars count) := by
  have column := wellFormed.cursorColumn_lt
  obtain rfl := wellFormed.columns_eq
  rw [insertChars, cursorColumn_eq wellFormed]
  simp only [Option.bind_eq_bind, Option.bind_some, difference_eq (Nat.le_of_lt column)]
  rw [modifyRow_eq wellFormed wellFormed.cursor_row fun row width =>
    openGap_eq (by omega) terminal.fill]
  rfl

def deleteChars (terminal : Terminal) (count : Nat) : Option Terminal := do
  let y := terminal.cursor.y
  let x ← cursorColumn terminal
  let columns := terminal.columns
  let right ← difference columns x
  let count := min count right
  let moved ← modifyRow terminal y fun row => closeGap row columns x count terminal.fill
  let marked := moved.modifyBlink fun marks =>
    (marks.eraseSpan y x (x + count)).shiftColumns y (x + count) columns (-(count : Int))
  return marked.markDamage y x columns

theorem deleteChars_eq
    (wellFormed : terminal.WellFormed lines columns limit) (count : Nat) :
    deleteChars terminal count = some (terminal.deleteChars count) := by
  have column := wellFormed.cursorColumn_lt
  obtain rfl := wellFormed.columns_eq
  rw [deleteChars, cursorColumn_eq wellFormed]
  simp only [Option.bind_eq_bind, Option.bind_some, difference_eq (Nat.le_of_lt column)]
  rw [modifyRow_eq wellFormed wellFormed.cursor_row fun row width =>
    closeGap_eq width (by omega) terminal.fill]
  rfl

def eraseChars (terminal : Terminal) (count : Nat) : Option Terminal := do
  let x ← cursorColumn terminal
  eraseSpan terminal terminal.cursor.y x (min (x + count) terminal.columns)

theorem eraseChars_eq
    (wellFormed : terminal.WellFormed lines columns limit) (count : Nat) :
    eraseChars terminal count = some (terminal.eraseChars count) := by
  have column := wellFormed.cursorColumn_lt
  obtain rfl := wellFormed.columns_eq
  rw [eraseChars, cursorColumn_eq wellFormed]
  exact eraseSpan_eq wellFormed wellFormed.cursor_row (by omega) (Nat.min_le_right _ _)

/-! ## Printing -/

/-- Leave the column after the last. -/
def wrap (terminal : Terminal) : Option Terminal :=
  if terminal.cursor.x < terminal.columns then some terminal
  else if terminal.modes.autoWrap then do
    let y := terminal.cursor.y
    let (moved, _) ← index { terminal with cursor := { terminal.cursor with x := 0 } }
    if moved.cursor.y ≠ y ∨ moved.margins.bottom = y then do
      let buffer ← continueLine moved.buffer moved.cursor.y
      return { moved with buffer }
    else return moved
  else do
    let x ← lastColumn terminal
    return { terminal with cursor := { terminal.cursor with x } }

theorem wrap_eq (wellFormed : terminal.WellFormed lines columns limit) :
    wrap terminal = some terminal.wrap := by
  have returned := wellFormed.withCursor (Nat.zero_le columns) wellFormed.cursor_row
  have moved := returned.index
  unfold wrap Terminal.wrap
  split
  · rfl
  · split
    · rw [index_eq returned]
      simp only [Option.bind_eq_bind, Option.bind_some,
        continueLine_eq moved.shaped moved.cursor_row]
      split <;> rfl
    · rw [lastColumn_eq wellFormed]
      rfl

/-- Put a cell at the cursor, over the one there or before it. -/
def putCell (terminal : Terminal) (cell : Cell) : Option Terminal := do
  let ⟨x, y⟩ := terminal.cursor
  let columns := terminal.columns
  let written ← (
    if terminal.modes.insert then do
      let inserted ← modifyRow terminal y fun row => insert row x cell
      return (inserted.modifyBlink fun marks => marks.shiftColumns y x columns 1).markDamage
        y x columns
    else do
      let replaced ← modifyRow terminal y fun row => put row x cell
      return replaced.markDamage y x (x + 1))
  return written.modifyBlink fun marks =>
    if cell.rendition.blink then marks.insert ⟨x, y⟩ else marks.erase ⟨x, y⟩

theorem putCell_eq
    (wellFormed : terminal.WellFormed lines columns limit)
    (column : terminal.cursor.x < columns)
    (cell : Cell) :
    putCell terminal cell = some (terminal.putCell cell) := by
  have inside :
      ∀ row : Row, row.cells.length = columns → terminal.cursor.x < row.cells.length :=
    fun _ width => width ▸ column
  unfold putCell Terminal.putCell
  dsimp only
  rw [modifyRow_eq wellFormed wellFormed.cursor_row fun row width =>
      insert_eq (Nat.le_of_lt (inside row width)) cell,
    modifyRow_eq wellFormed wellFormed.cursor_row fun row width =>
      put_eq (inside row width) cell]
  split <;> rfl

def print (terminal : Terminal) (char : Char) : Option Terminal := do
  let wrapped ← wrap terminal
  let written ← putCell wrapped ⟨char, wrapped.pen⟩
  return { written with cursor := { written.cursor with x := written.cursor.x + 1 } }

theorem print_eq
    (wellFormed : terminal.WellFormed lines columns limit) (char : Char) :
    print terminal char = some (terminal.print char) := by
  obtain ⟨wrapped, column⟩ := wellFormed.wrap
  rw [print, wrap_eq wellFormed]
  simp only [Option.bind_eq_bind, Option.bind_some, putCell_eq wrapped column]
  rfl

def printAll (terminal : Terminal) (chars : List Char) : Option Terminal :=
  chars.foldlM print terminal

theorem printAll_eq
    (wellFormed : terminal.WellFormed lines columns limit) (chars : List Char) :
    printAll terminal chars = some (terminal.printAll chars) :=
  foldlM_eq (Terminal.WellFormed lines columns limit) wellFormed
    (fun _ _ current => current.print _) fun _ _ _ current => print_eq current _

/-! ## Switches -/

/-- Switch a private mode by its number. -/
def setPrivateMode (terminal : Terminal) (mode : Nat) (on : Bool) : Option Terminal :=
  let restore (current : Terminal) :=
    moveTo current current.savedMainPosition.x current.savedMainPosition.y
  match mode with
  | 1048 => if on then some terminal.saveMainPosition else restore terminal
  | 1049 =>
      if on then some (terminal.saveMainPosition.showScreen true true)
      else restore (terminal.showScreen false false)
  | _ => some (terminal.setPrivateMode mode on)

theorem setPrivateMode_eq
    (wellFormed : terminal.WellFormed lines columns limit) (mode : Nat) (on : Bool) :
    setPrivateMode terminal mode on = some (terminal.setPrivateMode mode on) := by
  unfold setPrivateMode
  dsimp only
  split
  · rw [moveTo_eq wellFormed]
    cases on <;> rfl
  · rw [moveTo_eq (wellFormed.showScreen false false)]
    cases on <;> rfl
  · rfl

def alignmentTest (terminal : Terminal) : Option Terminal := do
  let buffer ← clearScreenRows terminal.buffer 0 terminal.lines ⟨'E', {}⟩
  let unmarked := { terminal with buffer }.modifyBlink fun _ => {}
  let last ← lastRow terminal
  let opened ← moveTo { unmarked with margins := { bottom := last } } 0 0
  return opened.markAll

theorem alignmentTest_eq (wellFormed : terminal.WellFormed lines columns limit) :
    alignmentTest terminal = some terminal.alignmentTest := by
  have wholeScreen : 0 + terminal.lines ≤ lines := by
    rw [wellFormed.lines_eq, Nat.zero_add]
  rw [alignmentTest, clearScreenRows_eq wellFormed.shaped wholeScreen]
  simp only [Option.bind_eq_bind, Option.bind_some, lastRow_eq wellFormed]
  rw [moveTo_eq wellFormed.alignmentFilled]
  rfl

/-- Begin anew; the margins reach down to the last row. -/
def reset (terminal : Terminal) : Option Terminal := do
  let _ ← lastRow terminal
  return terminal.reset

theorem reset_eq (wellFormed : terminal.WellFormed lines columns limit) :
    reset terminal = some terminal.reset := by
  simp [reset, lastRow_eq wellFormed]

/-- Give the terminal another size, unless that is refused. -/
def resizeTo (terminal : Terminal) (lines columns : Nat) : Option Terminal :=
  match terminal.resize? lines columns with
  | none => some terminal
  | some resized => do
      let cursor := terminal.cursor
      let (buffer, moved) ← resize terminal.buffer lines columns
        (if terminal.onAlternate then none else some (cursor.x, cursor.y))
      let lastX ← difference columns 1
      let lastY ← difference lines 1
      some
        { resized with
          buffer
          cursor :=
            match moved with
            | some (x, y) => ⟨x, y⟩
            | none => ⟨min cursor.x columns, min cursor.y lastY⟩
          margins := { bottom := lastY }
          savedPosition :=
            ⟨min terminal.savedPosition.x lastX, min terminal.savedPosition.y lastY⟩
          savedMainPosition :=
            ⟨min terminal.savedMainPosition.x lastX, min terminal.savedMainPosition.y lastY⟩ }

theorem resizeTo_eq
    (wellFormed : terminal.WellFormed lines columns limit) (newLines newColumns : Nat) :
    resizeTo terminal newLines newColumns =
      some ((terminal.resize? newLines newColumns).getD terminal) := by
  unfold resizeTo Terminal.resize?
  by_cases refused :
      newLines = 0 ∨ newColumns = 0 ∨
        (newLines = terminal.lines ∧ newColumns = terminal.columns)
  · simp [refused]
  · have linesPositive : 0 < newLines := by omega
    have columnsPositive : 0 < newColumns := by omega
    have cursorInside :
        ∀ x y,
          (if terminal.onAlternate then none else some (terminal.cursor.x, terminal.cursor.y)) =
            some (x, y) →
          x ≤ columns ∧ y < lines := by
      intro x y found
      split at found
      · cases found
      · cases found
        exact ⟨wellFormed.cursor_column, wellFormed.cursor_row⟩
    have resized := resize_eq wellFormed.shaped linesPositive columnsPositive cursorInside
    have lastX : 1 ≤ newColumns := columnsPositive
    have lastY : 1 ≤ newLines := linesPositive
    simp only [refused, if_false, resized, difference_eq lastX, difference_eq lastY,
      Option.bind_eq_bind, Option.bind_some, Option.getD_some]
    rfl

/-! ## Control functions -/

/-- What a control function does to the terminal. -/
def perform (terminal : Terminal) : ControlFunction → Option Terminal
  | .backspace => backspace terminal
  | .horizontalTab => horizontalTab terminal
  | .lineFeed => lineFeed terminal
  | .carriageReturn => carriageReturn terminal
  | .index => (index terminal).map Prod.fst
  | .nextLine => nextLine terminal
  | .reverseIndex => reverseIndex terminal
  | .moveUp count => moveUp terminal count
  | .moveDown count => moveDown terminal count
  | .moveRight count => moveRight terminal count
  | .moveLeft count => moveLeft terminal count
  | .moveUpLines count => do
      let moved ← moveUp terminal count
      moveTo moved 0 moved.cursor.y
  | .moveDownLines count => do
      let moved ← moveDown terminal count
      moveTo moved 0 moved.cursor.y
  | .moveTo x y => moveTo terminal x y
  | .moveToColumn x => moveTo terminal x terminal.cursor.y
  | .moveToRow y => moveToRow terminal y
  | .moveRowsDown count => moveToRow terminal (terminal.cursor.y + count)
  | .eraseInDisplay part => eraseInDisplay terminal part
  | .eraseInLine part => eraseInLine terminal part
  | .insertLines count => shiftLines terminal (-(terminal.clampLines count : Int))
  | .deleteLines count => shiftLines terminal (terminal.clampLines count)
  | .insertChars count => insertChars terminal count
  | .deleteChars count => deleteChars terminal count
  | .eraseChars count => eraseChars terminal count
  | .scrollUp count =>
      scroll terminal terminal.margins.top terminal.margins.bottom (terminal.clampLines count)
  | .scrollDown count =>
      scroll terminal terminal.margins.top terminal.margins.bottom
        (-(terminal.clampLines count : Int))
  | .setMargins top bottom => setMargins terminal top (bottom.getD terminal.lines)
  | .restorePosition => moveTo terminal terminal.savedPosition.x terminal.savedPosition.y
  | .restoreState => restoreState terminal
  | .setPrivateModes modes on =>
      modes.foldlM (fun current mode => setPrivateMode current mode on) terminal
  | .reset => reset terminal
  | .alignmentTest => alignmentTest terminal
  | function => some (terminal.perform function)

theorem perform_eq
    (wellFormed : terminal.WellFormed lines columns limit) (function : ControlFunction) :
    perform terminal function = some (terminal.perform function) := by
  cases function with
  | backspace => exact backspace_eq wellFormed
  | horizontalTab => exact horizontalTab_eq wellFormed
  | lineFeed => exact lineFeed_eq wellFormed
  | carriageReturn => exact carriageReturn_eq wellFormed
  | index => simp [perform, index_eq wellFormed, Terminal.perform]
  | nextLine => exact nextLine_eq wellFormed
  | reverseIndex => exact reverseIndex_eq wellFormed
  | moveUp count => exact moveUp_eq wellFormed count
  | moveDown count => exact moveDown_eq wellFormed count
  | moveRight count => exact moveRight_eq wellFormed count
  | moveLeft count => exact moveLeft_eq wellFormed count
  | moveUpLines count =>
      rw [perform, moveUp_eq wellFormed]
      exact moveTo_eq (wellFormed.moveUp count) _ _
  | moveDownLines count =>
      rw [perform, moveDown_eq wellFormed]
      exact moveTo_eq (wellFormed.moveDown count) _ _
  | moveTo x y => exact moveTo_eq wellFormed x y
  | moveToColumn x => exact moveTo_eq wellFormed x _
  | moveToRow y => exact moveToRow_eq wellFormed y
  | moveRowsDown count => exact moveToRow_eq wellFormed _
  | eraseInDisplay part => exact eraseInDisplay_eq wellFormed part
  | eraseInLine part => exact eraseInLine_eq wellFormed part
  | insertLines count => exact shiftLines_eq wellFormed _
  | deleteLines count => exact shiftLines_eq wellFormed _
  | insertChars count => exact insertChars_eq wellFormed count
  | deleteChars count => exact deleteChars_eq wellFormed count
  | eraseChars count => exact eraseChars_eq wellFormed count
  | scrollUp count => exact scroll_eq wellFormed _ _ _
  | scrollDown count => exact scroll_eq wellFormed _ _ _
  | setMargins top bottom => exact setMargins_eq wellFormed _ _
  | restorePosition => exact moveTo_eq wellFormed _ _
  | restoreState => exact restoreState_eq wellFormed
  | setPrivateModes modes on =>
      exact foldlM_eq (Terminal.WellFormed lines columns limit) wellFormed
        (fun _ _ current => current.setPrivateMode _ _)
        fun _ _ _ current => setPrivateMode_eq current _ _
  | reset => exact reset_eq wellFormed
  | alignmentTest => exact alignmentTest_eq wellFormed
  | nothing | selectRendition | savePosition | saveState | setModes | setTitle | reportDevice
  | reportSecondary | reportStatus | reportWindow | reportPalette | reportDynamic => rfl

end VideoTerminal.Checked
