import VideoTerminal.Proofs.CheckedReflow
import VideoTerminal.Proofs.WellFormed

/-!
Scrolling, motion and the ends of lines with their checks. A well-formed
terminal has a last column and a last row, and its cursor and margins are on
the screen, so that no check fails.
-/

namespace VideoTerminal.Checked

variable {lines columns limit : Nat} {terminal : Terminal}

/-! ## The last column and the last row -/

def lastColumn (terminal : Terminal) : Option Nat :=
  difference terminal.columns 1

def lastRow (terminal : Terminal) : Option Nat :=
  difference terminal.lines 1

theorem lastColumn_eq (wellFormed : terminal.WellFormed lines columns limit) :
    lastColumn terminal = some (terminal.columns - 1) :=
  difference_eq (wellFormed.columns_eq ▸ wellFormed.columns_pos)

theorem lastRow_eq (wellFormed : terminal.WellFormed lines columns limit) :
    lastRow terminal = some (terminal.lines - 1) :=
  difference_eq (wellFormed.lines_eq ▸ wellFormed.lines_pos)

/-- The column of the cursor, the one after the last counting as the last. -/
def cursorColumn (terminal : Terminal) : Option Nat := do
  let last ← lastColumn terminal
  return min terminal.cursor.x last

theorem cursorColumn_eq (wellFormed : terminal.WellFormed lines columns limit) :
    cursorColumn terminal = some terminal.cursorColumn := by
  simp [cursorColumn, lastColumn_eq wellFormed, Terminal.cursorColumn]

/-! ## Scrolling -/

/-- Scroll the whole main screen up by `count` rows. -/
def advanceBy (terminal : Terminal) (fill : Cell) : Nat → Option Terminal
  | 0 => some terminal
  | count + 1 => do
      let (buffer, lost) ← advance terminal.buffer fill
      advanceBy
        { terminal with
          buffer
          evicted := if lost then terminal.evicted + 1 else terminal.evicted }
        fill count

theorem advanceBy_eq
    (wellFormed : terminal.WellFormed lines columns limit) (fill : Cell) (count : Nat) :
    advanceBy terminal fill count = some (terminal.advance fill count) := by
  induction count generalizing terminal with
  | zero => rfl
  | succ count inductionHypothesis =>
      rw [advanceBy, advance_eq wellFormed.shaped fill]
      exact inductionHypothesis { wellFormed with shaped := wellFormed.shaped.advance fill }

/-- Move the rows `top` to `bottom` by `amount`, held between minus their
number and their number, which must not be in the wrong order. -/
def scroll (terminal : Terminal) (top bottom : Nat) (amount : Int) : Option Terminal :=
  if amount = 0 ∨ top > bottom ∨ bottom ≥ terminal.lines then some terminal
  else do
    let extent ← difference bottom top
    let height : Int := (extent + 1 : Nat)
    guard (-height ≤ height)
    let amount := max (-height) (min amount height)
    let last ← lastRow terminal
    let whole := !terminal.onAlternate && top == 0 && bottom == last
    let moved ← (
      if whole ∧ amount > 0 then advanceBy terminal terminal.fill amount.toNat
      else do
        let buffer ← scrollRows terminal.buffer top bottom amount terminal.fill
        return { terminal with buffer })
    let marked := moved.modifyBlink fun marks => marks.shiftRows top bottom amount
    some
      { marked with
        drawnCursor := marked.drawnCursor.map (Terminal.followScroll top bottom amount)
        damage := marked.damage.markRows top bottom marked.columns }

theorem scroll_eq
    (wellFormed : terminal.WellFormed lines columns limit)
    (top bottom : Nat) (amount : Int) :
    scroll terminal top bottom amount = some (terminal.scroll top bottom amount) := by
  unfold scroll Terminal.scroll
  split
  · rfl
  · next valid =>
      have ordered : top ≤ bottom := by omega
      have held : -((bottom - top + 1 : Nat) : Int) ≤ ((bottom - top + 1 : Nat) : Int) := by
        omega
      simp only [difference_eq ordered, held, guard_true, lastRow_eq wellFormed,
        Option.bind_eq_bind, Option.bind_some, Option.pure_def,
        scrollRows_eq wellFormed.shaped, advanceBy_eq wellFormed]
      split <;> rfl

/-- Move the cursor down a row, scrolling at the bottom margin. -/
def index (terminal : Terminal) : Option (Terminal × Bool) :=
  let margins := terminal.margins
  if terminal.cursor.y = margins.bottom then do
    let moved ← scroll terminal margins.top margins.bottom 1
    return (moved, true)
  else if terminal.cursor.y + 1 < terminal.lines then
    some ({ terminal with cursor := { terminal.cursor with y := terminal.cursor.y + 1 } }, true)
  else some (terminal, false)

theorem index_eq (wellFormed : terminal.WellFormed lines columns limit) :
    index terminal = some terminal.index := by
  simp only [index, Terminal.index, scroll_eq wellFormed]
  split
  · rfl
  · split <;> rfl

/-- Move the cursor up a row, scrolling down at the top margin. -/
def reverseIndex (terminal : Terminal) : Option Terminal :=
  let margins := terminal.margins
  if terminal.cursor.y = margins.top then scroll terminal margins.top margins.bottom (-1)
  else if terminal.cursor.y > 0 then do
    let y ← difference terminal.cursor.y 1
    return { terminal with cursor := { terminal.cursor with y } }
  else some terminal

theorem reverseIndex_eq (wellFormed : terminal.WellFormed lines columns limit) :
    reverseIndex terminal = some terminal.reverseIndex := by
  simp only [reverseIndex, Terminal.reverseIndex, scroll_eq wellFormed]
  split
  · rfl
  · split
    · next below => simp [difference_eq (show 1 ≤ terminal.cursor.y from below)]
    · next top =>
        have first : terminal.cursor.y = 0 := by omega
        rw [first, Nat.zero_sub, ← first]

/-- Scroll from the cursor down by `amount`, between the margins only. -/
def shiftLines (terminal : Terminal) (amount : Int) : Option Terminal :=
  if terminal.insideMargins then do
    let moved ← scroll terminal terminal.cursor.y terminal.margins.bottom amount
    return { moved with cursor := { moved.cursor with x := 0 } }
  else some terminal

theorem shiftLines_eq
    (wellFormed : terminal.WellFormed lines columns limit) (amount : Int) :
    shiftLines terminal amount = some (terminal.shiftLines amount) := by
  simp only [shiftLines, Terminal.shiftLines, scroll_eq wellFormed]
  split <;> rfl

/-! ## Motion -/

def moveTo (terminal : Terminal) (x y : Nat) : Option Terminal := do
  let lastX ← lastColumn terminal
  let lastY ← lastRow terminal
  return { terminal with cursor := ⟨min x lastX, min y lastY⟩ }

theorem moveTo_eq (wellFormed : terminal.WellFormed lines columns limit) (x y : Nat) :
    moveTo terminal x y = some (terminal.moveTo x y) := by
  rw [moveTo, lastColumn_eq wellFormed, lastRow_eq wellFormed]
  rfl

def moveToRow (terminal : Terminal) (y : Nat) : Option Terminal := do
  let x ← cursorColumn terminal
  moveTo terminal x y

theorem moveToRow_eq (wellFormed : terminal.WellFormed lines columns limit) (y : Nat) :
    moveToRow terminal y = some (terminal.moveToRow y) := by
  rw [moveToRow, cursorColumn_eq wellFormed]
  exact moveTo_eq wellFormed _ _

def moveUp (terminal : Terminal) (count : Nat) : Option Terminal := do
  let top := terminal.margins.top
  let limit := if terminal.cursor.y ≥ top then top else 0
  let x ← cursorColumn terminal
  return { terminal with cursor := ⟨x, max (terminal.cursor.y - count) limit⟩ }

theorem moveUp_eq (wellFormed : terminal.WellFormed lines columns limit) (count : Nat) :
    moveUp terminal count = some (terminal.moveUp count) := by
  rw [moveUp, cursorColumn_eq wellFormed]
  rfl

def moveDown (terminal : Terminal) (count : Nat) : Option Terminal := do
  let bottom := terminal.margins.bottom
  let limit ← (if terminal.cursor.y ≤ bottom then some bottom else lastRow terminal)
  let x ← cursorColumn terminal
  return { terminal with cursor := ⟨x, min (terminal.cursor.y + count) limit⟩ }

theorem moveDown_eq (wellFormed : terminal.WellFormed lines columns limit) (count : Nat) :
    moveDown terminal count = some (terminal.moveDown count) := by
  simp only [moveDown, Terminal.moveDown, lastRow_eq wellFormed, cursorColumn_eq wellFormed]
  split <;> rfl

def moveRight (terminal : Terminal) (count : Nat) : Option Terminal := do
  let x ← cursorColumn terminal
  let last ← lastColumn terminal
  return { terminal with cursor := { terminal.cursor with x := min (x + count) last } }

theorem moveRight_eq (wellFormed : terminal.WellFormed lines columns limit) (count : Nat) :
    moveRight terminal count = some (terminal.moveRight count) := by
  rw [moveRight, cursorColumn_eq wellFormed, lastColumn_eq wellFormed]
  rfl

def moveLeft (terminal : Terminal) (count : Nat) : Option Terminal := do
  let x ← cursorColumn terminal
  return { terminal with cursor := { terminal.cursor with x := x - count } }

theorem moveLeft_eq (wellFormed : terminal.WellFormed lines columns limit) (count : Nat) :
    moveLeft terminal count = some (terminal.moveLeft count) := by
  rw [moveLeft, cursorColumn_eq wellFormed]
  rfl

/-- Move the cursor back a column; from the first one, to the end of the row
above. -/
def backspace (terminal : Terminal) : Option Terminal :=
  if terminal.cursor.x = 0 then
    if terminal.cursor.y = 0 then some terminal
    else do
      let y ← difference terminal.cursor.y 1
      let x ← lastColumn terminal
      return { terminal with cursor := ⟨x, y⟩ }
  else do
    let x ← difference (min terminal.cursor.x terminal.columns) 1
    return { terminal with cursor := { terminal.cursor with x } }

theorem backspace_eq (wellFormed : terminal.WellFormed lines columns limit) :
    backspace terminal = some terminal.backspace := by
  have columnsPositive : 0 < terminal.columns := wellFormed.columns_eq ▸ wellFormed.columns_pos
  unfold backspace Terminal.backspace
  split
  · split
    · rfl
    · next below =>
        rw [difference_eq (by omega), lastColumn_eq wellFormed]
        rfl
  · next right =>
      rw [difference_eq (by omega)]
      rfl

def horizontalTab (terminal : Terminal) : Option Terminal := do
  let x ← cursorColumn terminal
  let last ← lastColumn terminal
  let stop := (x / Terminal.tabWidth + 1) * Terminal.tabWidth
  return { terminal with cursor := { terminal.cursor with x := min stop last } }

theorem horizontalTab_eq (wellFormed : terminal.WellFormed lines columns limit) :
    horizontalTab terminal = some terminal.horizontalTab := by
  rw [horizontalTab, cursorColumn_eq wellFormed, lastColumn_eq wellFormed]
  rfl

/-! ## The ends of lines -/

/-- Go down a row and begin a logical line there, if anything moves. -/
def beginNextLine (terminal : Terminal) : Option Terminal := do
  let (moved, changed) ← index terminal
  if changed then do
    let buffer ← beginLine moved.buffer moved.cursor.y
    return { moved with buffer }
  else return moved

theorem beginNextLine_eq (wellFormed : terminal.WellFormed lines columns limit) :
    beginNextLine terminal = some terminal.beginNextLine := by
  have moved := wellFormed.index
  rw [beginNextLine, index_eq wellFormed]
  simp only [Option.bind_eq_bind, Option.bind_some, beginLine_eq moved.shaped moved.cursor_row,
    Terminal.beginNextLine]
  split <;> rfl

/-- The logical line ends before the cursor. -/
def endLine (terminal : Terminal) : Option Terminal := do
  let buffer ← completeLine terminal.buffer terminal.cursor.x terminal.cursor.y
  return { terminal with buffer }

theorem endLine_eq (wellFormed : terminal.WellFormed lines columns limit) :
    endLine terminal = some terminal.completeLine := by
  rw [endLine, completeLine_eq wellFormed.shaped wellFormed.cursor_row]
  rfl

def carriageReturn (terminal : Terminal) : Option Terminal := do
  let completed ← endLine terminal
  return { completed with cursor := { completed.cursor with x := 0 } }

theorem carriageReturn_eq (wellFormed : terminal.WellFormed lines columns limit) :
    carriageReturn terminal = some terminal.carriageReturn := by
  rw [carriageReturn, endLine_eq wellFormed]
  rfl

def lineFeed (terminal : Terminal) : Option Terminal := do
  let completed ← endLine terminal
  let x ← (if completed.modes.newLine then some 0 else cursorColumn completed)
  beginNextLine { completed with cursor := { completed.cursor with x } }

theorem lineFeed_eq (wellFormed : terminal.WellFormed lines columns limit) :
    lineFeed terminal = some terminal.lineFeed := by
  have completed := wellFormed.completeLine
  rw [lineFeed, endLine_eq wellFormed]
  simp only [Option.bind_eq_bind, Option.bind_some, cursorColumn_eq completed,
    Terminal.lineFeed]
  split
  · exact beginNextLine_eq (completed.withCursor (Nat.zero_le columns) completed.cursor_row)
  · exact beginNextLine_eq
      (completed.withCursor (Nat.le_of_lt completed.cursorColumn_lt) completed.cursor_row)

def nextLine (terminal : Terminal) : Option Terminal := do
  let returned ← carriageReturn terminal
  beginNextLine returned

theorem nextLine_eq (wellFormed : terminal.WellFormed lines columns limit) :
    nextLine terminal = some terminal.nextLine := by
  rw [nextLine, carriageReturn_eq wellFormed]
  exact beginNextLine_eq wellFormed.carriageReturn

/-! ## Margins and saved states -/

/-- Set the margins, given as row numbers from 1. -/
def setMargins (terminal : Terminal) (top bottom : Nat) : Option Terminal := do
  let top ← difference (max top 1) 1
  let bottom ← difference (max (min bottom terminal.lines) 1) 1
  if top < bottom then moveTo { terminal with margins := ⟨top, bottom⟩ } 0 0
  else return terminal

theorem setMargins_eq
    (wellFormed : terminal.WellFormed lines columns limit) (top bottom : Nat) :
    setMargins terminal top bottom = some (terminal.setMargins top bottom) := by
  have linesPositive : 0 < terminal.lines := wellFormed.lines_eq ▸ wellFormed.lines_pos
  have linesEq := wellFormed.lines_eq
  simp only [setMargins, Terminal.setMargins, difference_eq (Nat.le_max_right _ 1),
    Option.bind_eq_bind, Option.bind_some]
  split
  · next ordered =>
      exact moveTo_eq
        (wellFormed.withMargins (Nat.le_of_lt ordered) (by dsimp only; omega)) 0 0
  · rfl

/-- Restore what was saved, as far as it fits the screen. -/
def restoreState (terminal : Terminal) : Option Terminal :=
  match terminal.snapshot with
  | none => moveTo { terminal with pen := {} } 0 0
  | some saved => do
      let fits := saved.margins.bottom < terminal.lines ∧ saved.margins.top < saved.margins.bottom
      let last ← lastRow terminal
      some
        { terminal with
          pen := saved.pen
          margins := if fits then saved.margins else terminal.margins
          cursor := ⟨min saved.cursor.x terminal.columns, min saved.cursor.y last⟩ }

theorem restoreState_eq (wellFormed : terminal.WellFormed lines columns limit) :
    restoreState terminal = some terminal.restoreState := by
  have home := moveTo_eq (wellFormed.withPen {}) 0 0
  unfold restoreState Terminal.restoreState
  cases saved : terminal.snapshot with
  | none => simpa only [saved] using home
  | some snapshot =>
      dsimp only
      rw [lastRow_eq wellFormed]
      rfl

end VideoTerminal.Checked
