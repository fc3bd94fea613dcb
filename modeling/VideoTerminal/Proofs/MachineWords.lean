import VideoTerminal.Proofs.WellFormed

/-!
Counts as machine words. A sum of two words is bounded by the largest one, and
the upper half of the words stands for negative numbers where a word is taken
for a signed one. The screen bounds what is done with a count, so that words
give what numbers of any size would, however large the count.
-/

namespace VideoTerminal.Words

/-! ## Arithmetic -/

/-- The sum of two words, or the largest word when the sum is larger. -/
def sum (first second : Nat) : Nat :=
  min (first + second) Text.wordLimit

/-- A word taken for a signed number. -/
def signed (word : Nat) : Int :=
  if word < Text.wordSize / 2 then word else (word : Int) - Text.wordSize

theorem min_sum
    {last : Nat}
    (fits : last ≤ Text.wordLimit)
    (first second : Nat) :
    min (sum first second) last = min (first + second) last := by
  rw [sum]
  omega

theorem signed_eq {word : Nat} (small : word < Text.wordSize / 2) :
    signed word = word :=
  if_pos small

theorem le_wordLimit {size : Nat} (small : size < Text.wordSize / 2) :
    size ≤ Text.wordLimit := by
  rw [Text.wordLimit]
  omega

/-! ## Functions -/

variable {lines columns limit : Nat} {terminal : Terminal}

def moveDown (terminal : Terminal) (count : Nat) : Terminal :=
  let bottom := terminal.margins.bottom
  let limit := if terminal.cursor.y ≤ bottom then bottom else terminal.lines - 1
  { terminal with cursor := ⟨terminal.cursorColumn, min (sum terminal.cursor.y count) limit⟩ }

theorem moveDown_eq
    (wellFormed : terminal.WellFormed lines columns limit)
    (fewLines : lines < Text.wordSize / 2)
    (count : Nat) :
    moveDown terminal count = terminal.moveDown count := by
  have bottom := wellFormed.margins_inside
  have height := wellFormed.lines_eq
  have bound := le_wordLimit fewLines
  rw [moveDown, Terminal.moveDown, min_sum]
  split <;> omega

def moveRight (terminal : Terminal) (count : Nat) : Terminal :=
  { terminal with
    cursor :=
      { terminal.cursor with
        x := min (sum terminal.cursorColumn count) (terminal.columns - 1) } }

theorem moveRight_eq
    (wellFormed : terminal.WellFormed lines columns limit)
    (fewColumns : columns < Text.wordSize / 2)
    (count : Nat) :
    moveRight terminal count = terminal.moveRight count := by
  have width := wellFormed.columns_eq
  have bound := le_wordLimit fewColumns
  rw [moveRight, Terminal.moveRight, min_sum]
  omega

theorem moveToRow_sum
    (wellFormed : terminal.WellFormed lines columns limit)
    (fewLines : lines < Text.wordSize / 2)
    (count : Nat) :
    terminal.moveToRow (sum terminal.cursor.y count) =
      terminal.moveToRow (terminal.cursor.y + count) := by
  have height := wellFormed.lines_eq
  have bound := le_wordLimit fewLines
  rw [Terminal.moveToRow, Terminal.moveToRow, Terminal.moveTo, Terminal.moveTo, Position.clamp,
    Position.clamp, min_sum]
  omega

/-- An amount of lines to be scrolled. -/
def amount (terminal : Terminal) (count : Nat) : Int :=
  signed (terminal.clampLines count)

theorem amount_eq
    (wellFormed : terminal.WellFormed lines columns limit)
    (fewLines : lines < Text.wordSize / 2)
    (count : Nat) :
    amount terminal count = terminal.clampLines count := by
  have height := wellFormed.lines_eq
  apply signed_eq
  rw [Terminal.clampLines]
  omega

def insertChars (terminal : Terminal) (count : Nat) : Terminal :=
  let y := terminal.cursor.y
  let x := terminal.cursorColumn
  let columns := terminal.columns
  let count := min count (columns - x)
  let fill := terminal.fill
  let moved := terminal.modifyRow y fun row => row.openGap x count fill
  let marked := moved.modifyBlink fun marks =>
    (marks.shiftColumns y x columns (signed count)).eraseSpan y x (x + count)
  marked.markDamage y x columns

def deleteChars (terminal : Terminal) (count : Nat) : Terminal :=
  let y := terminal.cursor.y
  let x := terminal.cursorColumn
  let columns := terminal.columns
  let count := min count (columns - x)
  let fill := terminal.fill
  let moved := terminal.modifyRow y fun row => row.closeGap x count fill
  let marked := moved.modifyBlink fun marks =>
    (marks.eraseSpan y x (x + count)).shiftColumns y (x + count) columns (-signed count)
  marked.markDamage y x columns

theorem signed_columnsLeft
    (wellFormed : terminal.WellFormed lines columns limit)
    (fewColumns : columns < Text.wordSize / 2)
    (count : Nat) :
    signed (min count (terminal.columns - terminal.cursorColumn)) =
      (min count (terminal.columns - terminal.cursorColumn) : Nat) := by
  have width := wellFormed.columns_eq
  apply signed_eq
  omega

theorem insertChars_eq
    (wellFormed : terminal.WellFormed lines columns limit)
    (fewColumns : columns < Text.wordSize / 2)
    (count : Nat) :
    insertChars terminal count = terminal.insertChars count := by
  rw [insertChars, signed_columnsLeft wellFormed fewColumns, Terminal.insertChars]

theorem deleteChars_eq
    (wellFormed : terminal.WellFormed lines columns limit)
    (fewColumns : columns < Text.wordSize / 2)
    (count : Nat) :
    deleteChars terminal count = terminal.deleteChars count := by
  rw [deleteChars, signed_columnsLeft wellFormed fewColumns, Terminal.deleteChars]

def eraseChars (terminal : Terminal) (count : Nat) : Terminal :=
  let x := terminal.cursorColumn
  terminal.eraseSpan terminal.cursor.y x (min (sum x count) terminal.columns)

theorem eraseChars_eq
    (wellFormed : terminal.WellFormed lines columns limit)
    (fewColumns : columns < Text.wordSize / 2)
    (count : Nat) :
    eraseChars terminal count = terminal.eraseChars count := by
  rw [eraseChars, Terminal.eraseChars, min_sum]
  exact wellFormed.columns_eq ▸ le_wordLimit fewColumns

/-- What a control function does to the terminal, with sums of words and with
words taken for signed numbers. -/
def perform (terminal : Terminal) : ControlFunction → Terminal
  | .moveDown count => moveDown terminal count
  | .moveDownLines count => (moveDown terminal count).moveToColumn 0
  | .moveRight count => moveRight terminal count
  | .moveRowsDown count => terminal.moveToRow (sum terminal.cursor.y count)
  | .insertLines count => terminal.shiftLines (-amount terminal count)
  | .deleteLines count => terminal.shiftLines (amount terminal count)
  | .insertChars count => insertChars terminal count
  | .deleteChars count => deleteChars terminal count
  | .eraseChars count => eraseChars terminal count
  | .scrollUp count =>
      terminal.scroll terminal.margins.top terminal.margins.bottom (amount terminal count)
  | .scrollDown count =>
      terminal.scroll terminal.margins.top terminal.margins.bottom (-amount terminal count)
  | function => terminal.perform function

/-- On a screen whose size is a signed number, words do what all numbers do. -/
theorem perform_eq
    (wellFormed : terminal.WellFormed lines columns limit)
    (fewLines : lines < Text.wordSize / 2)
    (fewColumns : columns < Text.wordSize / 2)
    (function : ControlFunction) :
    perform terminal function = terminal.perform function := by
  cases function with
  | moveDown count => exact moveDown_eq wellFormed fewLines count
  | moveDownLines count =>
      exact congrArg (Terminal.moveToColumn · 0) (moveDown_eq wellFormed fewLines count)
  | moveRight count => exact moveRight_eq wellFormed fewColumns count
  | moveRowsDown count => exact moveToRow_sum wellFormed fewLines count
  | insertLines count | deleteLines count | scrollUp count | scrollDown count =>
      rw [perform, amount_eq wellFormed fewLines]
      rfl
  | insertChars count => exact insertChars_eq wellFormed fewColumns count
  | deleteChars count => exact deleteChars_eq wellFormed fewColumns count
  | eraseChars count => exact eraseChars_eq wellFormed fewColumns count
  | _ => rfl

end VideoTerminal.Words
