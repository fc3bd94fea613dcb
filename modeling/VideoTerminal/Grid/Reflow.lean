import VideoTerminal.Grid.Row

/-!
Reflow: rows are joined into logical lines, and the lines are cut again at
another number of columns. The cursor keeps its place in its line.
-/

namespace VideoTerminal.Reflow

/-- The logical lines of some rows. The first row begins a line whatever it
says. -/
def lines : List Row → List (List Row)
  | [] => []
  | row :: rest =>
      match rest, lines rest with
      | next :: _, line :: others =>
          if next.wrap.continues then (row :: line) :: others else [row] :: line :: others
      | _, _ => [[row]]

/-- The cells of a logical line, one row after the other. -/
def joined (line : List Row) : List Cell :=
  line.flatMap Row.cells

/-- The length of a logical line: what its first row says, but all of its
content and up to the cursor, and no more than there are cells. -/
def lineLength (line : List Row) (cursor : Option Nat) : Nat :=
  let cells := joined line
  let stated := ((line.head?.map fun row => row.wrap.length).getD 0)
  let content := (Text.trimEnd Cell.isBlank cells).length
  min (max (max stated content) (cursor.getD 0)) cells.length

/-- The number of rows that `length` cells take; an empty line takes one. -/
def rowCount (columns length : Nat) : Nat :=
  max ((length + columns - 1) / columns) 1

/-- Cut a line into rows, the last one filled up with blank cells. -/
def slice (columns : Nat) (cells : List Cell) : List Row :=
  let count := rowCount columns cells.length
  (List.range count).map fun k =>
    { Row.fit columns { cells := (cells.drop (k * columns)).take columns } with
      wrap := ⟨count - 1 - k, cells.length - k * columns, k != 0⟩ }

/-- The column and the row of an offset in a line of `count` rows. The end of
a full last row is the column after it. -/
def place (columns count offset : Nat) : Nat × Nat :=
  if offset > 0 ∧ offset = count * columns then (columns, count - 1)
  else (offset % columns, offset / columns)

/-- The offset of the cursor in a line that begins at row `start`, when it is
there. -/
def cursorOffset? (oldColumns start : Nat) (line : List Row) (cursor : Option (Nat × Nat)) :
    Option Nat :=
  match cursor with
  | some (x, y) =>
      if start ≤ y ∧ y < start + line.length then some ((y - start) * oldColumns + x) else none
  | none => none

/-- Cut each of the lines anew. They begin at row `start` of the old rows and
at row `first` of the new ones. -/
def rewrapFrom (oldColumns columns : Nat) (cursor : Option (Nat × Nat)) (start first : Nat) :
    List (List Row) → List Row × Option (Nat × Nat)
  | [] => ([], none)
  | line :: others =>
      let offset := cursorOffset? oldColumns start line cursor
      let rows := slice columns ((joined line).take (lineLength line offset))
      let rest :=
        rewrapFrom oldColumns columns cursor (start + line.length) (first + rows.length) others
      let found :=
        match offset with
        | some offset =>
            let (x, row) := place columns rows.length offset
            some (x, first + row)
        | none => rest.2
      (rows ++ rest.1, found)

/-- Rows of `oldColumns` columns as rows of `columns` columns, with the place
of the cursor among them. -/
def rewrap (rows : List Row) (oldColumns columns : Nat) (cursor : Option (Nat × Nat)) :
    List Row × Option (Nat × Nat) :=
  rewrapFrom oldColumns columns cursor 0 0 (lines rows)

end VideoTerminal.Reflow
