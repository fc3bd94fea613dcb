import VideoTerminal.Rendition.Basic
import VideoTerminal.Text.Character

/-!
Cells, and the rows they form. A row also says how it is joined with its
neighbours into a logical line, which is what an application wrote before the
right margin broke it.
-/

namespace VideoTerminal

/-- One place of the screen. -/
structure Cell where
  char : Char := ' '
  rendition : Rendition := {}
deriving DecidableEq, Inhabited

namespace Cell

/-- An erased cell: a space on the background that is selected. -/
def erased (pen : Rendition) : Cell :=
  { rendition := pen.erased }

/-- Nothing was written here, or nothing that can be told from it. -/
def isBlank (cell : Cell) : Bool :=
  cell.char == ' ' && cell.rendition == {}

end Cell

/-- The place of a row in its logical line. In a line on rows `r` to `r + n`,
row `r + k` is followed by `n - k` rows, has `k` rows' columns less of the
line's length before its end, and continues the line when `k` is positive. -/
structure Wrap where
  following : Nat := 0
  length : Nat := 0
  continues : Bool := false
deriving DecidableEq, Inhabited

/-- One row of cells. -/
structure Row where
  cells : List Cell := []
  wrap : Wrap := {}
deriving DecidableEq, Inhabited

namespace Row

/-- A row of equal cells that is a logical line of its own. -/
def filled (columns : Nat) (fill : Cell) : Row :=
  { cells := List.replicate columns fill }

/-- Overwrite every cell and leave the logical line. -/
def clear (fill : Cell) (row : Row) : Row :=
  filled row.cells.length fill

/-- Every cell is blank. -/
def isEmpty (row : Row) : Bool :=
  row.cells.all Cell.isBlank

/-- Every cell is blank and the row continues no line. -/
def isBlank (row : Row) : Bool :=
  !row.wrap.continues && row.isEmpty

/-- The column after the last cell that is not blank. -/
def contentLength (row : Row) : Nat :=
  (Text.trimEnd Cell.isBlank row.cells).length

/-- The characters of the row. -/
def chars (row : Row) : List Char :=
  row.cells.map Cell.char

/-- The characters of the row without the blanks at its end. -/
def text (row : Row) : String :=
  String.ofList (Text.trimEnd Text.isBlank row.chars)

/-- Replace the cell of one column. -/
def put (row : Row) (column : Nat) (cell : Cell) : Row :=
  { row with cells := row.cells.set column cell }

/-- Put a cell before a column and drop the last cell. -/
def insert (row : Row) (column : Nat) (cell : Cell) : Row :=
  { row with
    cells := (row.cells.take column ++ cell :: row.cells.drop column).take row.cells.length }

/-- Overwrite the columns from `start` up to `stop`. -/
def fillSpan (row : Row) (start stop : Nat) (fill : Cell) : Row :=
  { row with
    cells :=
      row.cells.take start ++ List.replicate (stop - start) fill ++ row.cells.drop stop }

/-- Move the cells from `column` on `count` columns to the right and fill the
gap; the cells moved past the end are lost. -/
def openGap (row : Row) (column count : Nat) (fill : Cell) : Row :=
  { row with
    cells :=
      (row.cells.take column ++ List.replicate count fill ++ row.cells.drop column).take
        row.cells.length }

/-- Take `count` cells out at `column` and fill up at the end of the row. -/
def closeGap (row : Row) (column count : Nat) (fill : Cell) : Row :=
  { row with
    cells :=
      row.cells.take column ++ row.cells.drop (column + count) ++ List.replicate count fill }

/-- Cut the row at `columns`, or fill it up with blank cells. -/
def fit (columns : Nat) (row : Row) : Row :=
  { row with
    cells :=
      row.cells.take columns ++ List.replicate (columns - row.cells.length) {} }

end Row

end VideoTerminal
