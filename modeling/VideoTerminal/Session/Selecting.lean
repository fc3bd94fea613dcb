import VideoTerminal.Export
import VideoTerminal.Session.Interpretation

/-!
Selecting cells of a session, and writing what is selected. Cells are given by
a column and a composed row, the history first. A selection in progress holds
text back, so that nothing moves under it.
-/

namespace VideoTerminal.Session

/-- The place of a cell among all cells, at most the last one. The column is
at most the last one too. -/
def offset (session : Session) (x y : Nat) : Nat :=
  let columns := session.terminal.columns
  min (min x (columns - 1) + y * columns) (session.cellCount - 1)

/-- The selection is no longer in progress and stops holding text back. -/
def release (session : Session) : Session :=
  if session.selecting then { session with selecting := false }.unfreeze else session

/-- Select nothing. -/
def clearSelection (session : Session) : Session :=
  { session with selection := none }.release

/-- Begin a selection. If there is one already, it is cleared instead, and the
second part is false. -/
def startSelection (session : Session) (x y : Nat) : Session × Bool :=
  if session.selection.isSome then (session.clearSelection, false)
  else
    ({ session with
        selection := some (Selection.single (session.offset x y))
        selecting := true }.freeze,
      true)

/-- Move the free end of the selection. The second part says whether that
changed it. -/
def extendSelection (session : Session) (x y : Nat) : Session × Bool :=
  match session.selection with
  | none => (session, false)
  | some selection =>
      let (extended, changed) := selection.extend (session.offset x y)
      ({ session with selection := some extended }, changed)

/-- Finish the selection. -/
def endSelection (session : Session) : Session :=
  { session with selection := session.selection.map Selection.finish }.release

/-- Select every cell. -/
def selectAll (session : Session) : Session :=
  let released := session.release
  { released with selection := Selection.all? released.cellCount }

/-- Write the selected cells. -/
def exportSelection (session : Session) (format : Export.Format) :
    Except Export.Error String :=
  match session.selection with
  | none => .error .noSelection
  | some selection =>
      session.terminal.buffer.exportRange session.terminal.palette selection.start
        selection.stop format

end VideoTerminal.Session
