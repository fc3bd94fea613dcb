import VideoTerminal.Grid.Reflow
import VideoTerminal.Grid.ScreenBuffer

/-!
A new size for the two screens. The main screen is reflowed when its columns
change, and keeps the cursor in sight; the alternate screen is cut or filled
up.
-/

namespace VideoTerminal.ScreenBuffer

/-- The row down to which nothing may be dropped: the cursor's, or else the
last one that is not blank. -/
def anchor (rows : List Row) (cursor : Option (Nat × Nat)) : Nat :=
  match cursor with
  | some (_, y) => y
  | none => (Text.trimEnd Row.isBlank rows).length - 1

/-- Drop the blank rows at the end after the row `anchor`, and fit the rest to
a screen of `lines` lines that begins at the row `anchor` or before it. -/
def fitRows (rows : List Row) (anchor lines columns : Nat) : List Row :=
  let kept := rows.take (anchor + 1) ++ Text.trimEnd Row.isBlank (rows.drop (anchor + 1))
  let filled := kept ++ List.replicate (lines - kept.length) (Row.filled columns {})
  filled.take (anchor + lines)

/-- The figure behind the number of rows that the ring may hold on a screen of
another size. -/
def resizeFigure (buffer : ScreenBuffer) (lines : Nat) : Figure :=
  .sum buffer.historyLimit lines

/-- Give both screens a new size. The cursor is one of the main screen, or
absent while the alternate screen is shown; its new place is the second part.
This is what `resizeInWords` finds unless it stops. -/
def resize (buffer : ScreenBuffer) (lines columns : Nat) (cursor : Option (Nat × Nat)) :
    ScreenBuffer × Option (Nat × Nat) :=
  let alternate :=
    (buffer.alternate.toList.map (Row.fit columns)).take lines ++
      List.replicate (lines - buffer.alternate.size) (Row.filled columns {})
  let base := buffer.ring.size - buffer.lines
  let absolute := cursor.map fun (x, y) => (x, base + y)
  let (rows, moved) :=
    if columns = buffer.columns then (buffer.ring.toList, absolute)
    else Reflow.rewrap buffer.ring.toList buffer.columns columns absolute
  let fitted := fitRows rows (anchor rows moved) lines columns
  let evicted := fitted.length - (buffer.historyLimit + lines)
  let kept := fitted.drop evicted
  ({ buffer with
      lines, columns
      ring := Ring.ofList kept
      alternate := alternate.toArray },
    moved.map fun (x, y) => (min x columns, y - evicted - (kept.length - lines)))

/-- Give both screens a new size: the rows that the ring may hold are counted on
the way. -/
def resizeInWords (buffer : ScreenBuffer) (lines columns : Nat) (cursor : Option (Nat × Nat)) :
    Except Figure (ScreenBuffer × Option (Nat × Nat)) :=
  inWords [buffer.resizeFigure lines] (buffer.resize lines columns cursor)

end VideoTerminal.ScreenBuffer
