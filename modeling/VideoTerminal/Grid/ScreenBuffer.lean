import VideoTerminal.Figure
import VideoTerminal.Grid.Ring
import VideoTerminal.Grid.Row

/-!
The rows of a terminal. The main screen is the end of a ring that also holds
the rows scrolled off it, the history; the alternate screen has no history.
The composed rows are the rows that can be seen by scrolling back: the whole
ring, or the alternate screen alone while that is shown.
-/

namespace VideoTerminal

/-- The main screen with its history, and the alternate screen. -/
structure ScreenBuffer where
  columns : Nat
  lines : Nat
  historyLimit : Nat
  ring : Ring Row
  alternate : Array Row
  onAlternate : Bool := false
deriving DecidableEq

namespace ScreenBuffer

/-- Two blank screens without history. -/
def blank (lines columns historyLimit : Nat) : ScreenBuffer :=
  let row := Row.filled columns {}
  { columns, lines, historyLimit
    ring := Ring.ofList (List.replicate lines row)
    alternate := Array.replicate lines row }

/-- The figure behind the number of rows that the ring may hold. The limit of
the history has no bound of its own. -/
def capacityFigure (buffer : ScreenBuffer) : Figure :=
  .sum buffer.historyLimit buffer.lines

/-- The number of rows that the ring may hold, if a machine word can hold it. -/
def capacity (buffer : ScreenBuffer) : Nat :=
  buffer.historyLimit + buffer.lines

/-- The number of composed rows. -/
def composedSize (buffer : ScreenBuffer) : Nat :=
  if buffer.onAlternate then buffer.lines else buffer.ring.size

/-- The composed row at which the screen begins. -/
def screenBase (buffer : ScreenBuffer) : Nat :=
  buffer.composedSize - buffer.lines

/-- A row of the ring, the oldest being row 0. -/
def ringRow (buffer : ScreenBuffer) (index : Nat) : Row :=
  (buffer.ring.get? index).getD {}

/-- A composed row, the oldest being row 0. -/
def composedRow (buffer : ScreenBuffer) (index : Nat) : Row :=
  if buffer.onAlternate then buffer.alternate[index]?.getD {} else buffer.ringRow index

/-- Change one composed row. -/
def modifyComposed (buffer : ScreenBuffer) (index : Nat) (change : Row → Row) : ScreenBuffer :=
  if buffer.onAlternate then
    { buffer with alternate := buffer.alternate.modify index change }
  else
    { buffer with ring := buffer.ring.modify index change }

/-- A row of the screen. -/
def screenRow (buffer : ScreenBuffer) (y : Nat) : Row :=
  buffer.composedRow (buffer.screenBase + y)

/-- Change one row of the screen. -/
def modifyScreen (buffer : ScreenBuffer) (y : Nat) (change : Row → Row) : ScreenBuffer :=
  buffer.modifyComposed (buffer.screenBase + y) change

/-- Exchange two rows of the screen. -/
def swapScreen (buffer : ScreenBuffer) (first second : Nat) : ScreenBuffer :=
  let base := buffer.screenBase
  if buffer.onAlternate then
    { buffer with
      alternate := buffer.alternate.swapIfInBounds (base + first) (base + second) }
  else
    { buffer with ring := buffer.ring.swap (base + first) (base + second) }

/-- Overwrite every cell of `count` rows of the screen from row `top` on. -/
def clearScreenRows (buffer : ScreenBuffer) (top count : Nat) (fill : Cell) : ScreenBuffer :=
  (List.range count).foldl
    (fun current k => current.modifyScreen (top + k) (Row.clear fill)) buffer

/-- Show the alternate screen, or the main one. -/
def showAlternate (buffer : ScreenBuffer) (alternate : Bool) : ScreenBuffer :=
  { buffer with onAlternate := alternate }

/-- Overwrite every cell of the alternate screen. -/
def clearAlternate (buffer : ScreenBuffer) (fill : Cell) : ScreenBuffer :=
  { buffer with alternate := buffer.alternate.map (Row.clear fill) }

/-- Scroll the whole main screen up by a row, which becomes history. The
second part says whether the oldest row of the history was lost for it. This is
what `advanceInWords` finds unless it stops. -/
def advance (buffer : ScreenBuffer) (fill : Cell) : ScreenBuffer × Bool :=
  if buffer.ring.size < buffer.capacity then
    ({ buffer with ring := buffer.ring.push (Row.filled buffer.columns fill) }, false)
  else
    ({ buffer with ring := buffer.ring.recycle (Row.clear fill) }, true)

/-- Scroll the whole main screen up by a row: the rows that the ring may hold
are counted first. -/
def advanceInWords (buffer : ScreenBuffer) (fill : Cell) : Except Figure (ScreenBuffer × Bool) :=
  inWords [buffer.capacityFigure] (buffer.advance fill)

/-- Move the rows `top` to `bottom` of the screen up by `count`, which is at
most their number, and clear the rows that become free. -/
def shiftUp (buffer : ScreenBuffer) (top bottom count : Nat) (fill : Cell) : ScreenBuffer :=
  let moved :=
    (List.range (bottom + 1 - top - count)).foldl
      (fun current k => current.swapScreen (top + k) (top + k + count)) buffer
  moved.clearScreenRows (bottom + 1 - count) count fill

/-- Move the rows `top` to `bottom` of the screen down by `count`, which is at
most their number, and clear the rows that become free. -/
def shiftDown (buffer : ScreenBuffer) (top bottom count : Nat) (fill : Cell) : ScreenBuffer :=
  let moved :=
    (List.range (bottom + 1 - top - count)).foldl
      (fun current k => current.swapScreen (bottom - k) (bottom - k - count)) buffer
  moved.clearScreenRows top count fill

/-- Move the rows `top` to `bottom` of the screen by `amount`, up when it is
positive, leaving the history as it is. An empty or overlong range, and an
amount of nothing, change nothing. -/
def scrollRows (buffer : ScreenBuffer) (top bottom : Nat) (amount : Int) (fill : Cell) :
    ScreenBuffer :=
  if top > bottom ∨ bottom ≥ buffer.lines ∨ amount = 0 then buffer
  else
    let count := min amount.natAbs (bottom + 1 - top)
    if amount > 0 then buffer.shiftUp top bottom count fill
    else buffer.shiftDown top bottom count fill

/-- Forget the history. -/
def clearHistory (buffer : ScreenBuffer) : ScreenBuffer :=
  { buffer with ring := buffer.ring.keepLast buffer.lines }

end ScreenBuffer

end VideoTerminal
