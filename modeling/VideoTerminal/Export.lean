import VideoTerminal.Export.Format
import VideoTerminal.Export.Plain
import VideoTerminal.Export.Styled
import VideoTerminal.Grid.ScreenBuffer

/-!
Export: a range of the composed cells written in one of the formats.
-/

namespace VideoTerminal.ScreenBuffer

open Export

/-- The selected part of a row, for the cells `start` to `stop`. -/
def segment (buffer : ScreenBuffer) (start stop row : Nat) : List Cell :=
  let columns := buffer.columns
  let first := if row = start / columns then start % columns else 0
  let last := if row = stop / columns then stop % columns + 1 else columns
  ((buffer.composedRow row).cells.take last).drop first

/-- The selected parts of the rows from that of `start` to that of `stop`. -/
def segments (buffer : ScreenBuffer) (start stop : Nat) : List (List Cell) :=
  let first := start / buffer.columns
  (List.range (stop / buffer.columns + 1 - first)).map fun k =>
    buffer.segment start stop (first + k)

/-- Write segments in a format. -/
def writeSegments (palette : Palette) (segments : List (List Cell)) : Format → List Char
  | .text => plain ['\n'] segments
  | .textCrlf => plain ['\r', '\n'] segments
  | .raw => raw segments
  | .ansi => ansi segments
  | .html => html palette segments

/-- Write the cells `start` to `stop` of the composed rows. -/
def exportRange (buffer : ScreenBuffer) (palette : Palette) (start stop : Nat)
    (format : Format) : Except Export.Error String :=
  let size := buffer.composedSize * buffer.columns
  if start > stop ∨ stop ≥ size then .error (.outOfRange start stop size)
  else .ok (String.ofList (writeSegments palette (buffer.segments start stop) format))

end VideoTerminal.ScreenBuffer
