import VideoTerminal.Grid.ScreenBuffer

/-!
Logical lines among the composed rows: a row and the rows after it that
continue it. The rows of a line are stamped with their place in it whenever
the line is completed or broken.
-/

namespace VideoTerminal.ScreenBuffer

/-- The first row of the logical line that holds composed row `index`. -/
def lineStart (buffer : ScreenBuffer) : Nat → Nat
  | 0 => 0
  | index + 1 =>
      if (buffer.composedRow (index + 1)).wrap.continues then buffer.lineStart index
      else index + 1

/-- The last row of the logical line that holds composed row `index`, looking
at most `remaining` rows ahead. -/
def lineEndWithin (buffer : ScreenBuffer) (index : Nat) : Nat → Nat
  | 0 => index
  | remaining + 1 =>
      if (buffer.composedRow (index + 1)).wrap.continues then
        buffer.lineEndWithin (index + 1) remaining
      else index

/-- The last row of the logical line that holds composed row `index`. -/
def lineEnd (buffer : ScreenBuffer) (index : Nat) : Nat :=
  buffer.lineEndWithin index (buffer.composedSize - (index + 1))

/-- Stamp the rows of the logical line that holds composed row `index`. Its
length is what its first row says, but reaches column `x` of row `index` and
into the last row, and no farther than its end. -/
def stamp (buffer : ScreenBuffer) (index x : Nat) : ScreenBuffer :=
  let columns := buffer.columns
  let first := buffer.lineStart index
  let last := buffer.lineEnd index
  let stated := max (buffer.composedRow first).wrap.length ((index - first) * columns + x)
  let reaching := if last > first then max stated ((last - first) * columns + 1) else stated
  let length := min reaching ((last - first + 1) * columns)
  (List.range (last + 1 - first)).foldl
    (fun current k =>
      current.modifyComposed (first + k) fun row =>
        { row with
          wrap := ⟨last - first - k, length - k * columns, k != 0⟩ })
    buffer

/-- Screen row `y` continues the logical line above it. -/
def continueLine (buffer : ScreenBuffer) (y : Nat) : ScreenBuffer :=
  buffer.modifyScreen y fun row => { row with wrap := { row.wrap with continues := true } }

/-- Stamp the logical line that holds column `x` of screen row `y`. -/
def completeLine (buffer : ScreenBuffer) (x y : Nat) : ScreenBuffer :=
  buffer.stamp (buffer.screenBase + y) x

/-- Screen row `y` begins a logical line. A line that it continued ends at the
row above, after the content of that row. -/
def beginLine (buffer : ScreenBuffer) (y : Nat) : ScreenBuffer :=
  let index := buffer.screenBase + y
  let row := buffer.composedRow index
  let parted :=
    buffer.modifyComposed index fun row =>
      { row with
        wrap :=
          { row.wrap with
            continues := false
            length := if row.isEmpty then 0 else row.wrap.length } }
  let ended :=
    if row.wrap.continues ∧ index > 0 then
      let first := parted.lineStart (index - 1)
      let tail := (parted.composedRow (index - 1)).contentLength
      (parted.modifyComposed first fun row =>
        { row with wrap := { row.wrap with length := 0 } }).stamp (index - 1) tail
    else parted
  ended.stamp index 0

end VideoTerminal.ScreenBuffer
