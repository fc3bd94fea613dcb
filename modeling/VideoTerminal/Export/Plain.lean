import VideoTerminal.Grid.Row

/-!
Cells written as plain text. What is written comes in segments, each a row or
a part of one.
-/

namespace VideoTerminal.Export

/-- One segment: the characters up to the last that is no space, and an end of
line if that leaves any out. -/
def plainSegment (newline : List Char) (segment : List Cell) : List Char :=
  let kept := Text.trimEnd (fun cell => cell.char == ' ') segment
  kept.map Cell.char ++ if kept.length < segment.length then newline else []

/-- Text in which a segment filled to its end runs on in the next. -/
def plain (newline : List Char) (segments : List (List Cell)) : List Char :=
  segments.flatMap (plainSegment newline)

/-- Every character, with an end of line between two segments. -/
def raw : List (List Cell) → List Char
  | [] => []
  | [segment] => segment.map Cell.char
  | segment :: others => segment.map Cell.char ++ '\n' :: raw others

end VideoTerminal.Export
