import VideoTerminal.Control.Function
import VideoTerminal.Control.Parameters

/-!
Control sequences: the final character names the function, the parameters
before it are its numbers.
-/

namespace VideoTerminal.ControlFunction

/-- The control functions by their final characters. -/
def ofFinal? (parameters : Parameters) : Char → Option ControlFunction
  | 'A' => some (.moveUp (parameters.count 0))
  | 'B' => some (.moveDown (parameters.count 0))
  | 'C' | 'a' => some (.moveRight (parameters.count 0))
  | 'D' => some (.moveLeft (parameters.count 0))
  | 'E' => some (.moveDownLines (parameters.count 0))
  | 'F' => some (.moveUpLines (parameters.count 0))
  | 'G' | '\x60' => some (.moveToColumn (parameters.count 0 - 1))
  | 'H' | 'f' => some (.moveTo (parameters.count 1 - 1) (parameters.count 0 - 1))
  | 'd' => some (.moveToRow (parameters.count 0 - 1))
  | 'e' => some (.moveRowsDown (parameters.count 0))
  | 'J' => some (.eraseInDisplay (parameters.number 0 0))
  | 'K' => some (.eraseInLine (parameters.number 0 0))
  | 'L' => some (.insertLines (parameters.count 0))
  | 'M' => some (.deleteLines (parameters.count 0))
  | '@' => some (.insertChars (parameters.count 0))
  | 'P' => some (.deleteChars (parameters.count 0))
  | 'X' => some (.eraseChars (parameters.count 0))
  | 'S' => some (.scrollUp (parameters.count 0))
  | 'T' => some (.scrollDown (parameters.count 0))
  | 'm' => some (.selectRendition parameters.numbers)
  | 'r' => some (.setMargins (parameters.number 0 1) (parameters.number? 1))
  | 's' => some .savePosition
  | 'u' => some .restorePosition
  | 'h' => some (.setModes parameters.numbers true)
  | 'l' => some (.setModes parameters.numbers false)
  | 'c' => some (if parameters.number 0 0 = 0 then .reportDevice else .nothing)
  | 'n' => some (.reportStatus (parameters.number 0 0))
  | 't' => some (.reportWindow (parameters.number 0 0))
  | _ => none

end VideoTerminal.ControlFunction
