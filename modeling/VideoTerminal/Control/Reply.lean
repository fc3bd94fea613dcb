import VideoTerminal.Colour.Rgb

/-!
Replies of the terminal to the questions an application asks, and how they are
written.
-/

namespace VideoTerminal

/-- What the terminal reports. -/
inductive Reply where
  | cursorPosition (row column : Nat)
  | statusOk
  | deviceAttributes
  | secondaryAttributes
  | windowState
  | windowPosition
  | pixelSize (code height width : Nat)
  | cellSize (height width : Nat)
  | textSize (code lines columns : Nat)
  | dynamicColour (code : Nat) (rgb : Rgb)
  | paletteColour (index : UInt8) (rgb : Rgb)
deriving DecidableEq

namespace Reply

/-- The report as it is sent. A report on a size has the number of its
question less 10. -/
def text : Reply → String
  | cursorPosition row column => s!"\x1b[{row};{column}R"
  | statusOk => "\x1b[0n"
  | deviceAttributes => "\x1b[?6c"
  | secondaryAttributes => "\x1b[>65;6800;1c"
  | windowState => "\x1b[1t"
  | windowPosition => "\x1b[3;0;0t"
  | pixelSize code height width => s!"\x1b[{code - 10};{height};{width}t"
  | cellSize height width => s!"\x1b[6;{height};{width}t"
  | textSize code lines columns => s!"\x1b[{code - 10};{lines};{columns}t"
  | dynamicColour code rgb => s!"\x1b]{code};{rgb.wideText}\x07"
  | paletteColour index rgb => s!"\x1b]4;{index.toNat};{rgb.wideText}\x07"

end Reply

end VideoTerminal
