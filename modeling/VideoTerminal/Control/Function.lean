import VideoTerminal.Control.Reply
import VideoTerminal.Rendition.Selection
import VideoTerminal.Terminal.Erase
import VideoTerminal.Terminal.Switch

/-!
Control functions: what a sequence asks of the terminal once it has been read,
what they do to it, and what they make it report.
-/

namespace VideoTerminal

/-- What an application can ask of the terminal. -/
inductive ControlFunction where
  | nothing
  | backspace
  | horizontalTab
  | lineFeed
  | carriageReturn
  | index
  | nextLine
  | reverseIndex
  | moveUp (count : Nat)
  | moveDown (count : Nat)
  | moveRight (count : Nat)
  | moveLeft (count : Nat)
  | moveUpLines (count : Nat)
  | moveDownLines (count : Nat)
  | moveTo (x y : Nat)
  | moveToColumn (x : Nat)
  | moveToRow (y : Nat)
  | moveRowsDown (count : Nat)
  | eraseInDisplay (part : Nat)
  | eraseInLine (part : Nat)
  | insertLines (count : Nat)
  | deleteLines (count : Nat)
  | insertChars (count : Nat)
  | deleteChars (count : Nat)
  | eraseChars (count : Nat)
  | scrollUp (count : Nat)
  | scrollDown (count : Nat)
  | selectRendition (codes : List Nat)
  | setMargins (top : Nat) (bottom : Option Nat)
  | savePosition
  | restorePosition
  | saveState
  | restoreState
  | setModes (modes : List Nat) (on : Bool)
  | setPrivateModes (modes : List Nat) (on : Bool)
  | reset
  | alignmentTest
  | setTitle (title : List Char)
  | reportDevice
  | reportSecondary
  | reportStatus (question : Nat)
  | reportWindow (question : Nat)
  | reportPalette (indices : List UInt8)
  | reportDynamic (code : Nat)
deriving DecidableEq

namespace Terminal

/-- What a control function does to the terminal. The reports do nothing to
it. -/
def perform (terminal : Terminal) : ControlFunction → Terminal
  | .backspace => terminal.backspace
  | .horizontalTab => terminal.horizontalTab
  | .lineFeed => terminal.lineFeed
  | .carriageReturn => terminal.carriageReturn
  | .index => terminal.index.1
  | .nextLine => terminal.nextLine
  | .reverseIndex => terminal.reverseIndex
  | .moveUp count => terminal.moveUp count
  | .moveDown count => terminal.moveDown count
  | .moveRight count => terminal.moveRight count
  | .moveLeft count => terminal.moveLeft count
  | .moveUpLines count => (terminal.moveUp count).moveToColumn 0
  | .moveDownLines count => (terminal.moveDown count).moveToColumn 0
  | .moveTo x y => terminal.moveTo x y
  | .moveToColumn x => terminal.moveToColumn x
  | .moveToRow y => terminal.moveToRow y
  | .moveRowsDown count => terminal.moveToRow (terminal.cursor.y + count)
  | .eraseInDisplay part => terminal.eraseInDisplay part
  | .eraseInLine part => terminal.eraseInLine part
  | .insertLines count => terminal.insertLines count
  | .deleteLines count => terminal.deleteLines count
  | .insertChars count => terminal.insertChars count
  | .deleteChars count => terminal.deleteChars count
  | .eraseChars count => terminal.eraseChars count
  | .scrollUp count => terminal.scrollUp count
  | .scrollDown count => terminal.scrollDown count
  | .selectRendition codes =>
      { terminal with pen := terminal.pen.select terminal.blinkIsBold codes }
  | .setMargins top bottom => terminal.setMargins top (bottom.getD terminal.lines)
  | .savePosition => terminal.savePosition
  | .restorePosition => terminal.restorePosition
  | .saveState => terminal.saveState
  | .restoreState => terminal.restoreState
  | .setModes modes on => modes.foldl (fun current mode => current.setMode mode on) terminal
  | .setPrivateModes modes on =>
      modes.foldl (fun current mode => current.setPrivateMode mode on) terminal
  | .reset => terminal.reset
  | .alignmentTest => terminal.alignmentTest
  | .setTitle title => terminal.setTitle (String.ofList title)
  | .nothing | .reportDevice | .reportSecondary | .reportStatus _ | .reportWindow _
  | .reportPalette _ | .reportDynamic _ => terminal

/-- The report on the state of the device, or on the cursor. -/
def statusReport (terminal : Terminal) (question : Nat) : List Reply :=
  if question = 5 then [.statusOk]
  else if question = 6 then
    [.cursorPosition (terminal.cursor.y + 1) (terminal.cursorColumn + 1)]
  else []

/-- The report on the window, or on one of its sizes. -/
def windowReport (terminal : Terminal) (question : Nat) : List Reply :=
  let cell := terminal.cellSize
  if question = 11 then [.windowState]
  else if question = 13 then [.windowPosition]
  else if question = 14 ∨ question = 15 then
    [.pixelSize question (cell.height * terminal.lines) (cell.width * terminal.columns)]
  else if question = 16 then [.cellSize cell.height cell.width]
  else if question = 18 ∨ question = 19 then
    [.textSize question terminal.lines terminal.columns]
  else []

/-- The base colours behind the dynamic colours from number 10 on. -/
def dynamicSlots : List UInt8 :=
  [7, 0, 15, 15, 8, 7, 0, 8, 15, 15]

/-- What a control function makes the terminal report, in the state it has
before the function. -/
def answer (terminal : Terminal) : ControlFunction → List Reply
  | .reportDevice => [.deviceAttributes]
  | .reportSecondary => [.secondaryAttributes]
  | .reportStatus question => terminal.statusReport question
  | .reportWindow question => terminal.windowReport question
  | .reportPalette indices =>
      indices.map fun index => .paletteColour index (terminal.palette.colour index)
  | .reportDynamic code =>
      ((dynamicSlots[code - 10]?).map fun slot =>
        Reply.dynamicColour code (terminal.palette.colour slot)).toList
  | _ => []

end Terminal

end VideoTerminal
