import VideoTerminal.Control.Function
import VideoTerminal.Terminal.Print

/-!
What the owner of a terminal asks of it, and the figures that are worked out on
the way. A row that is brought to the history and a new size make the terminal
count the rows that it may keep; a report on the window multiplies the size of
the screen by that of a cell.
-/

namespace VideoTerminal.Terminal

/-- What the owner of a terminal asks of it directly. -/
inductive Request where
  | perform (function : ControlFunction)
  | print (text : List Char)
  | scroll (top bottom : Nat) (amount : Int)
  | resize (lines columns : Nat)
  | setPen (pen : Rendition)
  | configure (palette : Palette) (blinkIsBold cursorAlwaysBlinks : Bool) (cellSize : CellSize)
  | markBlink
  | takeTitle
  | takeReset
  | takeEvicted
  | takeDamage

/-- The terminal after a request. A size that is refused changes nothing. -/
def serve (terminal : Terminal) : Request → Terminal
  | .perform function => terminal.perform function
  | .print text => terminal.printAll text
  | .scroll top bottom amount => terminal.scroll top bottom amount
  | .resize lines columns => (terminal.resize? lines columns).getD terminal
  | .setPen pen => { terminal with pen }
  | .configure palette blinkIsBold cursorAlwaysBlinks cellSize =>
      { terminal with palette, blinkIsBold, cursorAlwaysBlinks, cellSize }
  | .markBlink => terminal.markBlink
  | .takeTitle => terminal.takeTitle.1
  | .takeReset => terminal.takeReset.1
  | .takeEvicted => terminal.takeEvicted.1
  | .takeDamage => terminal.takeDamage.1

/-! ## Figures -/

/-- The figures of a scroll: the rows that the ring may hold, for each row
brought to the history. -/
def scrollFigures (terminal : Terminal) (top bottom : Nat) (amount : Int) : List Figure :=
  if amount = 0 ∨ top > bottom ∨ bottom ≥ terminal.lines then []
  else
    let height : Int := (bottom - top + 1 : Nat)
    let amount := max (-height) (min amount height)
    let whole := !terminal.onAlternate && top == 0 && bottom == terminal.lines - 1
    if whole ∧ amount > 0 then List.replicate amount.toNat terminal.buffer.capacityFigure else []

/-- The figures of a move down a row. -/
def indexFigures (terminal : Terminal) : List Figure :=
  let margins := terminal.margins
  if terminal.cursor.y = margins.bottom then terminal.scrollFigures margins.top margins.bottom 1
  else []

/-- The figures of leaving the column after the last. -/
def wrapFigures (terminal : Terminal) : List Figure :=
  if terminal.cursor.x < terminal.columns then []
  else if terminal.modes.autoWrap then terminal.indexFigures
  else []

/-- The figures of writing some characters. -/
def printFigures (terminal : Terminal) : List Char → List Figure
  | [] => []
  | char :: rest => terminal.wrapFigures ++ (terminal.print char).printFigures rest

/-- The figures of what a control function does. Nothing is brought to the
history but by scrolling up. -/
def performFigures (terminal : Terminal) : ControlFunction → List Figure
  | .lineFeed | .index | .nextLine => terminal.indexFigures
  | .deleteLines count =>
      if terminal.insideMargins then
        terminal.scrollFigures terminal.cursor.y terminal.margins.bottom
          (terminal.clampLines count)
      else []
  | .scrollUp count =>
      terminal.scrollFigures terminal.margins.top terminal.margins.bottom
        (terminal.clampLines count)
  | _ => []

/-- The figures of what a control function reports: the size of the screen in
pixels. -/
def answerFigures (terminal : Terminal) : ControlFunction → List Figure
  | .reportWindow question =>
      if question = 14 ∨ question = 15 then
        [.product terminal.cellSize.height terminal.lines,
          .product terminal.cellSize.width terminal.columns]
      else []
  | _ => []

/-- The figures of a new size, unless that is refused. -/
def resizeFigures (terminal : Terminal) (lines columns : Nat) : List Figure :=
  if lines = 0 ∨ columns = 0 ∨ (lines = terminal.lines ∧ columns = terminal.columns) then []
  else [terminal.buffer.resizeFigure lines]

/-- The figures of a request. -/
def serveFigures (terminal : Terminal) : Request → List Figure
  | .perform function => terminal.performFigures function
  | .print text => terminal.printFigures text
  | .scroll top bottom amount => terminal.scrollFigures top bottom amount
  | .resize lines columns => terminal.resizeFigures lines columns
  | _ => []

end VideoTerminal.Terminal
