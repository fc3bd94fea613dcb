import VideoTerminal.Terminal.Basic

/-!
Scrolling: every vertical movement of what is on the screen.
-/

namespace VideoTerminal.Terminal

/-- Scroll the whole main screen up by `count` rows, which become history. -/
def advance (terminal : Terminal) (fill : Cell) : Nat → Terminal
  | 0 => terminal
  | count + 1 =>
      let (buffer, lost) := terminal.buffer.advance fill
      advance
        { terminal with
          buffer
          evicted := if lost then terminal.evicted + 1 else terminal.evicted }
        fill count

/-- The place of the drawn cursor after its row has moved up by `amount`, held
back at the rows `top` and `bottom`. -/
def followScroll (top bottom : Nat) (amount : Int) (drawn : Position) : Position :=
  if top ≤ drawn.y ∧ drawn.y ≤ bottom then
    { drawn with y := (max (top : Int) (min ((drawn.y : Int) - amount) bottom)).toNat }
  else drawn

/-- Move the rows `top` to `bottom` by `amount`, up when it is positive. Only
the whole main screen scrolled up gives rows to the history. -/
def scroll (terminal : Terminal) (top bottom : Nat) (amount : Int) : Terminal :=
  if amount = 0 ∨ top > bottom ∨ bottom ≥ terminal.lines then terminal
  else
    let height : Int := (bottom - top + 1 : Nat)
    let amount := max (-height) (min amount height)
    let fill := terminal.fill
    let whole := !terminal.onAlternate && top == 0 && bottom == terminal.lines - 1
    let moved :=
      if whole ∧ amount > 0 then terminal.advance fill amount.toNat
      else { terminal with buffer := terminal.buffer.scrollRows top bottom amount fill }
    let marked := moved.modifyBlink fun marks => marks.shiftRows top bottom amount
    { marked with
      drawnCursor := marked.drawnCursor.map (followScroll top bottom amount)
      damage := marked.damage.markRows top bottom marked.columns }

/-- Move the cursor down a row, scrolling at the bottom margin. The second part
says whether anything moved. -/
def index (terminal : Terminal) : Terminal × Bool :=
  let margins := terminal.margins
  if terminal.cursor.y = margins.bottom then
    (terminal.scroll margins.top margins.bottom 1, true)
  else if terminal.cursor.y + 1 < terminal.lines then
    ({ terminal with cursor := { terminal.cursor with y := terminal.cursor.y + 1 } }, true)
  else (terminal, false)

/-- Move the cursor up a row, scrolling down at the top margin. -/
def reverseIndex (terminal : Terminal) : Terminal :=
  let margins := terminal.margins
  if terminal.cursor.y = margins.top then terminal.scroll margins.top margins.bottom (-1)
  else { terminal with cursor := { terminal.cursor with y := terminal.cursor.y - 1 } }

/-- The cursor is between the margins. -/
def insideMargins (terminal : Terminal) : Bool :=
  terminal.margins.top ≤ terminal.cursor.y && terminal.cursor.y ≤ terminal.margins.bottom

/-- More lines than the screen has count as all of them. -/
def clampLines (terminal : Terminal) (count : Nat) : Nat :=
  min count terminal.lines

/-- Scroll from the cursor down by `amount`, between the margins only, and
return to the first column. -/
def shiftLines (terminal : Terminal) (amount : Int) : Terminal :=
  if terminal.insideMargins then
    let moved := terminal.scroll terminal.cursor.y terminal.margins.bottom amount
    { moved with cursor := { moved.cursor with x := 0 } }
  else terminal

def insertLines (terminal : Terminal) (count : Nat) : Terminal :=
  terminal.shiftLines (-(terminal.clampLines count : Int))

def deleteLines (terminal : Terminal) (count : Nat) : Terminal :=
  terminal.shiftLines (terminal.clampLines count)

def scrollUp (terminal : Terminal) (count : Nat) : Terminal :=
  terminal.scroll terminal.margins.top terminal.margins.bottom (terminal.clampLines count)

def scrollDown (terminal : Terminal) (count : Nat) : Terminal :=
  terminal.scroll terminal.margins.top terminal.margins.bottom
    (-(terminal.clampLines count : Int))

end VideoTerminal.Terminal
