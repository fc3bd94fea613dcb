import VideoTerminal.Terminal.Position

/-!
Marks on the blinking cells of a screen, kept in reading order and each only
once, so that a blink can be drawn without a look at every cell.
-/

namespace VideoTerminal

/-- The marked positions. -/
structure BlinkMarks where
  positions : List Position := []
deriving DecidableEq

namespace BlinkMarks

/-- Insert a position into an ordered list that may hold it already. -/
def insertOrdered (position : Position) : List Position → List Position
  | [] => [position]
  | head :: rest =>
      if position = head then head :: rest
      else if position.before head then position :: head :: rest
      else head :: insertOrdered position rest

def insert (marks : BlinkMarks) (position : Position) : BlinkMarks :=
  ⟨insertOrdered position marks.positions⟩

/-- Keep the marks that satisfy `keep`. -/
def filter (marks : BlinkMarks) (keep : Position → Bool) : BlinkMarks :=
  ⟨marks.positions.filter keep⟩

def erase (marks : BlinkMarks) (position : Position) : BlinkMarks :=
  marks.filter (· != position)

/-- Take the marks off a row. -/
def eraseRow (marks : BlinkMarks) (y : Nat) : BlinkMarks :=
  marks.filter fun mark => mark.y != y

/-- Take the marks off the columns from `start` up to `stop` of a row. -/
def eraseSpan (marks : BlinkMarks) (y start stop : Nat) : BlinkMarks :=
  marks.filter fun mark => mark.y != y || mark.x < start || stop ≤ mark.x

/-- Move the marks that satisfy `moves`. They are moved one after the other in
reading order: each is taken off and put down where `target` says, if
anywhere. A mark put down on one that has not moved yet goes with it. -/
def relocate (marks : BlinkMarks) (moves : Position → Bool)
    (target : Position → Option Position) : BlinkMarks :=
  (marks.positions.filter moves).foldl
    (fun current mark =>
      let lifted := current.erase mark
      ((target mark).map lifted.insert).getD lifted)
    marks

/-- The number `n + amount`, when it is at least `low` and at most `high`. -/
def within? (low high n : Nat) (amount : Int) : Option Nat :=
  let moved := (n : Int) + amount
  if (low : Int) ≤ moved ∧ moved ≤ (high : Int) then some moved.toNat else none

/-- Move the marks of row `y` from column `start` on by `amount` columns; those
that leave the row are lost. -/
def shiftColumns (marks : BlinkMarks) (y start columns : Nat) (amount : Int) : BlinkMarks :=
  marks.relocate (fun mark => mark.y == y && start ≤ mark.x) fun mark =>
    if columns = 0 then none
    else (within? 0 (columns - 1) mark.x amount).map fun x => ⟨x, y⟩

/-- Move the marks of the rows `top` to `bottom` up by `amount` rows; those
that leave these rows are lost. -/
def shiftRows (marks : BlinkMarks) (top bottom : Nat) (amount : Int) : BlinkMarks :=
  marks.relocate (fun mark => top ≤ mark.y && mark.y ≤ bottom) fun mark =>
    (within? top bottom mark.y (-amount)).map fun y => ⟨mark.x, y⟩

end BlinkMarks

end VideoTerminal
