/-!
Places on the screen, and the two kinds of row range that a terminal keeps.
-/

namespace VideoTerminal

/-- A column and a row of the screen, both counted from 0. -/
structure Position where
  x : Nat := 0
  y : Nat := 0
deriving DecidableEq, Inhabited

namespace Position

/-- Reading order: row by row, and by columns in a row. -/
def before (first second : Position) : Bool :=
  first.y < second.y || (first.y == second.y && first.x < second.x)

/-- The nearest position on a screen of a given size. -/
def clamp (position : Position) (columns lines : Nat) : Position :=
  ⟨min position.x (columns - 1), min position.y (lines - 1)⟩

end Position

/-- The rows that scroll, the two outermost included. -/
structure Margins where
  top : Nat := 0
  bottom : Nat
deriving DecidableEq

end VideoTerminal
