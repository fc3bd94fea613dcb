/-!
A selection: two ends among the cells of the composed rows, counted row by row
from the oldest. One end stays where the selection began, the other moves
until the selection is finished.
-/

namespace VideoTerminal

/-- The two ends of a selection. -/
structure Selection where
  anchor : Nat
  last : Nat
  finished : Bool := false
deriving DecidableEq

namespace Selection

/-- The selection of a single cell. -/
def single (offset : Nat) : Selection :=
  { anchor := offset, last := offset }

/-- The selection of all of `size` cells, finished; none if there are none. -/
def all? (size : Nat) : Option Selection :=
  if size = 0 then none else some { anchor := 0, last := size - 1, finished := true }

/-- The first selected cell. -/
def start (selection : Selection) : Nat :=
  min selection.anchor selection.last

/-- The last selected cell. -/
def stop (selection : Selection) : Nat :=
  max selection.anchor selection.last

/-- Move the free end, unless the selection is finished. The second part says
whether that changed it. -/
def extend (selection : Selection) (offset : Nat) : Selection × Bool :=
  if selection.finished ∨ selection.last = offset then (selection, false)
  else ({ selection with last := offset }, true)

def finish (selection : Selection) : Selection :=
  { selection with finished := true }

def contains (selection : Selection) (offset : Nat) : Bool :=
  selection.start ≤ offset && offset ≤ selection.stop

/-- Follow text that has moved `distance` cells towards the beginning; nothing
when all of it is gone. -/
def shift? (selection : Selection) (distance : Nat) : Option Selection :=
  if selection.stop < distance then none
  else
    some
      { selection with
        anchor := selection.anchor - distance
        last := selection.last - distance }

end Selection

end VideoTerminal
