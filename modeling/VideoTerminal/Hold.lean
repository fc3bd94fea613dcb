/-!
Holding text back. While somebody must not see the screen change, text is
parked; holds nest, and the last one lifted gives the text back in the order
in which it came.
-/

namespace VideoTerminal

/-- The holds in force and the text parked under them. -/
structure Hold where
  depth : Nat := 0
  parked : List Char := []
deriving DecidableEq

namespace Hold

/-- Text is being held back. -/
def isHeld (hold : Hold) : Bool :=
  hold.depth > 0

/-- Add a hold. -/
def freeze (hold : Hold) : Hold :=
  { hold with depth := hold.depth + 1 }

/-- Lift a hold, if there is one. The last one gives the parked text back,
unless there is none. -/
def unfreeze (hold : Hold) : Hold × Option (List Char) :=
  if hold.depth = 1 ∧ hold.parked ≠ [] then ({}, some hold.parked)
  else ({ hold with depth := hold.depth - 1 }, none)

/-- Let text through, or park it. -/
def pass (hold : Hold) (text : List Char) : Hold × Option (List Char) :=
  if hold.isHeld then ({ hold with parked := hold.parked ++ text }, none)
  else (hold, some text)

/-- The size of the parked text in UTF-8. -/
def parkedSize (hold : Hold) : Nat :=
  hold.parked.foldl (fun size char => size + char.utf8Size) 0

end Hold

end VideoTerminal
