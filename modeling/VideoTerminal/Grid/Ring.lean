/-!
A ring: a sequence whose storage may begin anywhere, so that its oldest item
can give its place to a new last one without moving the others. The view
`toList` is the sequence itself, the oldest item first.
-/

namespace VideoTerminal

/-- A sequence stored from the slot `start` on, and from the first slot again
after the last. -/
structure Ring (alpha : Type) where
  slots : Array alpha
  start : Nat := 0
deriving DecidableEq

namespace Ring

variable {alpha : Type}

/-- The sequence, oldest item first. -/
def toList (ring : Ring alpha) : List alpha :=
  ring.slots.toList.drop ring.start ++ ring.slots.toList.take ring.start

def ofList (items : List alpha) : Ring alpha :=
  { slots := items.toArray }

def size (ring : Ring alpha) : Nat :=
  ring.slots.size

/-- The slot of an item, counted from the oldest. -/
def slot (ring : Ring alpha) (index : Nat) : Nat :=
  (ring.start + index) % ring.slots.size

def get? (ring : Ring alpha) (index : Nat) : Option alpha :=
  ring.slots[ring.slot index]?

/-- Change one item. -/
def modify (ring : Ring alpha) (index : Nat) (change : alpha → alpha) : Ring alpha :=
  { ring with slots := ring.slots.modify (ring.slot index) change }

/-- Exchange two items. -/
def swap (ring : Ring alpha) (first second : Nat) : Ring alpha :=
  { ring with
    slots := ring.slots.swapIfInBounds (ring.slot first) (ring.slot second) }

/-- Add an item after the last slot, which is the end of a sequence that is
stored from the first slot on. -/
def push (ring : Ring alpha) (item : alpha) : Ring alpha :=
  { ring with slots := ring.slots.push item }

/-- Change the oldest item and make it the last one. -/
def recycle (ring : Ring alpha) (change : alpha → alpha) : Ring alpha :=
  { slots := ring.slots.modify ring.start change
    start := (ring.start + 1) % ring.slots.size }

/-- Keep only the last `count` items. -/
def keepLast (ring : Ring alpha) (count : Nat) : Ring alpha :=
  ofList (ring.toList.drop (ring.size - count))

end Ring

end VideoTerminal
