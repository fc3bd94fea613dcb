/-!
Damage: what has to be drawn again. It is gathered as one range of columns for
each row until it is taken, or as the whole screen.
-/

namespace VideoTerminal

/-- The columns from `start` up to `stop`. -/
structure Span where
  start : Nat
  stop : Nat
deriving DecidableEq

namespace Span

/-- The smallest span that holds two others. -/
def union (first second : Span) : Span :=
  ⟨min first.start second.start, max first.stop second.stop⟩

end Span

/-- What has to be drawn again: everything, or one span for some of the rows. -/
inductive Damage where
  | full
  | spans (spans : List (Nat × Span))
deriving DecidableEq

namespace Damage

/-- Nothing has to be drawn again. -/
def isEmpty : Damage → Bool
  | full => false
  | spans found => found.isEmpty

end Damage

/-- The damage gathered so far. -/
structure DamageLog where
  full : Bool := true
  rows : List (Option Span)
deriving DecidableEq

namespace DamageLog

/-- A screen of which nothing is drawn yet. -/
def fresh (lines : Nat) : DamageLog :=
  { rows := List.replicate lines none }

/-- Add the columns from `start` up to `stop` of one row. -/
def mark (log : DamageLog) (y start stop : Nat) : DamageLog :=
  if log.full ∨ start ≥ stop then log
  else
    { log with
      rows :=
        log.rows.modify y fun row =>
          some ((row.map fun span => span.union ⟨start, stop⟩).getD ⟨start, stop⟩) }

/-- Add the rows `top` to `bottom`. -/
def markRows (log : DamageLog) (top bottom columns : Nat) : DamageLog :=
  (List.range (bottom + 1 - top)).foldl
    (fun current k => current.mark (top + k) 0 columns) log

/-- Add everything. -/
def markAll (log : DamageLog) : DamageLog :=
  { log with full := true }

/-- The spans by row, the first row being row `y`. -/
def spansFrom (y : Nat) : List (Option Span) → List (Nat × Span)
  | [] => []
  | none :: rest => spansFrom (y + 1) rest
  | some span :: rest => (y, span) :: spansFrom (y + 1) rest

/-- The damage so far; nothing is left of it. -/
def take (log : DamageLog) : DamageLog × Damage :=
  ({ full := false, rows := log.rows.map fun _ => none },
    if log.full then .full else .spans (spansFrom 0 log.rows))

end DamageLog

end VideoTerminal
