import VideoTerminal.Text.Numeral

/-!
Figures worked out in machine words. Most of them count rows or cells that are
stored, and fit. A sum or a product with a number from outside may not: the
limit of the history, the size of a cell in pixels, the place of a click. The
program stops at the first figure that does not fit.
-/

namespace VideoTerminal

/-- A figure that the program works out in a machine word. -/
inductive Figure where
  | sum (first second : Nat)
  | product (first second : Nat)
deriving DecidableEq

namespace Figure

/-- The number that the figure stands for. -/
def value : Figure → Nat
  | sum first second => first + second
  | product first second => first * second

/-- A machine word can hold the number. -/
def Fits (figure : Figure) : Prop :=
  figure.value < Text.wordSize

instance : DecidablePred Fits :=
  fun _ => inferInstanceAs (Decidable (_ < _))

/-- What the program says when it stops at the figure. -/
def message : Figure → String
  | sum _ _ => "attempt to add with overflow"
  | product _ _ => "attempt to multiply with overflow"

end Figure

/-- What a call gives on the way to which some figures are worked out, in this
order: its result, or the figure at which the program stops. -/
def inWords {Result : Type} (figures : List Figure) (result : Result) : Except Figure Result :=
  match figures.find? fun figure => ¬figure.Fits with
  | some figure => .error figure
  | none => .ok result

end VideoTerminal
