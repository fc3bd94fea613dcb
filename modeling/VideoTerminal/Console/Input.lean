import VideoTerminal.Console
import VideoTerminal.Terminal.Request

/-!
What a console takes in, step by step: text, as the remote side sends it, and
requests of whoever owns the terminal. A step stops the program at the first of
its figures that does not fit in a machine word.
-/

namespace VideoTerminal.Console

/-- One step of a run: a piece of text, a single character of one, the end of
one, the end of a sequence that was broken off, or a request to the terminal. -/
inductive Input where
  | text (chars : List Char)
  | char (char : Char)
  | flush
  | abort
  | request (request : Terminal.Request)

/-- The console after one step of a run. -/
def receive (console : Console) : Input → Console
  | .text chars => console.feed chars
  | .char char => console.advance char
  | .flush => console.flush
  | .abort => console.abort
  | .request request => { console with terminal := console.terminal.serve request }

/-- The console after a run. -/
def run (console : Console) (inputs : List Input) : Console :=
  inputs.foldl receive console

/-! ## Figures -/

/-- The figures of writing the gathered characters. -/
def flushFigures (console : Console) : List Figure :=
  console.terminal.printFigures console.interpreter.pending.toList

/-- The figures of what a character does. A report comes before the function
that makes it. -/
def actFigures (console : Console) : Action → List Figure
  | .perform function | .finish function =>
      console.terminal.answerFigures function ++ console.terminal.performFigures function
  | _ => []

/-- The figures of reading a character. -/
def charFigures (console : Console) (char : Char) : List Figure :=
  let reading := console.interpreter
  if reading.isGround && !Text.isControl char then []
  else
    console.flushFigures ++
      console.flush.actFigures (Action.ofChar reading.phase reading.parameters char)

/-- The figures of reading a piece of text and writing what is to be printed of
it. -/
def textFigures (console : Console) : List Char → List Figure
  | [] => console.flushFigures
  | char :: rest => console.charFigures char ++ (console.advance char).textFigures rest

/-- The figures of one step of a run. -/
def receiveFigures (console : Console) : Input → List Figure
  | .text chars => console.textFigures chars
  | .char char => console.charFigures char
  | .flush | .abort => console.flushFigures
  | .request request => console.terminal.serveFigures request

/-- The figures of a run. -/
def runFigures (console : Console) : List Input → List Figure
  | [] => []
  | input :: rest => console.receiveFigures input ++ (console.receive input).runFigures rest

/-! ## Steps that may stop -/

/-- The console after one step of a run, unless the program stops. -/
def receiveInWords (console : Console) (input : Input) : Except Figure Console :=
  inWords (console.receiveFigures input) (console.receive input)

/-- The console after a run, unless the program stops in one of its steps. -/
def runInWords (console : Console) (inputs : List Input) : Except Figure Console :=
  inputs.foldlM receiveInWords console

end VideoTerminal.Console
