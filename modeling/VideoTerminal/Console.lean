import VideoTerminal.Control.Sequence
import VideoTerminal.Terminal.Print

/-!
A console: a terminal that reads a stream of characters. Characters to be
printed are gathered and written in one run, before anything else happens and
at the end of every piece of text.
-/

namespace VideoTerminal

/-- Where the reading of the stream stands. -/
structure Interpreter where
  phase : Phase := .ground
  parameters : Parameters := {}
  pending : Array Char := #[]
deriving DecidableEq

namespace Interpreter

/-- No sequence is being read. -/
def isGround (interpreter : Interpreter) : Bool :=
  interpreter.phase == .ground

/-- Go to a phase without parameters. -/
def enter (interpreter : Interpreter) (phase : Phase) : Interpreter :=
  { interpreter with phase, parameters := {} }

/-- Leave the sequence being read. -/
def leave (interpreter : Interpreter) : Interpreter :=
  interpreter.enter .ground

end Interpreter

/-- A terminal, the reading of its stream, and the replies it owes. -/
structure Console where
  terminal : Terminal
  interpreter : Interpreter := {}
  replies : Array Reply := #[]
deriving DecidableEq

namespace Console

def blank (lines columns historyLimit : Nat) : Console :=
  { terminal := Terminal.blank lines columns historyLimit }

/-- Write the gathered characters. -/
def flush (console : Console) : Console :=
  { console with
    terminal := console.terminal.printAll console.interpreter.pending.toList
    interpreter := { console.interpreter with pending := #[] } }

/-- Perform a control function and note what it makes the terminal report. -/
def perform (console : Console) (function : ControlFunction) : Console :=
  { console with
    replies := console.replies ++ (console.terminal.answer function).toArray
    terminal := console.terminal.perform function }

/-- Change the reading of the stream. -/
def modifyInterpreter (console : Console) (change : Interpreter → Interpreter) : Console :=
  { console with interpreter := change console.interpreter }

/-- Do what a character means. -/
def act (console : Console) (char : Char) : Action → Console
  | .ignore => console
  | .enter phase => console.modifyInterpreter fun reading => reading.enter phase
  | .proceed phase => console.modifyInterpreter fun reading => { reading with phase }
  | .collect =>
      console.modifyInterpreter fun reading =>
        { reading with parameters := reading.parameters.push char }
  | .perform function => console.perform function
  | .finish function => (console.perform function).modifyInterpreter Interpreter.leave
  | .abandon => console.modifyInterpreter Interpreter.leave

/-- Read a character. One to be printed is only gathered. -/
def advance (console : Console) (char : Char) : Console :=
  let reading := console.interpreter
  if reading.isGround && !Text.isControl char then
    console.modifyInterpreter fun current => { current with pending := current.pending.push char }
  else
    console.flush.act char (Action.ofChar reading.phase reading.parameters char)

/-- Read a piece of text and write what is to be printed of it. -/
def feed (console : Console) (text : List Char) : Console :=
  (text.foldl advance console).flush

/-- Leave the sequence being read. -/
def abort (console : Console) : Console :=
  console.flush.modifyInterpreter Interpreter.leave

/-- The replies owed; none are left. -/
def takeReplies (console : Console) : Console × List Reply :=
  ({ console with replies := #[] }, console.replies.toList)

end Console

end VideoTerminal
