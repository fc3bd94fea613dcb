import VideoTerminal.Session.Basic

/-!
Text that reaches a session: it is held back, or interpreted at once. A
selection stays with the cells it was made on, and a guard watches sequences
that are not finished in time.
-/

namespace VideoTerminal.Session

/-- The number of cells of the composed rows. -/
def cellCount (session : Session) : Nat :=
  session.terminal.buffer.composedSize * session.terminal.columns

/-! ## The selection follows its text -/

/-- There is no selection any more, neither finished nor in progress. -/
def dropSelection (session : Session) : Session :=
  { session with selection := none, selecting := false }

/-- Where a selection is once rows have been `evicted`; nothing when its text
is gone. -/
def shifted? (session : Session) (evicted : Nat) : Option Selection := do
  let selection ← session.selection
  let shifted ← selection.shift? (evicted * session.terminal.columns)
  if shifted.stop < session.cellCount then some shifted else none

/-- Keep the selection on its text after text was interpreted while nothing was
held back. A reset and a change of the screen take it away. -/
def followText (session : Session) (wasAlternate : Bool) : Session :=
  let (terminal, evicted) := session.terminal.takeEvicted
  let (terminal, wasReset) := terminal.takeReset
  let session := session.withTerminal terminal
  match session.selection with
  | none => session
  | some _ =>
      if wasReset ∨ terminal.onAlternate ≠ wasAlternate then session.dropSelection
      else
        match session.shifted? evicted with
        | some shifted => { session with selection := some shifted }
        | none => session.dropSelection

/-! ## The guard -/

/-- Watch the sequence being read, if there is one and a limit for it. -/
def armGuard (session : Session) : Session :=
  { session with
    guardDeadline :=
      if session.console.interpreter.isGround then none
      else session.sequenceTimeout.map (session.clock + ·) }

/-- Leave the sequence being read. -/
def abortSequence (session : Session) : Session :=
  { session with console := session.console.abort, guardDeadline := none }

/-! ## Text -/

/-- Interpret text. -/
def interpret (session : Session) (text : List Char) : Session :=
  let wasAlternate := session.terminal.onAlternate
  let (console, replies) := (session.console.feed text).takeReplies
  let answered := replies.foldl reply { session with console }
  (answered.announceTitle.followText wasAlternate).armGuard

/-- Interpret text, or hold it back. -/
def feed (session : Session) (text : List Char) : Session :=
  let (hold, passed) := session.hold.pass text
  let session := { session with hold }
  match passed with
  | some text => session.interpret text
  | none => session

/-- Hold back text from now on. -/
def freeze (session : Session) : Session :=
  { session with hold := session.hold.freeze }

/-- Lift one hold. Once the last is lifted, the text held back is
interpreted. -/
def unfreeze (session : Session) : Session :=
  let (hold, released) := session.hold.unfreeze
  let session := { session with hold }
  match released with
  | some text => session.interpret text
  | none => if session.isHeld then session else session.armGuard

end VideoTerminal.Session
