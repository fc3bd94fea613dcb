import VideoTerminal.Console.Input
import VideoTerminal.Session.Attachment

/-!
What is done with a session, by its host or by the remote side, and the figures
that are worked out on the way: those of the text that is interpreted, and the
places and the number of the cells that can be selected.
-/

namespace VideoTerminal.Session

open Transport

/-- What a host may do with the text and the selection, and the polling of the
timers. -/
inductive Call where
  | feed (text : List Char)
  | freeze
  | unfreeze
  | startSelection (x y : Nat)
  | extendSelection (x y : Nat)
  | endSelection
  | selectAll
  | clearSelection
  | pollTimers (now : Nat)

/-- The session after a call. -/
def call (session : Session) : Call → Session
  | .feed text => session.feed text
  | .freeze => session.freeze
  | .unfreeze => session.unfreeze
  | .startSelection x y => (session.startSelection x y).1
  | .extendSelection x y => (session.extendSelection x y).1
  | .endSelection => session.endSelection
  | .selectAll => session.selectAll
  | .clearSelection => session.clearSelection
  | .pollTimers now => session.pollTimers now

/-- The session after some calls, each made at its own time. -/
def calls (session : Session) (made : List (Nat × Call)) : Session :=
  made.foldl (fun current (now, made) => (current.atTime now).call made) session

/-- What the host does with a session, or the remote side, which leaves its
transports in any state and puts events into the mailbox. -/
inductive Act where
  | call (made : Call)
  | abortSequence
  | resize (lines columns : Nat)
  | reset
  | takeDamage
  | takeNotices
  | send (text : String)
  | sendKey (press : KeyPress)
  | attachChannel (channel : Channel)
  | attachStream (reads : List Read)
  | close
  | processOutput
  | remote (channel : Channel) (stream : ByteStream) (events : List Event)

/-- The session after something was done with it. -/
def act (session : Session) : Act → Session
  | .call made => session.call made
  | .abortSequence => session.abortSequence
  | .resize lines columns => (session.resize lines columns).1
  | .reset => session.reset
  | .takeDamage => session.takeDamage.1
  | .takeNotices => session.takeNotices.1
  | .send text => (session.send text).1
  | .sendKey press => (session.sendKey press).1
  | .attachChannel channel => (session.attachChannel channel).1
  | .attachStream reads => (session.attachStream reads).1
  | .close => session.close
  | .processOutput => session.processOutput.1
  | .remote channel stream events =>
      { session with channel, stream, mailbox := session.mailbox ++ events }

/-- The session after some acts, each done at its own time. -/
def acts (session : Session) (done : List (Nat × Act)) : Session :=
  done.foldl (fun current (now, act) => (current.atTime now).act act) session

/-! ## Figures of text -/

/-- The figure behind the number of cells. -/
def cellFigure (session : Session) : Figure :=
  .product session.terminal.buffer.composedSize session.terminal.columns

/-- The figures of keeping the selection on its text. -/
def followFigures (session : Session) (wasAlternate : Bool) : List Figure :=
  match session.selection with
  | none => []
  | some _ =>
      if session.terminal.wasReset ∨ session.terminal.onAlternate ≠ wasAlternate then []
      else [session.cellFigure, .product session.terminal.evicted session.terminal.columns]

/-- The figures of interpreting text. -/
def interpretFigures (session : Session) (text : List Char) : List Figure :=
  let read := { session with console := session.console.feed text }
  session.console.textFigures text ++ read.followFigures session.terminal.onAlternate

/-- The figures of text that is interpreted or held back. -/
def feedFigures (session : Session) (text : List Char) : List Figure :=
  if session.isHeld then [] else session.interpretFigures text

/-- The figures of lifting a hold. -/
def unfreezeFigures (session : Session) : List Figure :=
  match session.hold.unfreeze.2 with
  | some text => session.interpretFigures text
  | none => []

/-- The figures of leaving the sequence being read. -/
def abortFigures (session : Session) : List Figure :=
  session.console.flushFigures

/-! ## Figures of the selection -/

/-- The figures of the place of a cell, which may be named by any column and
row. -/
def offsetFigures (session : Session) (x y : Nat) : List Figure :=
  let columns := session.terminal.columns
  [.product y columns, .sum (min x (columns - 1)) (y * columns), session.cellFigure]

/-- The figures of a selection that is no longer in progress. -/
def releaseFigures (session : Session) : List Figure :=
  if session.selecting then session.unfreezeFigures else []

def clearSelectionFigures (session : Session) : List Figure :=
  releaseFigures { session with selection := none }

def startSelectionFigures (session : Session) (x y : Nat) : List Figure :=
  if session.selection.isSome then session.clearSelectionFigures else session.offsetFigures x y

/-! ## Figures of calls and acts -/

/-- The figures of polling the timers. -/
def pollFigures (session : Session) (now : Nat) : List Figure :=
  match session.guardDeadline with
  | some deadline => if deadline ≤ now ∧ !session.isHeld then session.abortFigures else []
  | none => []

/-- The figures of a call. A free end that is moved is placed even if there is
no selection. -/
def callFigures (session : Session) : Call → List Figure
  | .feed text => session.feedFigures text
  | .freeze => []
  | .unfreeze => session.unfreezeFigures
  | .startSelection x y => session.startSelectionFigures x y
  | .extendSelection x y => session.offsetFigures x y
  | .endSelection => session.releaseFigures
  | .selectAll => session.releaseFigures ++ [session.release.cellFigure]
  | .clearSelection => session.clearSelectionFigures
  | .pollTimers now => session.pollFigures now

/-- The figures of a new size. -/
def resizeFigures (session : Session) (lines columns : Nat) : List Figure :=
  match session.terminal.resize? lines columns with
  | none => []
  | some terminal =>
      session.terminal.resizeFigures lines columns ++
        (session.withTerminal terminal).clearSelectionFigures

/-- The figures of taking in one event. -/
def eventFigures (session : Session) : Event → List Figure
  | .text text => session.feedFigures text
  | .connection _ => []

/-- The figures of taking in some events. -/
def outputFigures (session : Session) : List Event → List Figure
  | [] => []
  | event :: rest => session.eventFigures event ++ (session.receive event).outputFigures rest

/-- The figures of something that is done with the session. -/
def actFigures (session : Session) : Act → List Figure
  | .call made => session.callFigures made
  | .abortSequence => session.abortFigures
  | .resize lines columns => session.resizeFigures lines columns
  | .processOutput => outputFigures { session with mailbox := [] } session.mailbox
  | _ => []

/-- The session after something was done with it, unless the program stops. -/
def actInWords (session : Session) (done : Act) : Except Figure Session :=
  inWords (session.actFigures done) (session.act done)

end VideoTerminal.Session
