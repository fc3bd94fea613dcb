import VideoTerminal.Session.Selecting

/-!
What the host does with a session as a whole: its size, its reset, and its
timers. The host asks for the next deadline and polls the timers then.
-/

namespace VideoTerminal.Session

/-- Report the size of the screen to the transport. -/
def reportSize (session : Session) (lines columns : Nat) : Except Transport.Error Session :=
  match session.link with
  | .detached | .stream => .ok session
  | .channel => do return { session with channel := ← session.channel.setSize lines columns }

/-- Give the terminal another size. The second part says whether that is
another one and has cells; if not, nothing happens. -/
def resize (session : Session) (lines columns : Nat) : Session × Bool :=
  match session.terminal.resize? lines columns with
  | none => (session, false)
  | some terminal =>
      let resized := { session.withTerminal terminal with guardDeadline := none }.clearSelection
      match resized.reportSize lines columns with
      | .ok reported => (reported, true)
      | .error _ => (resized, true)

/-- Reset the terminal and the reading of its stream. Text that was held back
is lost. -/
def reset (session : Session) : Session :=
  let terminal := session.terminal.reset.takeReset.1
  { session with
    console := { session.console with terminal, interpreter := {} }
    hold := {}
    selection := none
    selecting := false
    guardDeadline := none }

/-! ## Timers -/

/-- Leave a sequence that has not been finished in time, unless text is being
held back. -/
def pollGuard (session : Session) (now : Nat) : Session :=
  match session.guardDeadline with
  | some deadline =>
      if deadline ≤ now ∧ !session.isHeld then session.abortSequence else session
  | none => session

/-- Turn blinking content on or off when it is time to. -/
def pollBlink (session : Session) (now : Nat) : Session :=
  match session.blinkDeadline, session.blinkPeriod with
  | some deadline, some period =>
      if deadline ≤ now then
        { session.withTerminal session.terminal.markBlink with
          blinkOn := !session.blinkOn, blinkDeadline := some (now + period) }
      else session
  | _, _ => session

/-- Run the timers that are due. -/
def pollTimers (session : Session) (now : Nat) : Session :=
  (session.pollGuard now).pollBlink now

/-- The earliest time at which a timer has something to do. -/
def nextDeadline (session : Session) : Option Nat :=
  let guard := if session.isHeld then none else session.guardDeadline
  match guard, session.blinkDeadline with
  | some first, some second => some (min first second)
  | some first, none => some first
  | none, second => second

/-- Take what has to be drawn again. -/
def takeDamage (session : Session) : Session × Damage :=
  let (terminal, damage) := session.terminal.takeDamage
  (session.withTerminal terminal, damage)

end VideoTerminal.Session
