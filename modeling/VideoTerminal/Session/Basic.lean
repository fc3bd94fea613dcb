import VideoTerminal.Console
import VideoTerminal.Hold
import VideoTerminal.Keyboard.KeyPress
import VideoTerminal.Selection
import VideoTerminal.Settings.Basic
import VideoTerminal.Transport.ByteStream
import VideoTerminal.Transport.Channel

/-!
A session: a console that is connected with a remote side and watched by a
host. Replies go to the remote side; the host is told of them, of new titles
and of the state of the connection.
-/

namespace VideoTerminal

open Transport

/-- What the host is told. -/
inductive Notice where
  | reply (text : String)
  | title (title : String)
  | connection (up : Bool)
deriving DecidableEq

/-- The kind of transport that a session sends to, if any. -/
inductive Link where
  | detached
  | channel
  | stream
deriving DecidableEq

/-- A session. A selection in progress holds text back. The channel and the
stream that were attached last stay when the link is gone, as their far ends
may still be looked at. All times are in milliseconds. -/
structure Session where
  console : Console
  hold : Hold := {}
  link : Link := .detached
  channel : Channel := {}
  stream : ByteStream := {}
  mailbox : List Event := []
  connected : Bool := false
  notices : List Notice := []
  selection : Option Selection := none
  selecting : Bool := false
  clock : Nat := 0
  sequenceTimeout : Option Nat := none
  guardDeadline : Option Nat := none
  blinkPeriod : Option Nat := none
  blinkDeadline : Option Nat := none
  blinkOn : Bool := true

namespace Session

/-- A period of some milliseconds; none if there are none. -/
def period? (milliseconds : Nat) : Option Nat :=
  if milliseconds = 0 then none else some milliseconds

/-- A blank terminal with the given settings. -/
def blankTerminal (settings : Settings) (palette : Palette) : Terminal :=
  { Terminal.blank settings.lines settings.columns settings.historyLimit with
    palette
    title := settings.title
    blinkIsBold := settings.blinkIsBold
    cursorAlwaysBlinks := settings.cursorAlwaysBlinks
    cellSize := { width := settings.cellWidth, height := settings.cellHeight } }

/-- A session at time zero, if a terminal can have the settings. -/
def ofSettings (settings : Settings) : Except Settings.Error Session := do
  let valid ← settings.validate
  let palette ← valid.fullPalette
  let blinkPeriod := period? valid.blinkPeriod
  return {
    console := { terminal := blankTerminal valid palette }
    sequenceTimeout := period? valid.sequenceTimeout
    blinkPeriod
    blinkDeadline := blinkPeriod }

def terminal (session : Session) : Terminal :=
  session.console.terminal

/-- Change the terminal. -/
def withTerminal (session : Session) (terminal : Terminal) : Session :=
  { session with console := { session.console with terminal } }

/-- The same session at another time. -/
def atTime (session : Session) (now : Nat) : Session :=
  { session with clock := now }

/-- Text is being held back. -/
def isHeld (session : Session) : Bool :=
  session.hold.isHeld

/-! ## What the host is told -/

def notify (session : Session) (notice : Notice) : Session :=
  { session with notices := session.notices ++ [notice] }

/-- What the host has not been told yet; it is then told. -/
def takeNotices (session : Session) : Session × List Notice :=
  ({ session with notices := [] }, session.notices)

/-- Note the state of the connection, and tell the host when it changes. -/
def setConnected (session : Session) (up : Bool) : Session :=
  if session.connected = up then session
  else { session with connected := up }.notify (.connection up)

/-- Tell the host when the terminal has a new title. -/
def announceTitle (session : Session) : Session :=
  let (terminal, title) := session.terminal.takeTitle
  let session := session.withTerminal terminal
  match title with
  | some title => session.notify (.title title)
  | none => session

/-! ## What the remote side is sent -/

/-- Hand text to the transport. -/
def handOver (session : Session) (text : List Char) : Except Transport.Error Session :=
  match session.link with
  | .detached => .error .notStarted
  | .channel => do return { session with channel := ← session.channel.send text }
  | .stream => do return { session with stream := ← session.stream.send text }

/-- Send text to the remote side. A transport that cannot send it counts as
disconnected. The second part says whether the text was sent. -/
def send (session : Session) (text : String) : Session × Bool :=
  match session.handOver text.toList with
  | .ok sent => (sent, true)
  | .error _ =>
      (if session.link = .detached then session else session.setConnected false, false)

/-- Send what a key press stands for, if anything. -/
def sendKey (session : Session) (press : KeyPress) : Session × Bool :=
  match press.text? session.terminal.modes with
  | some text => session.send text
  | none => (session, false)

/-- Send a reply and tell the host of it. -/
def reply (session : Session) (reply : Reply) : Session :=
  (session.send reply.text).1.notify (.reply reply.text)

end Session

end VideoTerminal
