import VideoTerminal.Transport.Event

/-!
A channel: a transport within the program, with a near end for the terminal
and a far end that plays the remote side. Each operation gives the events that
it puts into the mailbox that the near end was started with.
-/

namespace VideoTerminal.Transport

/-- The mailbox of a channel: none yet or no more, one that is read, or one
whose reader is gone. -/
inductive Outlet where
  | closed
  | listening
  | deserted
deriving DecidableEq

/-- Operations of the near end that fail without doing anything. -/
structure Refusals where
  start : Bool := false
  send : Bool := false
  resize : Bool := false
deriving DecidableEq

/-- The state shared by the two ends. -/
structure Channel where
  outlet : Outlet := .closed
  connected : Bool := false
  sent : List (List Char) := []
  size : Option (Nat × Nat) := none
  refuses : Refusals := {}
deriving DecidableEq

namespace Channel

/-- The events that arrive in the mailbox when `events` are put into it. -/
def delivered (channel : Channel) (events : List Event) : List Event :=
  match channel.outlet with
  | .listening => events
  | .closed | .deserted => []

/-! ## The near end -/

/-- Start with a mailbox, which must be read by somebody. -/
def start (channel : Channel) (listening : Bool) : Except Error (Channel × List Event) :=
  if channel.refuses.start || !listening then .error .disconnected
  else
    .ok ({ channel with outlet := .listening, connected := true }, [.connection true])

/-- Close the connection and let go of the mailbox. -/
def close (channel : Channel) : Channel × List Event :=
  ({ channel with outlet := .closed, connected := false },
    channel.delivered [.connection false])

/-- Send text to the far end. -/
def send (channel : Channel) (text : List Char) : Except Error Channel :=
  if channel.refuses.send then .error .disconnected
  else if channel.outlet = .closed then .error .notStarted
  else if !channel.connected then .error .disconnected
  else .ok { channel with sent := channel.sent ++ [text] }

/-- Report the size of the screen. -/
def setSize (channel : Channel) (lines columns : Nat) : Except Error Channel :=
  if channel.refuses.resize then .error .disconnected
  else .ok { channel with size := some (lines, columns) }

/-! ## The far end -/

/-- Deliver text to the terminal. -/
def write (channel : Channel) (text : List Char) : Except Error (List Event) :=
  match channel.outlet with
  | .closed => .error .notStarted
  | .deserted => .error .disconnected
  | .listening => if channel.connected then .ok [.text text] else .error .disconnected

/-- Break the connection from the far end. -/
def disconnect (channel : Channel) : Channel × List Event :=
  if channel.connected then
    ({ channel with connected := false }, channel.delivered [.connection false])
  else (channel, [])

/-- The texts that were sent since they were last taken. -/
def takeSent (channel : Channel) : Channel × List (List Char) :=
  ({ channel with sent := [] }, channel.sent)

/-- The reader of the mailbox is gone. -/
def desert (channel : Channel) : Channel :=
  match channel.outlet with
  | .listening => { channel with outlet := .deserted }
  | .closed | .deserted => channel

end Channel

end VideoTerminal.Transport
