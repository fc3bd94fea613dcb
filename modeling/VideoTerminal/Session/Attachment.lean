import VideoTerminal.Session.Control

/-!
Transports of a session: they are attached, drained of what they deliver, and
closed.
-/

namespace VideoTerminal.Session

open Transport

/-- Close the transport. What it delivers last is still in the mailbox. -/
def close (session : Session) : Session :=
  match session.link with
  | .detached => session
  | .channel =>
      let (channel, events) := session.channel.close
      { session with link := .detached, channel, mailbox := session.mailbox ++ events }
  | .stream => { session with link := .detached }

/-- Attach a channel in the place of what was attached before: start it and
report the size. If either fails, nothing is attached and the mailbox of the
channel has no reader. -/
def attachChannel (session : Session) (channel : Channel) :
    Session × Except Transport.Error Unit :=
  let closed := session.close
  match channel.start true with
  | .error reason => ({ closed with channel }, .error reason)
  | .ok (started, events) =>
      match started.setSize session.terminal.lines session.terminal.columns with
      | .error reason => ({ closed with channel := started.desert }, .error reason)
      | .ok channel => ({ closed with link := .channel, channel, mailbox := events }, .ok ())

/-- Attach a stream in the place of what was attached before. What is written
goes to the same sink as before. -/
def attachStream (session : Session) (reads : List Read) :
    Session × Except Transport.Error Unit :=
  let closed := session.close
  match { closed.stream with reads := some reads }.start with
  | .error reason => (closed, .error reason)
  | .ok (stream, events) => ({ closed with link := .stream, stream, mailbox := events }, .ok ())

/-- Take in one event. -/
def receive (session : Session) : Event → Session
  | .text text => session.feed text
  | .connection up => session.setConnected up

/-- Take in all that has been delivered. The second part says whether there
was anything. -/
def processOutput (session : Session) : Session × Bool :=
  (session.mailbox.foldl receive { session with mailbox := [] }, !session.mailbox.isEmpty)

/-- Deliver text from the far end of the channel. -/
def deliver (session : Session) (text : List Char) : Except Transport.Error Session := do
  let events ← session.channel.write text
  return { session with mailbox := session.mailbox ++ events }

/-- Break the connection from the far end of the channel. -/
def breakOff (session : Session) : Session :=
  let (channel, events) := session.channel.disconnect
  { session with channel, mailbox := session.mailbox ++ events }

/-- Close a session and begin another one, with the same far ends. -/
def renew (session : Session) (settings : Settings) : Except Settings.Error Session := do
  let closed := session.close
  return { ← ofSettings settings with channel := closed.channel, stream := closed.stream }

end VideoTerminal.Session
