import Mathlib.Data.List.Chain
import VideoTerminal.Proofs.Decoding
import VideoTerminal.Proofs.Hosting

/-!
What comes through a channel. Text that the far end has written is in one of
three places, in the order in which it was written: read by the terminal, held
back, or still in the mailbox. The host is told of the connection each time
that it changes, and only then.
-/

namespace VideoTerminal

open Transport

namespace Transport.Channel

/-- The far end can write. -/
def isOpen (channel : Channel) : Bool :=
  channel.outlet == .listening && channel.connected

theorem isOk_write (channel : Channel) (text : List Char) :
    (channel.write text).isOk = channel.isOpen := by
  unfold write isOpen
  cases channel.outlet with
  | closed | deserted => rfl
  | listening => cases channel.connected <;> rfl

theorem isOpen_of_closed {channel : Channel} (closed : channel.outlet = .closed) :
    channel.isOpen = false := by
  rw [isOpen, closed]
  rfl

theorem write_of_open {channel : Channel} (isOpen : channel.isOpen = true) (text : List Char) :
    channel.write text = .ok [.text text] := by
  rw [Channel.isOpen, Bool.and_eq_true, beq_iff_eq] at isOpen
  rw [write, isOpen.1]
  exact if_pos isOpen.2

/-- Breaking the connection brings no text. -/
theorem disconnect_spec (channel : Channel) :
    channel.disconnect.1.isOpen = false ∧ channel.disconnect.1.outlet = channel.outlet ∧
      channel.disconnect.2.flatMap Event.chars = [] := by
  unfold disconnect
  split
  · refine ⟨Bool.and_false _, rfl, ?_⟩
    unfold delivered
    dsimp only
    split <;> rfl
  · next down =>
      refine ⟨?_, rfl, rfl⟩
      rw [isOpen, eq_false_of_ne_true down, Bool.and_false]

theorem close_spec (channel : Channel) :
    channel.close.1.outlet = .closed ∧ channel.close.2.flatMap Event.chars = [] := by
  unfold close delivered
  refine ⟨rfl, ?_⟩
  dsimp only
  split <;> rfl

end Transport.Channel

namespace Session

/-! ## Exchanges -/

/-- What the host and the far end of a channel do while it is attached. -/
inductive Exchange where
  | write (text : List Char)
  | disconnect
  | processOutput
  | freeze
  | unfreeze
  | send (text : String)
  | close

/-- The exchange ends the connection. -/
def Exchange.cuts : Exchange → Bool
  | .disconnect | .close => true
  | .write _ | .processOutput | .freeze | .unfreeze | .send _ => false

/-- The session after an exchange. Text that cannot be written does nothing. -/
def exchange (session : Session) : Exchange → Session
  | .write text => (session.deliver text).toOption.getD session
  | .disconnect => session.breakOff
  | .processOutput => session.processOutput.1
  | .freeze => session.freeze
  | .unfreeze => session.unfreeze
  | .send text => (session.send text).1
  | .close => session.close

/-- The session after some exchanges, each at its own time. -/
def exchanges (session : Session) (made : List (Nat × Exchange)) : Session :=
  made.foldl (fun current (now, each) => (current.atTime now).exchange each) session

/-- The text that the far end has written with an exchange. -/
def accepted (session : Session) : Exchange → List Char
  | .write text => if (session.deliver text).isOk then text else []
  | .disconnect | .processOutput | .freeze | .unfreeze | .send _ | .close => []

/-- The text that the far end has written, all in all. -/
def written (session : Session) : List (Nat × Exchange) → List Char
  | [] => []
  | (now, each) :: rest =>
      (session.atTime now).accepted each ++ ((session.atTime now).exchange each).written rest

/-- The text that waits in the mailbox. -/
def queued (session : Session) : List Char :=
  session.mailbox.flatMap Event.chars

/-- The changes of the connection that the host has been told of. -/
def connections (session : Session) : List Bool :=
  session.notices.filterMap fun
    | .connection up => some up
    | .reply _ | .title _ => none

/-- The host has been told of every change of the connection, which was down in
the beginning. -/
structure Informed (session : Session) : Prop where
  alternating : (false :: session.connections).IsChain (· ≠ ·)
  last_eq : (false :: session.connections).getLast? = some session.connected

variable {first second third session fresh : Session}

/-! ## What interpretation leaves alone -/

/-- Neither the mailbox nor the state of the channel has changed, and if the
host has been told of every change of the connection it still has. -/
structure KeepsLine (first second : Session) : Prop where
  mailbox_eq : second.mailbox = first.mailbox
  link_eq : second.link = first.link
  outlet_eq : second.channel.outlet = first.channel.outlet
  open_eq : second.channel.isOpen = first.channel.isOpen
  informed : first.Informed → second.Informed

namespace KeepsLine

theorem refl (session : Session) : session.KeepsLine session :=
  ⟨rfl, rfl, rfl, rfl, id⟩

theorem trans (before : first.KeepsLine second) (after : second.KeepsLine third) :
    first.KeepsLine third where
  mailbox_eq := after.mailbox_eq.trans before.mailbox_eq
  link_eq := after.link_eq.trans before.link_eq
  outlet_eq := after.outlet_eq.trans before.outlet_eq
  open_eq := after.open_eq.trans before.open_eq
  informed := fun informed => after.informed (before.informed informed)

/-- The host is told when the connection changes, and the notice differs from
the one before. -/
theorem setConnected (session : Session) (up : Bool) :
    session.KeepsLine (session.setConnected up) := by
  unfold Session.setConnected
  split
  · exact refl session
  · next changed =>
      refine ⟨rfl, rfl, rfl, rfl, fun informed => ?_⟩
      have told :
          ({ session with connected := up }.notify (.connection up)).connections =
            session.connections ++ [up] := by
        simp [connections, notify]
      refine ⟨?_, ?_⟩
      · rw [told, ← List.cons_append]
        refine informed.alternating.append (List.isChain_singleton up) ?_
        intro before isLast after isFirst
        rw [informed.last_eq] at isLast
        cases isLast
        cases isFirst
        exact changed
      · rw [told, ← List.cons_append, List.getLast?_concat]
        rfl

theorem handOver
    {text : List Char} {sent : Session}
    (handed : session.handOver text = .ok sent) :
    session.KeepsLine sent := by
  unfold Session.handOver at handed
  split at handed
  · cases handed
  · cases sending : session.channel.send text with
    | error reason =>
        rw [sending] at handed
        cases handed
    | ok channel =>
        rw [sending] at handed
        cases handed
        have same : channel = { session.channel with sent := session.channel.sent ++ [text] } := by
          unfold Channel.send at sending
          split at sending
          · cases sending
          · split at sending
            · cases sending
            · split at sending
              · cases sending
              · exact (Except.ok.inj sending).symm
        subst same
        exact ⟨rfl, rfl, rfl, rfl, fun informed => { informed with }⟩
  · cases sending : session.stream.send text with
    | error reason =>
        rw [sending] at handed
        cases handed
    | ok stream =>
        rw [sending] at handed
        cases handed
        exact ⟨rfl, rfl, rfl, rfl, fun informed => { informed with }⟩

theorem send (session : Session) (text : String) : session.KeepsLine (session.send text).1 := by
  unfold Session.send
  split
  · next handed => exact handOver handed
  · split
    · exact refl session
    · exact setConnected session false

/-- Other notices do not speak of the connection. -/
theorem notify
    (session : Session) {notice : Notice}
    (other : ∀ up, notice ≠ .connection up) :
    session.KeepsLine (session.notify notice) := by
  have same : (session.notify notice).connections = session.connections := by
    cases notice with
    | reply text => simp [connections, Session.notify]
    | title title => simp [connections, Session.notify]
    | connection up => exact absurd rfl (other up)
  refine ⟨rfl, rfl, rfl, rfl, fun informed => ⟨?_, ?_⟩⟩
  · rw [same]
    exact informed.alternating
  · rw [same]
    exact informed.last_eq

theorem foldl_reply (session : Session) (owed : List Reply) :
    session.KeepsLine (owed.foldl reply session) :=
  List.foldlRecOn owed reply (motive := session.KeepsLine) (refl session)
    fun current kept each _ =>
      kept.trans ((send current each.text).trans (notify _ fun _ => nofun))

theorem announceTitle (session : Session) : session.KeepsLine session.announceTitle := by
  have taken : session.KeepsLine (session.withTerminal session.terminal.takeTitle.1) :=
    ⟨rfl, rfl, rfl, rfl, fun informed => { informed with }⟩
  unfold Session.announceTitle
  dsimp only
  split
  · exact taken.trans (notify _ fun _ => nofun)
  · exact taken

theorem followText (session : Session) (wasAlternate : Bool) :
    session.KeepsLine (session.followText wasAlternate) := by
  unfold Session.followText
  dsimp only
  split
  · exact ⟨rfl, rfl, rfl, rfl, fun informed => { informed with }⟩
  · split
    · exact ⟨rfl, rfl, rfl, rfl, fun informed => { informed with }⟩
    · split <;> exact ⟨rfl, rfl, rfl, rfl, fun informed => { informed with }⟩

theorem interpret (session : Session) (text : List Char) :
    session.KeepsLine (session.interpret text) := by
  have fed : session.KeepsLine
      { session with console := (session.console.feed text).takeReplies.1 } :=
    ⟨rfl, rfl, rfl, rfl, fun informed => { informed with }⟩
  have answered := fed.trans (foldl_reply _ (session.console.feed text).takeReplies.2)
  have followed := (answered.trans (announceTitle _)).trans
    (followText _ session.terminal.onAlternate)
  exact followed.trans ⟨rfl, rfl, rfl, rfl, fun informed => { informed with }⟩

theorem feed (session : Session) (text : List Char) :
    session.KeepsLine (session.feed text) := by
  have held : session.KeepsLine { session with hold := (session.hold.pass text).1 } :=
    ⟨rfl, rfl, rfl, rfl, fun informed => { informed with }⟩
  simp only [Session.feed]
  split
  · exact held.trans (interpret _ _)
  · exact held

theorem unfreeze (session : Session) : session.KeepsLine session.unfreeze := by
  have lifted : session.KeepsLine { session with hold := session.hold.unfreeze.1 } :=
    ⟨rfl, rfl, rfl, rfl, fun informed => { informed with }⟩
  simp only [Session.unfreeze]
  split
  · exact lifted.trans (interpret _ _)
  · split
    · exact lifted
    · exact lifted.trans ⟨rfl, rfl, rfl, rfl, fun informed => { informed with }⟩

end KeepsLine

/-- Events are taken in one after the other, and the text of each is read or
held back before the next one. -/
theorem foldl_receive
    (isFresh : fresh.Fresh)
    {told : List Char}
    (follows : fresh.Follows told session)
    (events : List Event) :
    fresh.Follows (told ++ events.flatMap Event.chars) (events.foldl receive session) ∧
      session.KeepsLine (events.foldl receive session) := by
  induction events generalizing session told with
  | nil =>
      rw [List.flatMap_nil, List.append_nil]
      exact ⟨follows, .refl session⟩
  | cons event rest inductionHypothesis =>
      rw [List.flatMap_cons, ← List.append_assoc, List.foldl_cons]
      cases event with
      | text text =>
          obtain ⟨read, kept⟩ := inductionHypothesis (follows.feed isFresh text)
          exact ⟨read, (KeepsLine.feed session text).trans kept⟩
      | connection up =>
          have same := follows.of_alike (.setConnected session up)
          obtain ⟨read, kept⟩ := inductionHypothesis same
          refine ⟨?_, (KeepsLine.setConnected session up).trans kept⟩
          rw [Event.chars, List.append_nil]
          exact read

/-! ## One exchange -/

/-- What was written is what the terminal has read, what is held back and what
waits in the mailbox, one after the other. The far end can write until the
connection is `cut`, and the host has been told of the connection. -/
structure Carries (fresh : Session) (written : List Char) (cut : Bool) (session : Session) :
    Prop where
  exists_told : ∃ told, fresh.Follows told session ∧ written = told ++ session.queued
  open_eq : session.channel.isOpen = !cut
  linked : session.link = .channel ∨ session.channel.outlet = .closed
  informed : session.Informed

namespace Carries

variable {text : List Char} {cut : Bool}

/-- The same holds when only the session's own state has changed. -/
theorem of_keepsLine
    (carries : fresh.Carries text cut first)
    (kept : first.KeepsLine second)
    (follows : ∀ told, fresh.Follows told first → fresh.Follows told second) :
    fresh.Carries text cut second where
  exists_told := by
    obtain ⟨told, followed, whole⟩ := carries.exists_told
    refine ⟨told, follows told followed, ?_⟩
    rw [whole, queued, queued, kept.mailbox_eq]
  open_eq := kept.open_eq.trans carries.open_eq
  linked := by
    rw [kept.link_eq, kept.outlet_eq]
    exact carries.linked
  informed := kept.informed carries.informed

theorem atTime (carries : fresh.Carries text cut session) (now : Nat) :
    fresh.Carries text cut (session.atTime now) :=
  { carries with
    informed := { carries.informed with }
    exists_told := by
      obtain ⟨told, followed, whole⟩ := carries.exists_told
      exact ⟨told, followed.of_alike ⟨rfl, rfl, rfl⟩, whole⟩ }

theorem isOk_deliver (carries : fresh.Carries text cut session) (more : List Char) :
    (session.deliver more).isOk = !cut := by
  rw [← carries.open_eq, ← session.channel.isOk_write more]
  unfold deliver
  cases session.channel.write more <;> rfl

theorem write (carries : fresh.Carries text cut session) (more : List Char) :
    fresh.Carries (text ++ session.accepted (.write more)) cut
      (session.exchange (.write more)) := by
  have canWrite := carries.isOk_deliver more
  cases isOpen : session.channel.isOpen with
  | true =>
      have delivery :
          session.deliver more =
            .ok { session with mailbox := session.mailbox ++ [.text more] } := by
        rw [deliver, Channel.write_of_open isOpen]
        rfl
      obtain ⟨told, follows, whole⟩ := carries.exists_told
      rw [accepted, exchange, delivery]
      refine ⟨⟨told, follows.of_alike ⟨rfl, rfl, rfl⟩, ?_⟩, carries.open_eq, carries.linked,
        { carries.informed with }⟩
      rw [whole]
      simp [queued, Event.chars, Except.isOk, Except.toBool, Except.toOption]
  | false =>
      rw [← carries.open_eq, isOpen] at canWrite
      rw [accepted, canWrite, if_neg Bool.false_ne_true, List.append_nil, exchange]
      cases delivery : session.deliver more with
      | error reason => exact carries
      | ok delivered =>
          rw [delivery] at canWrite
          cases canWrite

theorem disconnect (carries : fresh.Carries text cut session) :
    fresh.Carries text true session.breakOff := by
  obtain ⟨closed, outletEq, noText⟩ := session.channel.disconnect_spec
  obtain ⟨told, follows, whole⟩ := carries.exists_told
  refine ⟨⟨told, follows.of_alike ⟨rfl, rfl, rfl⟩, ?_⟩, closed, ?_, { carries.informed with }⟩
  · rw [whole, queued, queued, breakOff]
    dsimp only
    rw [List.flatMap_append, noText, List.append_nil]
  · exact carries.linked.imp_right outletEq.trans

theorem close (carries : fresh.Carries text cut session) :
    fresh.Carries text true session.close := by
  obtain ⟨told, follows, whole⟩ := carries.exists_told
  have unlinked : session.link ≠ .channel → session.channel.isOpen = false := by
    intro other
    exact Channel.isOpen_of_closed (carries.linked.resolve_left other)
  unfold Session.close
  split
  · next detached =>
      have closed := unlinked (by rw [detached]; exact nofun)
      exact { carries with open_eq := closed }
  · obtain ⟨closed, noText⟩ := session.channel.close_spec
    refine ⟨⟨told, follows.of_alike ⟨rfl, rfl, rfl⟩, ?_⟩, Channel.isOpen_of_closed closed,
      Or.inr closed, { carries.informed with }⟩
    rw [whole, queued, queued]
    dsimp only
    rw [List.flatMap_append, noText, List.append_nil]
  · next streaming =>
      have other : session.link ≠ .channel := by rw [streaming]; exact nofun
      exact ⟨⟨told, follows.of_alike ⟨rfl, rfl, rfl⟩, whole⟩, unlinked other,
        Or.inr (carries.linked.resolve_left other), { carries.informed with }⟩

theorem processOutput (isFresh : fresh.Fresh) (carries : fresh.Carries text cut session) :
    fresh.Carries text cut session.processOutput.1 := by
  obtain ⟨told, follows, whole⟩ := carries.exists_told
  have emptied : fresh.Follows told { session with mailbox := [] } :=
    follows.of_alike ⟨rfl, rfl, rfl⟩
  obtain ⟨read, kept⟩ := foldl_receive isFresh emptied session.mailbox
  have nothingQueued : session.processOutput.1.queued = [] := by
    rw [queued, Session.processOutput, kept.mailbox_eq]
    rfl
  refine ⟨⟨_, read, ?_⟩, kept.open_eq.trans carries.open_eq, ?_,
    kept.informed { carries.informed with }⟩
  · rw [nothingQueued, List.append_nil]
    exact whole
  · exact carries.linked.imp kept.link_eq.trans kept.outlet_eq.trans

/-- What one exchange leaves true. -/
theorem exchange
    (isFresh : fresh.Fresh)
    (carries : fresh.Carries text cut session)
    (made : Exchange) :
    fresh.Carries (text ++ session.accepted made) (cut || made.cuts) (session.exchange made) := by
  have unwritten : session.accepted made = [] → made.cuts = false →
      fresh.Carries text cut (session.exchange made) →
      fresh.Carries (text ++ session.accepted made) (cut || made.cuts)
        (session.exchange made) := by
    intro nothing keeps kept
    rw [nothing, keeps, List.append_nil, Bool.or_false]
    exact kept
  have ended : session.accepted made = [] → made.cuts = true →
      fresh.Carries text true (session.exchange made) →
      fresh.Carries (text ++ session.accepted made) (cut || made.cuts)
        (session.exchange made) := by
    intro nothing cuts kept
    rw [nothing, cuts, List.append_nil, Bool.or_true]
    exact kept
  cases made with
  | write more =>
      rw [Exchange.cuts, Bool.or_false]
      exact carries.write more
  | disconnect => exact ended rfl rfl carries.disconnect
  | close => exact ended rfl rfl carries.close
  | processOutput => exact unwritten rfl rfl (carries.processOutput isFresh)
  | freeze =>
      have kept : session.KeepsLine session.freeze :=
        ⟨rfl, rfl, rfl, rfl, fun informed => { informed with }⟩
      exact unwritten rfl rfl (carries.of_keepsLine kept fun _ follows => follows.freeze)
  | unfreeze =>
      exact unwritten rfl rfl
        (carries.of_keepsLine (.unfreeze session) fun _ follows => follows.unfreeze isFresh)
  | send more =>
      exact unwritten rfl rfl
        (carries.of_keepsLine (.send session more) fun _ follows =>
          follows.of_alike (.send session more))

/-! ## All exchanges -/

theorem exchanges
    (isFresh : fresh.Fresh)
    (carries : fresh.Carries text cut session)
    (made : List (Nat × Exchange)) :
    fresh.Carries (text ++ session.written made) (cut || made.any fun (_, each) => each.cuts)
      (session.exchanges made) := by
  induction made generalizing session text cut with
  | nil =>
      rw [written, List.append_nil, List.any_nil, Bool.or_false]
      exact carries
  | cons head rest inductionHypothesis =>
      obtain ⟨now, each⟩ := head
      have next := inductionHypothesis ((carries.atTime now).exchange isFresh each)
      rw [List.append_assoc, Bool.or_assoc] at next
      exact next

end Carries

/-- A session that was just begun has no transport and has told nothing. -/
theorem detached_ofSettings
    {settings : Settings}
    (made : ofSettings settings = .ok session) :
    session.link = .detached ∧ session.connected = false ∧ session.notices = [] := by
  obtain ⟨_, -, -, rfl⟩ := eq_of_ofSettings made
  exact ⟨rfl, rfl, rfl⟩

theorem attachChannel_of_detached (detached : fresh.link = .detached) :
    fresh.attachChannel {} =
      ({ fresh with
          link := .channel
          channel :=
            { outlet := .listening
              connected := true
              size := some (fresh.terminal.lines, fresh.terminal.columns) }
          mailbox := [.connection true] },
        .ok ()) := by
  have closed : fresh.close = fresh := by
    rw [Session.close, detached]
  rw [attachChannel, closed]
  rfl

/-- Text that the far end of a channel has written is interpreted once and in
the order in which it was written: whatever was done since the channel was
attached, it is what the terminal has read, followed by what is held back and
by what waits in the mailbox. The far end can write until the connection is
ended, and the host is told of every change of the connection, which are in
turn that it is up and that it is down. -/
theorem channel_delivery
    {settings : Settings} {fresh : Session}
    (begun : ofSettings settings = .ok fresh)
    (made : List (Nat × Exchange)) :
    let start := (fresh.attachChannel {}).1
    let session := start.exchanges made
    (fresh.attachChannel {}).2 = .ok () ∧
      (∃ read,
        session.console = (fresh.feed read).console ∧
          session.replies = (fresh.feed read).replies ∧
          start.written made = read ++ session.hold.parked ++ session.queued) ∧
      (∀ text, (session.deliver text).isOk = !made.any fun (_, each) => each.cuts) ∧
      (false :: session.connections).IsChain (· ≠ ·) ∧
      (false :: session.connections).getLast? = some session.connected := by
  intro start session
  have isFresh := fresh_ofSettings begun
  obtain ⟨detached, down, untold⟩ := detached_ofSettings begun
  have attached := attachChannel_of_detached detached
  have carried : fresh.Carries [] false start := by
    have startEq := congrArg Prod.fst attached
    change start = _ at startEq
    rw [startEq]
    refine ⟨⟨[], (Follows.of_fresh isFresh).of_alike ⟨rfl, rfl, rfl⟩, rfl⟩, rfl, Or.inl rfl, ?_⟩
    have none : fresh.connections = [] := by
      rw [connections, untold]
      rfl
    refine ⟨?_, ?_⟩
    · change (false :: fresh.connections).IsChain (· ≠ ·)
      rw [none]
      exact List.isChain_singleton false
    · change (false :: fresh.connections).getLast? = some fresh.connected
      rw [none, down]
      rfl
  have last := carried.exchanges isFresh made
  rw [List.nil_append, Bool.false_or] at last
  obtain ⟨told, follows, whole⟩ := last.exists_told
  obtain ⟨read, consoleEq, repliesEq, rfl⟩ := follows.exists_read
  exact ⟨congrArg Prod.snd attached, ⟨read, consoleEq, repliesEq, whole⟩, last.isOk_deliver,
    last.informed.alternating, last.informed.last_eq⟩

/-- The far end breaks the connection while text is held back, which a failing
send finds out first, and the session is closed before it takes in the rest. -/
theorem channel_delivery_broken_off :
    let settings : Settings := { lines := 2, columns := 3, historyLimit := 1 }
    let fresh : Session :=
      { console := { terminal := blankTerminal settings {} }
        blinkPeriod := some 500, blinkDeadline := some 500 }
    let made : List (Nat × Exchange) :=
      [(0, .write "a".toList), (1, .processOutput), (2, .freeze), (3, .write "b".toList),
        (4, .processOutput), (5, .write "c".toList), (6, .disconnect), (7, .write "d".toList),
        (8, .send "e"), (9, .close)]
    let start := (fresh.attachChannel {}).1
    let session := start.exchanges made
    ofSettings settings = .ok fresh ∧
      start.written made = "abc".toList ∧
      session.hold.parked = "b".toList ∧ session.queued = "c".toList ∧
      session.connections = [true, false] ∧
      (∃ read,
        session.console = (fresh.feed read).console ∧
          start.written made = read ++ session.hold.parked ++ session.queued) ∧
      ∀ text, (session.deliver text).isOk = false := by
  intro settings fresh made start session
  have begun : ofSettings settings = .ok fresh := rfl
  have ended : (made.any fun (_, each) => each.cuts) = true := by decide
  have written : start.written made = "abc".toList := by decide +kernel
  have parked : session.hold.parked = "b".toList := by decide +kernel
  have queued : session.queued = "c".toList := by decide +kernel
  have told : session.connections = [true, false] := by decide +kernel
  -- The exchanges are not to be made again to compare the statements.
  clear_value made
  have delivered := channel_delivery begun made
  refine ⟨begun, written, parked, queued, told, ?_, ?_⟩
  · obtain ⟨read, consoleEq, -, whole⟩ := delivered.2.1
    exact ⟨read, consoleEq, whole⟩
  · intro text
    exact (delivered.2.2.1 text).trans (congrArg not ended)

end Session

end VideoTerminal
