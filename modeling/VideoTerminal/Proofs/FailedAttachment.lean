import VideoTerminal.Proofs.Hosting

/-!
Attachments that fail. Nothing is attached then, and nothing can be sent. A
channel that refuses to start is as it was before; one that starts and then
refuses to be told the size stays connected, as no act that is done to the
session later reaches it.
-/

namespace VideoTerminal.Session

open Transport

variable {session first second third : Session}

/-! ## What does not reach a channel that is not attached -/

/-- If no channel is attached to the first session, none is to the second one,
and the channel that was attached last is as it was. -/
def Spares (first second : Session) : Prop :=
  first.link ≠ .channel → second.link ≠ .channel ∧ second.channel = first.channel

namespace Spares

theorem refl (session : Session) : session.Spares session :=
  fun apart => ⟨apart, rfl⟩

theorem trans (before : first.Spares second) (after : second.Spares third) :
    first.Spares third := by
  intro apart
  obtain ⟨stillApart, sameBefore⟩ := before apart
  obtain ⟨apartAfter, sameAfter⟩ := after stillApart
  exact ⟨apartAfter, sameAfter.trans sameBefore⟩

theorem of_eq (link_eq : second.link = first.link) (channel_eq : second.channel = first.channel) :
    first.Spares second :=
  fun apart => ⟨by rwa [link_eq], channel_eq⟩

theorem setConnected (session : Session) (up : Bool) :
    session.Spares (session.setConnected up) := by
  rw [Session.setConnected]
  split
  · exact refl session
  · exact of_eq rfl rfl

/-- Text is handed to the transport that is attached. -/
theorem handOver
    {text : List Char} {sent : Session}
    (handed : session.handOver text = .ok sent) :
    session.Spares sent := by
  intro apart
  unfold Session.handOver at handed
  split at handed
  · cases handed
  · next attached => exact absurd attached apart
  · next streaming =>
      cases sending : session.stream.send text with
      | error reason =>
          rw [sending] at handed
          cases handed
      | ok stream =>
          rw [sending] at handed
          cases handed
          exact ⟨apart, rfl⟩

theorem send (session : Session) (text : String) : session.Spares (session.send text).1 := by
  rw [Session.send]
  split
  · next handed => exact handOver handed
  · split
    · exact refl session
    · exact setConnected session false

theorem foldl_reply (session : Session) (owed : List Reply) :
    session.Spares (owed.foldl reply session) :=
  List.foldlRecOn owed reply (motive := session.Spares) (refl session)
    fun current spared each _ => spared.trans ((send current each.text).trans (of_eq rfl rfl))

theorem announceTitle (session : Session) : session.Spares session.announceTitle := by
  simp only [Session.announceTitle]
  split <;> exact of_eq rfl rfl

theorem followText (session : Session) (wasAlternate : Bool) :
    session.Spares (session.followText wasAlternate) := by
  simp only [Session.followText]
  split
  · exact of_eq rfl rfl
  · split
    · exact of_eq rfl rfl
    · split <;> exact of_eq rfl rfl

theorem interpret (session : Session) (text : List Char) :
    session.Spares (session.interpret text) := by
  have fed : session.Spares
      { session with console := (session.console.feed text).takeReplies.1 } := of_eq rfl rfl
  have answered := fed.trans (foldl_reply _ (session.console.feed text).takeReplies.2)
  have followed := (answered.trans (announceTitle _)).trans
    (followText _ session.terminal.onAlternate)
  exact followed.trans (of_eq rfl rfl)

theorem feed (session : Session) (text : List Char) : session.Spares (session.feed text) := by
  have held : session.Spares { session with hold := (session.hold.pass text).1 } := of_eq rfl rfl
  simp only [Session.feed]
  split
  · exact held.trans (interpret _ _)
  · exact held

theorem unfreeze (session : Session) : session.Spares session.unfreeze := by
  have lifted : session.Spares { session with hold := session.hold.unfreeze.1 } := of_eq rfl rfl
  simp only [Session.unfreeze]
  split
  · exact lifted.trans (interpret _ _)
  · split
    · exact lifted
    · exact lifted.trans (of_eq rfl rfl)

/-! ### Selections and timers -/

theorem release (session : Session) : session.Spares session.release := by
  rw [Session.release]
  split
  · exact unfreeze { session with selecting := false }
  · exact refl session

theorem clearSelection (session : Session) : session.Spares session.clearSelection :=
  release { session with selection := none }

theorem startSelection (session : Session) (x y : Nat) :
    session.Spares (session.startSelection x y).1 := by
  rw [Session.startSelection]
  split
  · exact clearSelection session
  · exact of_eq rfl rfl

theorem extendSelection (session : Session) (x y : Nat) :
    session.Spares (session.extendSelection x y).1 := by
  rw [Session.extendSelection]
  split <;> exact of_eq rfl rfl

theorem pollTimers (session : Session) (now : Nat) : session.Spares (session.pollTimers now) := by
  have guarded : session.Spares (session.pollGuard now) := by
    rw [Session.pollGuard]
    split
    · split <;> exact of_eq rfl rfl
    · exact refl session
  have blinked : (session.pollGuard now).Spares ((session.pollGuard now).pollBlink now) := by
    rw [Session.pollBlink]
    split
    · split <;> exact of_eq rfl rfl
    · exact refl _
  exact guarded.trans blinked

theorem call (session : Session) (made : Call) : session.Spares (session.call made) := by
  cases made with
  | feed text => exact feed session text
  | freeze => exact of_eq rfl rfl
  | unfreeze => exact unfreeze session
  | startSelection x y => exact startSelection session x y
  | extendSelection x y => exact extendSelection session x y
  | endSelection =>
      exact release { session with selection := session.selection.map Selection.finish }
  | selectAll => exact (release session).trans (of_eq rfl rfl)
  | clearSelection => exact clearSelection session
  | pollTimers now => exact pollTimers session now

/-! ### Sizes and transports -/

/-- Without a channel there is none to report the size to. -/
theorem reportSize
    {lines columns : Nat} {reported : Session}
    (done : session.reportSize lines columns = .ok reported) :
    session.Spares reported := by
  intro apart
  rw [Session.reportSize] at done
  split at done
  · cases done
    exact ⟨apart, rfl⟩
  · cases done
    exact ⟨apart, rfl⟩
  · next attached => exact absurd attached apart

theorem resize (session : Session) (lines columns : Nat) :
    session.Spares (session.resize lines columns).1 := by
  simp only [Session.resize]
  split
  · exact refl session
  · next resized accepted =>
      have cleared : session.Spares
          { session.withTerminal resized with guardDeadline := none }.clearSelection :=
        clearSelection { session.withTerminal resized with guardDeadline := none }
      split
      · next reported done => exact cleared.trans (reportSize done)
      · exact cleared

theorem sendKey (session : Session) (press : KeyPress) :
    session.Spares (session.sendKey press).1 := by
  rw [Session.sendKey]
  split
  · exact send session _
  · exact refl session

theorem close (session : Session) : session.Spares session.close := by
  intro apart
  rw [Session.close]
  split
  · exact ⟨apart, rfl⟩
  · next attached => exact absurd attached apart
  · have stillApart : Link.detached ≠ .channel := by decide
    exact ⟨stillApart, rfl⟩

theorem attachStream (session : Session) (reads : List Read) :
    session.Spares (session.attachStream reads).1 := by
  have closed := close session
  rw [Session.attachStream]
  split
  · exact closed
  · have streaming : Link.stream ≠ .channel := by decide
    exact fun apart => ⟨streaming, (closed apart).2⟩

theorem processOutput (session : Session) : session.Spares session.processOutput.1 :=
  List.foldlRecOn session.mailbox receive (motive := session.Spares) (of_eq rfl rfl)
    fun current spared event _ => by
      cases event with
      | text text => exact spared.trans (feed current text)
      | connection up => exact spared.trans (setConnected current up)

end Spares

/-- The act attaches no channel, and it is not one of the remote side. -/
def Act.attachesNoChannel : Act → Bool
  | .attachChannel _ | .remote _ _ _ => false
  | _ => true

theorem Spares.act
    (session : Session) {act : Act}
    (attachesNone : act.attachesNoChannel = true) :
    session.Spares (session.act act) := by
  cases act with
  | call made => exact .call session made
  | abortSequence | reset | takeDamage | takeNotices => exact .of_eq rfl rfl
  | resize lines columns => exact .resize session lines columns
  | send text => exact .send session text
  | sendKey press => exact .sendKey session press
  | attachStream reads => exact .attachStream session reads
  | close => exact .close session
  | processOutput => exact .processOutput session
  | attachChannel channel => cases attachesNone
  | remote channel stream events => cases attachesNone

theorem Spares.acts
    (session : Session) {done : List (Nat × Act)}
    (attachNone : ∀ step ∈ done, step.2.attachesNoChannel = true) :
    session.Spares (session.acts done) :=
  List.foldlRecOn done _ (motive := session.Spares) (.refl session)
    fun current spared step member =>
      (spared.trans (.of_eq rfl rfl)).trans
        (.act (current.atTime step.1) (attachNone step member))

/-! ## The outcomes of an attachment -/

theorem link_close (session : Session) : session.close.link = .detached := by
  rw [close]
  split
  · next detached => exact detached
  · rfl
  · rfl

/-- A start that is refused leaves the channel alone. A size that is refused
leaves it started, without a reader. -/
theorem attachChannel_eq (session : Session) (channel : Channel) :
    session.attachChannel channel =
      if channel.refuses.start then ({ session.close with channel }, .error .disconnected)
      else if channel.refuses.resize then
        ({ session.close with channel := { channel with outlet := .deserted, connected := true } },
          .error .disconnected)
      else
        ({ session.close with
            link := .channel
            channel :=
              { channel with
                outlet := .listening
                connected := true
                size := some (session.terminal.lines, session.terminal.columns) }
            mailbox := [.connection true] },
          .ok ()) := by
  cases noStart : channel.refuses.start with
  | true => simp [attachChannel, Channel.start, noStart]
  | false =>
      cases noSize : channel.refuses.resize with
      | true =>
          simp [attachChannel, Channel.start, Channel.setSize, Channel.desert, noStart, noSize]
      | false => simp [attachChannel, Channel.start, Channel.setSize, noStart, noSize]

theorem send_of_detached (detached : session.link = .detached) (text : String) :
    session.send text = (session, false) := by
  rw [send, handOver, detached]
  rfl

/-- What an attachment that fails leaves behind: no link, and a channel that no
act reaches until one is attached. -/
theorem attachChannel_of_error
    {channel left : Channel}
    (outcome :
      session.attachChannel channel =
        ({ session.close with channel := left }, .error .disconnected)) :
    let after := (session.attachChannel channel).1
    after.link = .detached ∧
      (∀ text, after.send text = (after, false)) ∧
      ∀ done : List (Nat × Act), (∀ step ∈ done, step.2.attachesNoChannel = true) →
        (after.acts done).channel = left := by
  intro after
  have afterEq : after = { session.close with channel := left } := congrArg Prod.fst outcome
  have detached : after.link = .detached := by
    rw [afterEq]
    exact link_close session
  refine ⟨detached, send_of_detached detached, ?_⟩
  intro done attachNone
  obtain ⟨-, same⟩ := Spares.acts after attachNone (by rw [detached]; nofun)
  rw [same, afterEq]

/-- An attachment fails just if the channel refuses to start or to be told the
size; a stream can always be attached. After a failure nothing is attached,
nothing can be sent and the terminal is as it was. A channel that refused to
start is as it was too. One that was started is connected: it is not closed
with the failure, and until a channel is attached no act done to the session
closes it. -/
theorem attachChannel_failure (session : Session) (channel : Channel) :
    let after := (session.attachChannel channel).1
    let result := (session.attachChannel channel).2
    (∀ reads, (session.attachStream reads).2 = .ok ()) ∧
      (result = .ok () ↔ channel.refuses.start = false ∧ channel.refuses.resize = false) ∧
      (result ≠ .ok () →
        result = .error .disconnected ∧
          after.link = .detached ∧
          (∀ text, after.send text = (after, false)) ∧
          session.SameView after ∧
          ∀ done : List (Nat × Act), (∀ step ∈ done, step.2.attachesNoChannel = true) →
            (after.acts done).channel =
              if channel.refuses.start then channel
              else { channel with outlet := .deserted, connected := true }) := by
  intro after result
  have view : session.SameView after := .attachChannel session channel
  refine ⟨fun reads => rfl, ?_⟩
  -- Both failures end alike; they differ in the channel that they leave behind.
  have outcome := session.attachChannel_eq channel
  cases noStart : channel.refuses.start with
  | true =>
      rw [noStart] at outcome
      have error : result = .error .disconnected := congrArg Prod.snd outcome
      obtain ⟨detached, silent, stays⟩ := attachChannel_of_error outcome
      rw [error]
      exact ⟨iff_of_false nofun nofun, fun _ => ⟨rfl, detached, silent, view, stays⟩⟩
  | false =>
      rw [noStart] at outcome
      cases noSize : channel.refuses.resize with
      | true =>
          rw [noSize] at outcome
          have error : result = .error .disconnected := congrArg Prod.snd outcome
          obtain ⟨detached, silent, stays⟩ := attachChannel_of_error outcome
          rw [error]
          exact ⟨iff_of_false nofun nofun, fun _ => ⟨rfl, detached, silent, view, stays⟩⟩
      | false =>
          rw [noSize] at outcome
          have ok : result = .ok () := congrArg Prod.snd outcome
          exact ⟨iff_of_true ok ⟨rfl, rfl⟩, fun notOk => absurd ok notOk⟩

/-- A channel that starts and refuses the size is connected afterwards, also
once the session has been closed. -/
theorem attachChannel_leaves_connected :
    let settings : Settings := { lines := 2, columns := 4, historyLimit := 2 }
    let start : Session :=
      { console := { terminal := blankTerminal settings {} }
        blinkPeriod := some 500, blinkDeadline := some 500 }
    let channel : Channel := { refuses := { resize := true } }
    let after := (start.attachChannel channel).1
    start.Reachable ∧
      (start.attachChannel channel).2 = .error .disconnected ∧
      (channel.start true).isOk = true ∧
      after.link = .detached ∧
      after.channel.connected = true ∧
      after.close.channel.connected = true := by
  intro settings start channel after
  have begun : ofSettings settings = .ok start := rfl
  exact ⟨⟨settings, start, [], begun, rfl⟩, rfl, rfl, rfl, rfl, rfl⟩

end VideoTerminal.Session
