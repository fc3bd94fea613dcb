import VideoTerminal.Proofs.Agreement
import VideoTerminal.Proofs.Chunks
import VideoTerminal.Proofs.Redrawing
import VideoTerminal.Session.Act

/-!
Holding text back changes nothing in the end. Whatever a host freezes and
selects in between, a session that holds nothing back any more has read what
it was fed as if it had been fed all of it at once.
-/

namespace VideoTerminal

/-! ## Damage of a screen that is not drawn yet -/

namespace Terminal

variable {first second terminal : Terminal}

theorem Tells.full (tells : first.Tells second) (full : first.damage.full = true) :
    second.damage.full = true := by
  by_contra notFull
  have wasNotFull := (tells (Bool.eq_false_iff.mpr notFull)).1
  exact Bool.false_ne_true (wasNotFull.symm.trans full)

theorem markDamage_of_full (full : terminal.damage.full = true) (y start stop : Nat) :
    terminal.markDamage y start stop = terminal := by
  rw [markDamage, DamageLog.mark_of_full full]

/-- When everything is to be drawn anyway, a blink adds nothing. -/
theorem markBlink_of_full (full : terminal.damage.full = true) :
    terminal.markBlink = terminal := by
  have marked :
      ∀ marks : List Position,
        marks.foldl (fun current mark => current.markDamage mark.y mark.x (mark.x + 1)) terminal =
          terminal := by
    intro marks
    induction marks with
    | nil => rfl
    | cons mark rest inductionHypothesis =>
        rw [List.foldl_cons, markDamage_of_full full, inductionHypothesis]
  unfold markBlink
  rw [marked]
  exact markDamage_of_full full _ _ _

/-- The terminal once its session has been told everything. -/
def settled (terminal : Terminal) : Terminal :=
  { terminal with evicted := 0, wasReset := false, titleChanged := false }

theorem Agrees.settled_eq (agree : first.Agrees second) : second.settled = first.settled := by
  obtain ⟨evicted, wasReset, titleChanged, rfl⟩ := agree
  rfl

end Terminal

namespace Console

/-- The console once its session has been told everything, and has sent the
replies. -/
def settled (console : Console) : Console :=
  { console with terminal := console.terminal.settled, replies := #[] }

theorem Agrees.settled_eq {first second : Console} (agree : first.Agrees second) :
    second.settled = first.settled := by
  change Console.mk second.terminal.settled second.interpreter #[] =
    Console.mk first.terminal.settled first.interpreter #[]
  rw [agree.terminal.settled_eq, agree.interpreter_eq]

theorem full_feed
    {lines columns limit : Nat} {console : Console}
    (wellFormed : console.terminal.WellFormed lines columns limit)
    (full : console.terminal.damage.full = true)
    (text : List Char) :
    (console.feed text).terminal.damage.full = true := by
  have served := terminal_receive console (.text text)
  have kept : .takeDamage ∉ console.requests (.text text) := by
    intro member
    rcases mem_requests member with asked | ⟨printed, same⟩ | ⟨function, same⟩
    · cases asked
    · cases same
    · cases same
  have tells := Terminal.Tells.foldl_serve wellFormed kept
  rw [← served] at tells
  exact tells.full full

/-- What has been told and sent does not matter for what is read next. -/
theorem feed_settled (console : Console) (text : List Char) :
    (console.settled.feed text).settled = (console.feed text).settled ∧
      (console.feed text).replies = console.replies ++ (console.settled.feed text).replies := by
  have agree : console.takeReplies.1.Agrees console.settled := ⟨⟨_, _, _, rfl⟩, rfl, rfl⟩
  have fed := agree.feed text
  have owed : console.feed text = (console.takeReplies.1.feed text).owe console.replies := by
    rw [← feed_owe, takeReplies_owe]
  constructor
  · rw [fed.settled_eq, owed]
    rfl
  · rw [fed.replies_eq, owed]
    rfl

end Console

theorem Hold.unfreeze_of_depth_eq_zero {hold : Hold} (noDepth : hold.depth = 0) :
    hold.unfreeze = (hold, none) := by
  obtain ⟨depth, parked⟩ := hold
  subst noDepth
  rfl

namespace Session

variable {session start : Session}

/-- What is sent changes the transports only. -/
theorem handOver_eq
    {text : List Char} {sent : Session}
    (handed : session.handOver text = .ok sent) :
    ∃ channel stream, sent = { session with channel, stream } := by
  unfold handOver at handed
  split at handed
  · cases handed
  · cases sending : session.channel.send text with
    | error reason =>
        rw [sending] at handed
        cases handed
    | ok channel =>
        rw [sending] at handed
        cases handed
        exact ⟨channel, session.stream, rfl⟩
  · cases sending : session.stream.send text with
    | error reason =>
        rw [sending] at handed
        cases handed
    | ok stream =>
        rw [sending] at handed
        cases handed
        exact ⟨session.channel, stream, rfl⟩

/-- The replies that the host has been told of. -/
def replies (session : Session) : List String :=
  session.notices.filterMap fun
    | .reply text => some text
    | .title _ | .connection _ => none

/-- The sessions have read, hold and have replied the same. -/
structure Alike (first second : Session) : Prop where
  console_eq : second.console = first.console
  hold_eq : second.hold = first.hold
  replies_eq : second.replies = first.replies

namespace Alike

theorem refl (session : Session) : session.Alike session :=
  ⟨rfl, rfl, rfl⟩

theorem setConnected (session : Session) (up : Bool) :
    session.Alike (session.setConnected up) := by
  unfold Session.setConnected
  split
  · exact refl session
  · exact ⟨rfl, rfl, by simp [replies, notify]⟩

theorem handOver
    {text : List Char} {sent : Session}
    (handed : session.handOver text = .ok sent) :
    session.Alike sent := by
  obtain ⟨channel, stream, rfl⟩ := handOver_eq handed
  exact ⟨rfl, rfl, rfl⟩

theorem send (session : Session) (text : String) : session.Alike (session.send text).1 := by
  unfold Session.send
  split
  · next handed => exact handOver handed
  · split
    · exact refl session
    · exact setConnected session false

end Alike

/-! ## Interpretation -/

theorem foldl_reply (session : Session) (owed : List Reply) :
    (owed.foldl reply session).console = session.console ∧
      (owed.foldl reply session).hold = session.hold ∧
      (owed.foldl reply session).replies = session.replies ++ owed.map Reply.text := by
  induction owed generalizing session with
  | nil => exact ⟨rfl, rfl, (List.append_nil _).symm⟩
  | cons head rest inductionHypothesis =>
      have sent := Alike.send session head.text
      obtain ⟨consoleEq, holdEq, repliesEq⟩ := inductionHypothesis (session.reply head)
      have here : (session.reply head).replies = session.replies ++ [head.text] := by
        have told := sent.replies_eq
        unfold replies at told ⊢
        unfold reply notify
        rw [List.filterMap_append, told]
        rfl
      refine ⟨consoleEq.trans sent.console_eq, holdEq.trans sent.hold_eq, ?_⟩
      rw [List.foldl_cons, repliesEq, here, List.append_assoc]
      rfl

/-- The session tells its host of a title and takes note of lost rows and of a
reset; the terminal is settled then. -/
theorem followText_announceTitle (session : Session) (wasAlternate : Bool) :
    (session.announceTitle.followText wasAlternate).console =
        { session.console with terminal := session.terminal.settled } ∧
      (session.announceTitle.followText wasAlternate).hold = session.hold ∧
      (session.announceTitle.followText wasAlternate).replies = session.replies := by
  have announced :
      session.announceTitle.console =
          { session.console with terminal := session.terminal.takeTitle.1 } ∧
        session.announceTitle.hold = session.hold ∧
        session.announceTitle.replies = session.replies := by
    unfold announceTitle Terminal.takeTitle
    dsimp only
    split
    · exact ⟨rfl, rfl, by simp [replies, notify, withTerminal]⟩
    · exact ⟨rfl, rfl, rfl⟩
  have followed : ∀ current : Session,
      (current.followText wasAlternate).console =
          { current.console with terminal := current.terminal.takeEvicted.1.takeReset.1 } ∧
        (current.followText wasAlternate).hold = current.hold ∧
        (current.followText wasAlternate).replies = current.replies := by
    intro current
    unfold followText
    dsimp only
    split
    · exact ⟨rfl, rfl, rfl⟩
    · split
      · exact ⟨rfl, rfl, rfl⟩
      · split <;> exact ⟨rfl, rfl, rfl⟩
  obtain ⟨consoleEq, holdEq, repliesEq⟩ := announced
  obtain ⟨lastConsole, lastHold, lastReplies⟩ := followed session.announceTitle
  refine ⟨?_, lastHold.trans holdEq, lastReplies.trans repliesEq⟩
  rw [lastConsole, terminal, consoleEq]
  rfl

theorem interpret_spec (session : Session) (text : List Char) :
    (session.interpret text).console = (session.console.feed text).settled ∧
      (session.interpret text).hold = session.hold ∧
      (session.interpret text).replies =
        session.replies ++ (session.console.feed text).replies.toList.map Reply.text := by
  have answered :=
    foldl_reply { session with console := (session.console.feed text).takeReplies.1 }
      (session.console.feed text).replies.toList
  have followed :=
    followText_announceTitle
      ((session.console.feed text).replies.toList.foldl reply
        { session with console := (session.console.feed text).takeReplies.1 })
      session.terminal.onAlternate
  obtain ⟨consoleEq, holdEq, repliesEq⟩ := answered
  obtain ⟨lastConsole, lastHold, lastReplies⟩ := followed
  refine ⟨lastConsole.trans ?_, lastHold.trans holdEq, lastReplies.trans repliesEq⟩
  rw [terminal, consoleEq]
  rfl

theorem terminal_interpret (session : Session) (text : List Char) :
    (session.interpret text).terminal = (session.console.feed text).terminal.settled := by
  rw [terminal, (interpret_spec session text).1]
  rfl

theorem feed_of_not_held (notHeld : session.isHeld = false) (text : List Char) :
    session.feed text = session.interpret text := by
  have passed : session.hold.pass text = (session.hold, some text) :=
    if_neg (Bool.eq_false_iff.mp notHeld)
  rw [feed, passed]

theorem feed_of_held (waits : session.isHeld = true) (text : List Char) :
    session.feed text =
      { session with hold := { session.hold with parked := session.hold.parked ++ text } } := by
  have kept : session.hold.pass text =
      ({ session.hold with parked := session.hold.parked ++ text }, none) := if_pos waits
  rw [feed, kept]

theorem unfreeze_of_not_held (notHeld : session.isHeld = false) :
    session.unfreeze = session.armGuard := by
  have noDepth : session.hold.depth = 0 := by simpa [isHeld, Hold.isHeld] using notHeld
  unfold unfreeze
  rw [Hold.unfreeze_of_depth_eq_zero noDepth]
  change (if session.isHeld = true then session else session.armGuard) = session.armGuard
  exact if_neg (Bool.eq_false_iff.mp notHeld)

/-- A selection that is dropped while nothing is held back might as well be
cleared: there is no hold left that it could lift. -/
theorem armGuard_clearSelection (notHeld : session.isHeld = false) :
    session.clearSelection.armGuard = session.dropSelection.armGuard := by
  unfold clearSelection release
  by_cases selecting : session.selecting = true
  · have lifted : session.dropSelection.unfreeze = session.dropSelection.armGuard :=
      unfreeze_of_not_held notHeld
    rw [if_pos selecting]
    change session.dropSelection.unfreeze.armGuard = session.dropSelection.armGuard
    rw [lifted]
    rfl
  · rw [if_neg selecting, dropSelection, ← Bool.eq_false_iff.mpr selecting]

/-! ## Calls of the host -/

/-- The text that a call feeds. -/
def Call.text : Call → List Char
  | .feed text => text
  | _ => []

def Call.isPoll : Call → Bool
  | .pollTimers _ => true
  | _ => false

/-- The timers are polled only while text is held back. -/
def pollsHeld (session : Session) : List (Nat × Call) → Bool
  | [] => true
  | (now, made) :: rest =>
      (!made.isPoll || session.isHeld) && ((session.atTime now).call made).pollsHeld rest

/-- The session has done nothing yet, and nothing of it is drawn. -/
structure Fresh (session : Session) : Prop where
  hold_eq : session.hold = {}
  settled_eq : session.console.settled = session.console
  pending_eq : session.console.interpreter.pending = #[]
  wellFormed : ∃ lines columns limit, session.terminal.WellFormed lines columns limit
  full : session.terminal.damage.full = true

/-- A session begins with a blank terminal and with nothing but its settings. -/
theorem eq_of_ofSettings
    {settings : Settings} {session : Session}
    (made : ofSettings settings = .ok session) :
    ∃ palette, 0 < settings.lines ∧ 0 < settings.columns ∧
      session =
        { console := { terminal := blankTerminal settings palette }
          sequenceTimeout := period? settings.sequenceTimeout
          blinkPeriod := period? settings.blinkPeriod
          blinkDeadline := period? settings.blinkPeriod } := by
  by_cases empty : settings.lines = 0 ∨ settings.columns = 0
  · simp [ofSettings, Settings.validate, empty, bind, Except.bind] at made
  · cases chosen : settings.palette.palette? with
    | error reason =>
        simp [ofSettings, Settings.validate, empty, chosen, bind, Except.bind] at made
    | ok palette =>
        simp only [ofSettings, Settings.validate, Settings.fullPalette, if_neg empty, chosen, bind,
          Except.bind, pure, Except.pure, Except.ok.injEq] at made
        exact ⟨_, by omega, by omega, made.symm⟩

theorem fresh_ofSettings
    {settings : Settings} {session : Session}
    (made : ofSettings settings = .ok session) :
    session.Fresh := by
  obtain ⟨palette, linesPositive, columnsPositive, rfl⟩ := eq_of_ofSettings made
  have blank :
      (Terminal.blank settings.lines settings.columns settings.historyLimit).WellFormed
        settings.lines settings.columns settings.historyLimit :=
    .blank linesPositive columnsPositive settings.historyLimit
  exact ⟨rfl, rfl, rfl, ⟨_, _, _, { blank with }⟩, rfl⟩

namespace Fresh

variable (fresh : start.Fresh)
include fresh

theorem feed_spec (text : List Char) :
    (start.feed text).console = (start.console.feed text).settled ∧
      (start.feed text).replies =
        start.replies ++ (start.console.feed text).replies.toList.map Reply.text := by
  have fed : start.feed text = start.interpret text := by
    have notHeld : start.hold.isHeld = false := by
      rw [fresh.hold_eq]
      rfl
    unfold feed Hold.pass
    rw [notHeld]
    rfl
  obtain ⟨consoleEq, _, repliesEq⟩ := interpret_spec start text
  rw [fed]
  exact ⟨consoleEq, repliesEq⟩

theorem full_feed (text : List Char) : (start.feed text).terminal.damage.full = true := by
  obtain ⟨lines, columns, limit, wellFormed⟩ := fresh.wellFormed
  rw [terminal, (fresh.feed_spec text).1]
  exact Console.full_feed wellFormed fresh.full text

end Fresh

/-- The session has read some of the text as the fresh one would, and holds
back the rest. -/
structure Follows (start : Session) (text : List Char) (session : Session) : Prop where
  exists_read : ∃ read,
    session.console = (start.feed read).console ∧
      session.replies = (start.feed read).replies ∧ read ++ session.hold.parked = text
  parked_eq : session.hold.depth = 0 → session.hold.parked = []

namespace Follows

variable {text : List Char}

theorem of_fresh (fresh : start.Fresh) : start.Follows [] start where
  exists_read := by
    have unread : start.console.feed [] = start.console := Console.flush_eq_self fresh.pending_eq
    have nothingOwed : start.console.replies = #[] :=
      (congrArg Console.replies fresh.settled_eq).symm
    obtain ⟨consoleEq, repliesEq⟩ := fresh.feed_spec []
    refine ⟨[], ?_, ?_, ?_⟩
    · rw [consoleEq, unread, fresh.settled_eq]
    · rw [repliesEq, unread, nothingOwed]
      exact (List.append_nil _).symm
    · rw [fresh.hold_eq]
      rfl
  parked_eq := fun _ => by rw [fresh.hold_eq]

theorem of_alike
    {other : Session}
    (follows : start.Follows text session)
    (alike : session.Alike other) :
    start.Follows text other where
  exists_read := by
    rw [alike.console_eq, alike.replies_eq, alike.hold_eq]
    exact follows.exists_read
  parked_eq := by
    rw [alike.hold_eq]
    exact follows.parked_eq

/-- What is interpreted after some text that was read is read with it. -/
theorem interpret
    (fresh : start.Fresh)
    {read more : List Char}
    (consoleEq : session.console = (start.feed read).console)
    (repliesEq : session.replies = (start.feed read).replies)
    (nothingParked : session.hold.parked = []) :
    start.Follows (read ++ more) (session.interpret more) := by
  obtain ⟨readConsole, readReplies⟩ := fresh.feed_spec read
  obtain ⟨allConsole, allReplies⟩ := fresh.feed_spec (read ++ more)
  obtain ⟨lastConsole, lastHold, lastReplies⟩ := interpret_spec session more
  obtain ⟨settledEq, owedEq⟩ := (start.console.feed read).feed_settled more
  rw [consoleEq, readConsole] at lastConsole lastReplies
  refine ⟨⟨read ++ more, ?_, ?_, ?_⟩, ?_⟩
  · rw [lastConsole, allConsole, settledEq, Console.feed_append]
  · rw [lastReplies, allReplies, repliesEq, readReplies, Console.feed_append, owedEq,
      Array.toList_append, List.map_append, List.append_assoc]
  · rw [lastHold, nothingParked, List.append_nil]
  · intro _
    rw [lastHold, nothingParked]

theorem feed
    (fresh : start.Fresh)
    (follows : start.Follows text session) (more : List Char) :
    start.Follows (text ++ more) (session.feed more) := by
  obtain ⟨read, consoleEq, repliesEq, rfl⟩ := follows.exists_read
  by_cases held : session.isHeld = true
  · rw [feed_of_held held]
    refine ⟨⟨read, consoleEq, repliesEq, (List.append_assoc _ _ _).symm⟩, ?_⟩
    intro noDepth
    have depth : session.hold.depth > 0 := by simpa [isHeld, Hold.isHeld] using held
    exact absurd noDepth (Nat.ne_of_gt depth)
  · rw [feed_of_not_held (eq_false_of_ne_true held)]
    have noDepth : session.hold.depth = 0 := by simpa [isHeld, Hold.isHeld] using held
    have nothingParked := follows.parked_eq noDepth
    rw [nothingParked, List.append_nil]
    exact interpret fresh consoleEq repliesEq nothingParked

theorem freeze (follows : start.Follows text session) : start.Follows text session.freeze where
  exists_read := follows.exists_read
  parked_eq := fun noDepth => absurd noDepth (Nat.succ_ne_zero _)

theorem unfreeze (fresh : start.Fresh) (follows : start.Follows text session) :
    start.Follows text session.unfreeze := by
  obtain ⟨read, consoleEq, repliesEq, rfl⟩ := follows.exists_read
  unfold Session.unfreeze Hold.unfreeze
  by_cases last : session.hold.depth = 1 ∧ session.hold.parked ≠ []
  · rw [if_pos last]
    exact interpret fresh consoleEq repliesEq rfl
  · rw [if_neg last]
    dsimp only
    -- Either holds remain, or the last one is lifted and nothing was parked under it.
    have lifted :
        start.Follows (read ++ session.hold.parked)
          { session with hold := { session.hold with depth := session.hold.depth - 1 } } := by
      refine ⟨⟨read, consoleEq, repliesEq, rfl⟩, fun noDepth => ?_⟩
      by_cases wasHeld : session.hold.depth = 1
      · by_contra parked
        exact last ⟨wasHeld, parked⟩
      · exact follows.parked_eq (by dsimp only at noDepth; omega)
    split
    · exact lifted
    · exact lifted.of_alike ⟨rfl, rfl, rfl⟩

theorem release (fresh : start.Fresh) (follows : start.Follows text session) :
    start.Follows text session.release := by
  unfold Session.release
  split
  · exact unfreeze fresh (follows.of_alike ⟨rfl, rfl, rfl⟩)
  · exact follows

theorem startSelection
    (fresh : start.Fresh) (follows : start.Follows text session) (x y : Nat) :
    start.Follows text (session.startSelection x y).1 := by
  unfold Session.startSelection
  split
  · exact release fresh (follows.of_alike ⟨rfl, rfl, rfl⟩)
  · exact freeze (follows.of_alike ⟨rfl, rfl, rfl⟩)

theorem extendSelection (follows : start.Follows text session) (x y : Nat) :
    start.Follows text (session.extendSelection x y).1 := by
  unfold Session.extendSelection
  split
  · exact follows
  · exact follows.of_alike ⟨rfl, rfl, rfl⟩

theorem pollTimers
    (fresh : start.Fresh)
    (follows : start.Follows text session)
    (held : session.isHeld = true)
    (now : Nat) :
    start.Follows text (session.pollTimers now) := by
  have waits : session.pollGuard now = session := by
    unfold pollGuard
    split
    · rw [held]
      simp
    · rfl
  -- Nothing was drawn since the session began, so that a blink marks nothing new.
  have full : session.terminal.damage.full = true := by
    obtain ⟨read, consoleEq, _⟩ := follows.exists_read
    rw [terminal, consoleEq]
    exact fresh.full_feed read
  have blinks : session.Alike (session.pollBlink now) := by
    unfold pollBlink
    split
    · split
      · exact ⟨by rw [Terminal.markBlink_of_full full]; rfl, rfl, rfl⟩
      · exact .refl session
    · exact .refl session
  unfold Session.pollTimers
  rw [waits]
  exact follows.of_alike blinks

theorem call
    (fresh : start.Fresh)
    (follows : start.Follows text session)
    {made : Call}
    (polls : made.isPoll = true → session.isHeld = true) :
    start.Follows (text ++ made.text) (session.call made) := by
  have unfed : made.text = [] → start.Follows text (session.call made) →
      start.Follows (text ++ made.text) (session.call made) := by
    intro nothing kept
    rw [nothing, List.append_nil]
    exact kept
  cases made with
  | feed more => exact feed fresh follows more
  | freeze => exact unfed rfl (freeze follows)
  | unfreeze => exact unfed rfl (unfreeze fresh follows)
  | startSelection x y => exact unfed rfl (startSelection fresh follows x y)
  | extendSelection x y => exact unfed rfl (extendSelection follows x y)
  | endSelection => exact unfed rfl (release fresh (follows.of_alike ⟨rfl, rfl, rfl⟩))
  | selectAll => exact unfed rfl ((release fresh follows).of_alike ⟨rfl, rfl, rfl⟩)
  | clearSelection => exact unfed rfl (release fresh (follows.of_alike ⟨rfl, rfl, rfl⟩))
  | pollTimers now => exact unfed rfl (pollTimers fresh follows (polls rfl) now)

/-- What one call keeps is kept by any number of them. -/
theorem calls
    (fresh : start.Fresh)
    (follows : start.Follows text session)
    {made : List (Nat × Call)}
    (polls : session.pollsHeld made = true) :
    start.Follows (text ++ made.flatMap fun (_, each) => each.text) (session.calls made) := by
  induction made generalizing session text with
  | nil =>
      rw [List.flatMap_nil, List.append_nil]
      exact follows
  | cons head rest inductionHypothesis =>
      obtain ⟨now, each⟩ := head
      simp only [pollsHeld, Bool.and_eq_true, Bool.or_eq_true, Bool.not_eq_true'] at polls
      obtain ⟨here, later⟩ := polls
      have atNow : start.Follows text (session.atTime now) := follows.of_alike ⟨rfl, rfl, rfl⟩
      have heldHere : each.isPoll = true → (session.atTime now).isHeld = true := by
        intro isPoll
        rcases here with notPoll | held
        · rw [isPoll] at notPoll
          cases notPoll
        · exact held
      rw [List.flatMap_cons, ← List.append_assoc]
      exact inductionHypothesis (call fresh atNow heldHere) later

end Follows

/-- Freezing and selecting are transparent. A session that ends up holding
nothing back has the console, with both screens, the history, the cursor and
the reading of the stream, and has made the replies, of one that was fed all of
the text at once. -/
theorem calls_eq_feed
    {settings : Settings} {start : Session}
    (begun : ofSettings settings = .ok start)
    {made : List (Nat × Call)}
    (polls : start.pollsHeld made = true)
    (ended : (start.calls made).isHeld = false) :
    let whole := start.feed (made.flatMap fun (_, each) => each.text)
    (start.calls made).console = whole.console ∧ (start.calls made).replies = whole.replies := by
  intro whole
  have fresh := fresh_ofSettings begun
  have follows := Follows.calls fresh (.of_fresh fresh) polls
  obtain ⟨read, consoleEq, repliesEq, readAll⟩ := follows.exists_read
  have noDepth : (start.calls made).hold.depth = 0 := by
    simpa [isHeld, Hold.isHeld] using ended
  rw [follows.parked_eq noDepth, List.append_nil, List.nil_append] at readAll
  subst readAll
  exact ⟨consoleEq, repliesEq⟩

/-- A sequence cut by a hold and by a selection, a reply owed under them, a
hold too many lifted, and a blink in between. -/
theorem calls_eq_feed_cut_sequence :
    let settings : Settings := { lines := 2, columns := 3, historyLimit := 1, sequenceTimeout := 5 }
    let start : Session :=
      { console := { terminal := blankTerminal settings {} }
        sequenceTimeout := some 5, blinkPeriod := some 500, blinkDeadline := some 500 }
    let made : List (Nat × Call) :=
      [(0, .unfreeze), (1, .feed "ab\x1b[".toList), (2, .startSelection 1 0),
        (3, .feed "6".toList), (4, .freeze), (900, .pollTimers 900), (901, .feed "nc\r\n".toList),
        (902, .endSelection), (903, .extendSelection 0 1), (904, .feed "d\ne\nf".toList),
        (905, .unfreeze), (906, .selectAll), (907, .clearSelection)]
    let whole := start.feed (made.flatMap fun (_, each) => each.text)
    ofSettings settings = .ok start ∧ start.pollsHeld made = true ∧
      (start.calls made).isHeld = false ∧
      (start.calls made).console = whole.console ∧ (start.calls made).replies = whole.replies := by
  intro settings start made whole
  have begun : ofSettings settings = .ok start := rfl
  have polls : start.pollsHeld made = true := by decide +kernel
  have ended : (start.calls made).isHeld = false := by decide +kernel
  exact ⟨begun, polls, ended, calls_eq_feed begun polls ended⟩

end Session

end VideoTerminal
