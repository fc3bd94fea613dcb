import VideoTerminal.Proofs.Hosting

/-!
Timers. A session has something to do at its next deadline and never before;
once its timers have been polled, the next deadline is yet to come. The guard
is armed only while a sequence is being read, and takes nothing with it but
that sequence.
-/

namespace VideoTerminal.Session

open Transport

variable {session first second third : Session}

/-! ## What sets no timer -/

/-- The sessions have set the same timers and read the same sequence. -/
structure SameTimers (first second : Session) : Prop where
  interpreter_eq : second.console.interpreter = first.console.interpreter
  sequenceTimeout_eq : second.sequenceTimeout = first.sequenceTimeout
  guardDeadline_eq : second.guardDeadline = first.guardDeadline
  blinkPeriod_eq : second.blinkPeriod = first.blinkPeriod
  blinkDeadline_eq : second.blinkDeadline = first.blinkDeadline

namespace SameTimers

theorem refl (session : Session) : session.SameTimers session :=
  ⟨rfl, rfl, rfl, rfl, rfl⟩

theorem trans (before : first.SameTimers second) (after : second.SameTimers third) :
    first.SameTimers third where
  interpreter_eq := after.interpreter_eq.trans before.interpreter_eq
  sequenceTimeout_eq := after.sequenceTimeout_eq.trans before.sequenceTimeout_eq
  guardDeadline_eq := after.guardDeadline_eq.trans before.guardDeadline_eq
  blinkPeriod_eq := after.blinkPeriod_eq.trans before.blinkPeriod_eq
  blinkDeadline_eq := after.blinkDeadline_eq.trans before.blinkDeadline_eq

theorem setConnected (session : Session) (up : Bool) :
    session.SameTimers (session.setConnected up) := by
  rw [Session.setConnected]
  split
  · exact refl session
  · exact ⟨rfl, rfl, rfl, rfl, rfl⟩

theorem send (session : Session) (text : String) : session.SameTimers (session.send text).1 := by
  rw [Session.send]
  split
  · next handed =>
      obtain ⟨channel, stream, rfl⟩ := handOver_eq handed
      exact ⟨rfl, rfl, rfl, rfl, rfl⟩
  · split
    · exact refl session
    · exact setConnected session false

theorem foldl_reply (session : Session) (owed : List Reply) :
    session.SameTimers (owed.foldl reply session) :=
  List.foldlRecOn owed reply (motive := session.SameTimers) (refl session)
    fun current same each _ =>
      same.trans ((send current each.text).trans ⟨rfl, rfl, rfl, rfl, rfl⟩)

theorem announceTitle (session : Session) : session.SameTimers session.announceTitle := by
  simp only [Session.announceTitle]
  split <;> exact ⟨rfl, rfl, rfl, rfl, rfl⟩

theorem followText (session : Session) (wasAlternate : Bool) :
    session.SameTimers (session.followText wasAlternate) := by
  simp only [Session.followText]
  split
  · exact ⟨rfl, rfl, rfl, rfl, rfl⟩
  · split
    · exact ⟨rfl, rfl, rfl, rfl, rfl⟩
    · split <;> exact ⟨rfl, rfl, rfl, rfl, rfl⟩

theorem close (session : Session) : session.SameTimers session.close := by
  rw [Session.close]
  split <;> exact ⟨rfl, rfl, rfl, rfl, rfl⟩

theorem attachChannel (session : Session) (channel : Channel) :
    session.SameTimers (session.attachChannel channel).1 := by
  have closed := close session
  rw [Session.attachChannel]
  split
  · exact { closed with }
  · split <;> exact { closed with }

theorem attachStream (session : Session) (reads : List Read) :
    session.SameTimers (session.attachStream reads).1 := by
  have closed := close session
  rw [Session.attachStream]
  split <;> exact { closed with }

theorem reportSize
    {lines columns : Nat} {reported : Session}
    (done : session.reportSize lines columns = .ok reported) :
    session.SameTimers reported := by
  rw [Session.reportSize] at done
  split at done
  · cases done
    exact refl session
  · cases done
    exact refl session
  · cases setting : session.channel.setSize lines columns with
    | error reason =>
        rw [setting] at done
        cases done
    | ok channel =>
        rw [setting] at done
        cases done
        exact ⟨rfl, rfl, rfl, rfl, rfl⟩

end SameTimers

/-! ## What holds of the timers of every session -/

/-- Blinking content is turned on and off with a period, or not at all. -/
structure Blinks (session : Session) : Prop where
  isSome_eq : session.blinkDeadline.isSome = session.blinkPeriod.isSome
  period_pos : ∀ period ∈ session.blinkPeriod, 0 < period

/-- The guard watches a sequence that is being read, and there is a limit for
it. -/
def Guarded (session : Session) : Prop :=
  ∀ deadline ∈ session.guardDeadline,
    session.sequenceTimeout ≠ none ∧ session.console.interpreter.isGround = false

/-- The timers of a session are set as they should be. -/
structure Timed (session : Session) : Prop where
  blinks : session.Blinks
  guarded : session.Guarded

theorem Blinks.of_same (blinks : first.Blinks) (same : first.SameTimers second) :
    second.Blinks where
  isSome_eq := by
    rw [same.blinkDeadline_eq, same.blinkPeriod_eq]
    exact blinks.isSome_eq
  period_pos := by
    rw [same.blinkPeriod_eq]
    exact blinks.period_pos

theorem Guarded.of_same (guarded : first.Guarded) (same : first.SameTimers second) :
    second.Guarded := by
  rw [Guarded, same.guardDeadline_eq, same.sequenceTimeout_eq, same.interpreter_eq]
  exact guarded

/-- Nothing is watched when the guard is not armed. -/
theorem Guarded.of_none (unarmed : session.guardDeadline = none) : session.Guarded := by
  intro deadline armed
  rw [unarmed] at armed
  cases armed

theorem Guarded.armGuard (session : Session) : session.armGuard.Guarded := by
  intro deadline armed
  change (if session.console.interpreter.isGround then none
    else session.sequenceTimeout.map (session.clock + ·)) = some deadline at armed
  split at armed
  · cases armed
  · next reading =>
      obtain ⟨limit, given, -⟩ := Option.map_eq_some_iff.mp armed
      refine ⟨?_, Bool.eq_false_iff.mpr reading⟩
      change session.sequenceTimeout ≠ none
      rw [given]
      exact Option.some_ne_none limit

theorem Blinks.armGuard (blinks : session.Blinks) : session.armGuard.Timed :=
  ⟨⟨blinks.isSome_eq, blinks.period_pos⟩, .armGuard session⟩

/-- Text is interpreted with the guard armed last, whatever it was before. -/
theorem Blinks.interpret (blinks : session.Blinks) (text : List Char) :
    (session.interpret text).Timed := by
  let read := (session.console.feed text).takeReplies
  have fed : { session with console := read.1 }.Blinks := ⟨blinks.isSome_eq, blinks.period_pos⟩
  have followed :=
    ((SameTimers.foldl_reply { session with console := read.1 } read.2).trans
      (.announceTitle _)).trans (.followText _ session.terminal.onAlternate)
  exact (fed.of_same followed).armGuard

namespace Timed

theorem of_same (timed : first.Timed) (same : first.SameTimers second) : second.Timed :=
  ⟨timed.blinks.of_same same, timed.guarded.of_same same⟩

/-! ### Text -/

theorem feed (timed : session.Timed) (text : List Char) : (session.feed text).Timed := by
  have held : { session with hold := (session.hold.pass text).1 }.Timed :=
    timed.of_same ⟨rfl, rfl, rfl, rfl, rfl⟩
  simp only [Session.feed]
  split
  · exact held.blinks.interpret _
  · exact held

theorem unfreeze (timed : session.Timed) : session.unfreeze.Timed := by
  have lifted : { session with hold := session.hold.unfreeze.1 }.Timed :=
    timed.of_same ⟨rfl, rfl, rfl, rfl, rfl⟩
  simp only [Session.unfreeze]
  split
  · exact lifted.blinks.interpret _
  · split
    · exact lifted
    · exact lifted.blinks.armGuard

theorem abortSequence (timed : session.Timed) : session.abortSequence.Timed :=
  ⟨⟨timed.blinks.isSome_eq, timed.blinks.period_pos⟩, .of_none rfl⟩

/-! ### The selection -/

theorem release (timed : session.Timed) : session.release.Timed := by
  have released : { session with selecting := false }.Timed :=
    timed.of_same ⟨rfl, rfl, rfl, rfl, rfl⟩
  rw [Session.release]
  split
  · exact released.unfreeze
  · exact timed

theorem clearSelection (timed : session.Timed) : session.clearSelection.Timed := by
  have deselected : { session with selection := none }.Timed :=
    timed.of_same ⟨rfl, rfl, rfl, rfl, rfl⟩
  exact deselected.release

theorem startSelection (timed : session.Timed) (x y : Nat) :
    (session.startSelection x y).1.Timed := by
  rw [Session.startSelection]
  split
  · exact timed.clearSelection
  · exact timed.of_same ⟨rfl, rfl, rfl, rfl, rfl⟩

theorem extendSelection (timed : session.Timed) (x y : Nat) :
    (session.extendSelection x y).1.Timed := by
  rw [Session.extendSelection]
  split
  · exact timed
  · exact timed.of_same ⟨rfl, rfl, rfl, rfl, rfl⟩

theorem endSelection (timed : session.Timed) : session.endSelection.Timed := by
  have finished :
      { session with selection := session.selection.map Selection.finish }.Timed :=
    timed.of_same ⟨rfl, rfl, rfl, rfl, rfl⟩
  exact finished.release

theorem selectAll (timed : session.Timed) : session.selectAll.Timed :=
  timed.release.of_same ⟨rfl, rfl, rfl, rfl, rfl⟩

/-! ### The terminal -/

theorem pollGuard (timed : session.Timed) (now : Nat) : (session.pollGuard now).Timed := by
  rw [Session.pollGuard]
  split
  · split
    · exact timed.abortSequence
    · exact timed
  · exact timed

theorem pollBlink (timed : session.Timed) (now : Nat) : (session.pollBlink now).Timed := by
  rw [Session.pollBlink]
  split
  · next deadline period _ given =>
      split
      · have periodic : session.blinkPeriod.isSome = true := Option.isSome_of_eq_some given
        exact ⟨⟨periodic.symm, timed.blinks.period_pos⟩, timed.guarded⟩
      · exact timed
  · exact timed

theorem resize (timed : session.Timed) (lines columns : Nat) :
    (session.resize lines columns).1.Timed := by
  simp only [Session.resize]
  split
  · exact timed
  · next resized _ =>
      have unguarded : { session.withTerminal resized with guardDeadline := none }.Timed :=
        ⟨⟨timed.blinks.isSome_eq, timed.blinks.period_pos⟩, .of_none rfl⟩
      split
      · next reported done => exact unguarded.clearSelection.of_same (.reportSize done)
      · exact unguarded.clearSelection

theorem reset (timed : session.Timed) : session.reset.Timed :=
  ⟨⟨timed.blinks.isSome_eq, timed.blinks.period_pos⟩, .of_none rfl⟩

/-! ### The host and the remote side -/

theorem call (timed : session.Timed) (made : Call) : (session.call made).Timed := by
  cases made with
  | feed text => exact timed.feed text
  | freeze => exact timed.of_same ⟨rfl, rfl, rfl, rfl, rfl⟩
  | unfreeze => exact timed.unfreeze
  | startSelection x y => exact timed.startSelection x y
  | extendSelection x y => exact timed.extendSelection x y
  | endSelection => exact timed.endSelection
  | selectAll => exact timed.selectAll
  | clearSelection => exact timed.clearSelection
  | pollTimers now => exact (timed.pollGuard now).pollBlink now

theorem sendKey (timed : session.Timed) (press : KeyPress) :
    (session.sendKey press).1.Timed := by
  rw [Session.sendKey]
  split
  · next text _ => exact timed.of_same (.send session text)
  · exact timed

theorem receive (timed : session.Timed) (event : Event) : (session.receive event).Timed := by
  cases event with
  | text text => exact timed.feed text
  | connection up => exact timed.of_same (.setConnected session up)

theorem processOutput (timed : session.Timed) : session.processOutput.1.Timed := by
  have emptied : { session with mailbox := [] }.Timed :=
    timed.of_same ⟨rfl, rfl, rfl, rfl, rfl⟩
  exact List.foldlRecOn session.mailbox Session.receive (motive := Timed) emptied
    fun _ current event _ => current.receive event

theorem act (timed : session.Timed) (done : Act) : (session.act done).Timed := by
  cases done with
  | call made => exact timed.call made
  | abortSequence => exact timed.abortSequence
  | resize lines columns => exact timed.resize lines columns
  | reset => exact timed.reset
  | send text => exact timed.of_same (.send session text)
  | sendKey press => exact timed.sendKey press
  | attachChannel channel => exact timed.of_same (.attachChannel session channel)
  | attachStream reads => exact timed.of_same (.attachStream session reads)
  | close => exact timed.of_same (.close session)
  | processOutput => exact timed.processOutput
  | takeDamage | takeNotices | remote => exact timed.of_same ⟨rfl, rfl, rfl, rfl, rfl⟩

theorem atTime (timed : session.Timed) (now : Nat) : (session.atTime now).Timed :=
  timed.of_same ⟨rfl, rfl, rfl, rfl, rfl⟩

theorem acts (timed : session.Timed) (done : List (Nat × Act)) : (session.acts done).Timed :=
  List.foldlRecOn done _ (motive := Timed) timed fun _ current next _ =>
    (current.atTime next.1).act next.2

end Timed

theorem timed_ofSettings
    {settings : Settings}
    (made : ofSettings settings = .ok session) :
    session.Timed := by
  obtain ⟨_, -, -, rfl⟩ := eq_of_ofSettings made
  refine ⟨⟨rfl, ?_⟩, .of_none rfl⟩
  intro period given
  change period? settings.blinkPeriod = some period at given
  rw [period?] at given
  split at given
  · cases given
  · next periodic =>
      cases given
      exact Nat.pos_of_ne_zero periodic

theorem Reachable.timed (reachable : session.Reachable) : session.Timed := by
  obtain ⟨settings, start, done, made, rfl⟩ := reachable
  exact (timed_ofSettings made).acts done

/-! ## Polling -/

/-- No timer is due: neither the guard, which waits while text is held back,
nor the blinking. -/
def Idle (session : Session) (now : Nat) : Prop :=
  (session.isHeld = false → ∀ deadline ∈ session.guardDeadline, now < deadline) ∧
    ∀ deadline ∈ session.blinkDeadline, now < deadline

theorem idle_iff (session : Session) (now : Nat) :
    session.Idle now ↔ ∀ deadline ∈ session.nextDeadline, now < deadline := by
  rw [Idle, nextDeadline]
  cases session.isHeld with
  | true => simp
  | false =>
      cases session.guardDeadline with
      | none => simp
      | some first =>
          cases session.blinkDeadline with
          | none => simp
          | some second =>
              simp only [Option.mem_some_iff, forall_eq', forall_const, Bool.false_eq_true,
                if_false, Nat.lt_min]

theorem pollGuard_of_idle {now : Nat} (idle : session.Idle now) :
    session.pollGuard now = session := by
  rw [pollGuard]
  split
  · next deadline armed =>
      refine if_neg fun due => ?_
      obtain ⟨passed, free⟩ := due
      have later := idle.1 (by simpa using free) deadline armed
      omega
  · rfl

theorem pollBlink_of_idle {now : Nat} (idle : session.Idle now) :
    session.pollBlink now = session := by
  rw [pollBlink]
  split
  · next deadline period set _ => exact if_neg (Nat.not_le.mpr (idle.2 deadline set))
  · rfl

theorem pollTimers_of_idle {now : Nat} (idle : session.Idle now) :
    session.pollTimers now = session := by
  rw [pollTimers, pollGuard_of_idle idle, pollBlink_of_idle idle]

/-- The guard is no concern of the blinking. -/
theorem pollBlink_frame (session : Session) (now : Nat) :
    (session.pollBlink now).console.interpreter = session.console.interpreter ∧
      (session.pollBlink now).isHeld = session.isHeld ∧
      (session.pollBlink now).guardDeadline = session.guardDeadline := by
  rw [pollBlink]
  split
  · split <;> exact ⟨rfl, rfl, rfl⟩
  · exact ⟨rfl, rfl, rfl⟩

/-- The guard has done what it had to. -/
theorem guard_pollTimers (session : Session) (now : Nat) :
    (session.pollTimers now).isHeld = false →
      ∀ deadline ∈ (session.pollTimers now).guardDeadline, now < deadline := by
  obtain ⟨-, sameHold, sameGuard⟩ := pollBlink_frame (session.pollGuard now) now
  rw [pollTimers, sameHold, sameGuard, pollGuard]
  split
  · next armedUntil armed =>
      split
      · intro _ _ unarmed
        cases unarmed
      · next early =>
          intro free deadline same
          obtain rfl : armedUntil = deadline := Option.some.inj (armed.symm.trans same)
          exact Nat.lt_of_not_le fun passed => early ⟨passed, by simp [free]⟩
  · next unarmed =>
      intro _ deadline armed
      rw [unarmed] at armed
      cases armed

/-- Blinking content is turned on or off next after a period has passed. -/
theorem Timed.blink_pollTimers (timed : session.Timed) (now : Nat) :
    ∀ deadline ∈ (session.pollTimers now).blinkDeadline, now < deadline := by
  have guarded := timed.pollGuard now
  intro deadline set
  rw [pollTimers, Session.pollBlink] at set
  split at set
  · next before period was given =>
      split at set
      · obtain rfl : now + period = deadline := Option.some.inj set
        exact Nat.lt_add_of_pos_right (guarded.blinks.period_pos period given)
      · next early =>
          obtain rfl : before = deadline := Option.some.inj (was.symm.trans set)
          exact Nat.lt_of_not_le early
  · next unset =>
      have periodic := guarded.blinks.isSome_eq
      rw [set] at periodic
      obtain ⟨period, given⟩ := Option.isSome_iff_exists.mp periodic.symm
      exact absurd given (unset deadline period set)

theorem Timed.idle_pollTimers (timed : session.Timed) (now : Nat) :
    (session.pollTimers now).Idle now :=
  ⟨guard_pollTimers session now, timed.blink_pollTimers now⟩

/-- Polling changes a session just if a timer is due. -/
theorem Timed.pollTimers_eq_self_iff (timed : session.Timed) (now : Nat) :
    session.pollTimers now = session ↔ session.Idle now := by
  refine ⟨?_, pollTimers_of_idle⟩
  intro unchanged
  have idle := timed.idle_pollTimers now
  rwa [unchanged] at idle

/-! ## The guard goes off -/

theorem terminal_pollBlink (session : Session) (now : Nat) :
    ∃ damage, (session.pollBlink now).terminal = { session.terminal with damage } := by
  rw [pollBlink]
  split
  · split
    · exact ⟨_, Terminal.markBlink_frame _⟩
    · exact ⟨_, rfl⟩
  · exact ⟨_, rfl⟩

theorem pollGuard_of_due
    {deadline now : Nat}
    (armed : session.guardDeadline = some deadline)
    (passed : deadline ≤ now)
    (free : session.isHeld = false) :
    session.pollGuard now = session.abortSequence := by
  rw [pollGuard, armed]
  exact if_pos ⟨passed, by rw [free]; rfl⟩

/-- The sequence is left and forgotten. What is to be drawn again because of
blinking aside, the terminal is the same. -/
theorem Sound.pollTimers_of_guard
    (sound : session.Sound)
    {deadline now : Nat}
    (armed : session.guardDeadline = some deadline)
    (passed : deadline ≤ now)
    (free : session.isHeld = false) :
    (session.pollTimers now).console.interpreter = {} ∧
      (session.pollTimers now).guardDeadline = none ∧
      ∃ damage, (session.pollTimers now).terminal = { session.terminal with damage } := by
  have fired := pollGuard_of_due armed passed free
  obtain ⟨damage, drawn⟩ := terminal_pollBlink session.abortSequence now
  obtain ⟨sameReading, -, sameGuard⟩ := pollBlink_frame session.abortSequence now
  rw [pollTimers, fired]
  refine ⟨sameReading, sameGuard, damage, ?_⟩
  rw [drawn, sound.terminal_abortSequence]

/-- Whatever was done with a session, polling its timers changes nothing before
the next deadline and something from then on, and the deadline after it is
later. The guard is armed only over a sequence that is being read under a limit;
when it goes off, no sequence is being read and the terminal shows what it
showed. -/
theorem pollTimers_exact (reachable : session.Reachable) :
    (∀ now,
      ((∀ deadline ∈ session.nextDeadline, now < deadline) → session.pollTimers now = session) ∧
        ∀ deadline ∈ session.nextDeadline, deadline ≤ now →
          session.pollTimers now ≠ session ∧
            ∀ later ∈ (session.pollTimers now).nextDeadline, now < later) ∧
      ∀ guard ∈ session.guardDeadline,
        session.sequenceTimeout ≠ none ∧ session.console.interpreter.phase ≠ .ground ∧
          ∀ now, guard ≤ now → session.isHeld = false →
            (session.pollTimers now).console.interpreter =
                { phase := .ground, parameters := {}, pending := #[] } ∧
              (session.pollTimers now).guardDeadline = none ∧
              ∃ damage, (session.pollTimers now).terminal = { session.terminal with damage } := by
  have timed := reachable.timed
  refine ⟨?_, ?_⟩
  · intro now
    refine ⟨fun early => pollTimers_of_idle ((session.idle_iff now).mpr early), ?_⟩
    intro deadline next passed
    refine ⟨?_, ((session.pollTimers now).idle_iff now).mp (timed.idle_pollTimers now)⟩
    rw [ne_eq, timed.pollTimers_eq_self_iff, idle_iff]
    exact fun early => Nat.not_lt.mpr passed (early deadline next)
  · intro guard armed
    obtain ⟨limited, reading⟩ := timed.guarded guard armed
    refine ⟨limited, ?_, fun _ passed free => reachable.sound.pollTimers_of_guard armed passed free⟩
    rintro ground
    rw [Interpreter.isGround, ground] at reading
    cases reading

/-- A sequence is left unfinished, and text comes while the session is frozen.
The guard waits, the blinking does not; after the thaw the guard goes off. -/
theorem pollTimers_exact_unfinished :
    let settings : Settings := { lines := 1, columns := 2, sequenceTimeout := 100 }
    let start : Session :=
      { console := { terminal := blankTerminal settings {} }
        sequenceTimeout := some 100, blinkPeriod := some 500, blinkDeadline := some 500 }
    let frozen : List (Nat × Act) := [(0, .call (.feed "a\x1b[3".toList)), (1, .call .freeze)]
    let thawed : List (Nat × Act) := frozen ++ [(450, .call .unfreeze)]
    ofSettings settings = .ok start ∧
      (start.acts frozen).guardDeadline = some 100 ∧
      (start.acts frozen).nextDeadline = some 500 ∧
      (start.acts frozen).pollTimers 499 = start.acts frozen ∧
      (start.acts thawed).nextDeadline = some 500 ∧
      (start.acts thawed).guardDeadline = some 550 ∧
      (start.acts thawed).console.interpreter.phase = .control ∧
      (start.acts thawed).pollTimers 600 ≠ start.acts thawed ∧
      ((start.acts thawed).pollTimers 600).nextDeadline = some 1100 ∧
      ((start.acts thawed).pollTimers 600).console.interpreter = {} := by
  intro settings start frozen thawed
  have begun : ofSettings settings = .ok start := rfl
  have waits : (start.acts frozen).nextDeadline = some 500 := by decide +kernel
  have armed : (start.acts thawed).guardDeadline = some 550 := by decide +kernel
  have next : (start.acts thawed).nextDeadline = some 500 := by decide +kernel
  have frozenPolled := (pollTimers_exact ⟨settings, start, frozen, begun, rfl⟩).1 499
  obtain ⟨thawedPolled, guarded⟩ := pollTimers_exact ⟨settings, start, thawed, begun, rfl⟩
  obtain ⟨-, -, goesOff⟩ := guarded 550 armed
  obtain ⟨ground, -, -⟩ := goesOff 600 (by decide) (by decide +kernel)
  refine ⟨begun, by decide +kernel, waits, frozenPolled.1 ?_, next, armed, by decide +kernel,
    ((thawedPolled 600).2 500 next (by decide)).1, by decide +kernel, ground⟩
  rw [waits]
  decide

end VideoTerminal.Session
