import VideoTerminal.Proofs.SelectionHold
import VideoTerminal.Proofs.Timers

/-!
A session of another size. The guard is disarmed and the selection cleared, in
this order: lifting the hold of a selection in progress arms the guard anew
when a sequence is being read, although the new size has just disarmed it.
-/

namespace VideoTerminal.Session

variable {session first second third : Session}

/-! ## What timers are set from -/

/-- The sessions have the same clock and limit, and blink next at the same
time. -/
structure SameClock (first second : Session) : Prop where
  clock_eq : second.clock = first.clock
  sequenceTimeout_eq : second.sequenceTimeout = first.sequenceTimeout
  blinkDeadline_eq : second.blinkDeadline = first.blinkDeadline

namespace SameClock

theorem refl (session : Session) : session.SameClock session :=
  ⟨rfl, rfl, rfl⟩

theorem trans (before : first.SameClock second) (after : second.SameClock third) :
    first.SameClock third where
  clock_eq := after.clock_eq.trans before.clock_eq
  sequenceTimeout_eq := after.sequenceTimeout_eq.trans before.sequenceTimeout_eq
  blinkDeadline_eq := after.blinkDeadline_eq.trans before.blinkDeadline_eq

theorem send (session : Session) (text : String) : session.SameClock (session.send text).1 := by
  rw [Session.send]
  split
  · next handed =>
      obtain ⟨channel, stream, rfl⟩ := handOver_eq handed
      exact ⟨rfl, rfl, rfl⟩
  · split
    · exact refl session
    · rw [Session.setConnected]
      split
      · exact refl session
      · exact ⟨rfl, rfl, rfl⟩

theorem foldl_reply (session : Session) (owed : List Reply) :
    session.SameClock (owed.foldl reply session) :=
  List.foldlRecOn owed reply (motive := session.SameClock) (refl session)
    fun current same each _ =>
      same.trans ((send current each.text).trans ⟨rfl, rfl, rfl⟩)

theorem announceTitle (session : Session) : session.SameClock session.announceTitle := by
  simp only [Session.announceTitle]
  split <;> exact ⟨rfl, rfl, rfl⟩

theorem followText (session : Session) (wasAlternate : Bool) :
    session.SameClock (session.followText wasAlternate) := by
  simp only [Session.followText]
  split
  · exact ⟨rfl, rfl, rfl⟩
  · split
    · exact ⟨rfl, rfl, rfl⟩
    · split <;> exact ⟨rfl, rfl, rfl⟩

end SameClock

/-- As long as nothing holds the guard up, the next deadline is the earlier one of
its and that of the blinking. -/
theorem nextDeadline_eq_merge
    (waits : session.guardDeadline ≠ none → session.isHeld = false) :
    session.nextDeadline = Option.merge min session.guardDeadline session.blinkDeadline := by
  rw [nextDeadline]
  cases armed : session.guardDeadline with
  | none =>
      rw [ite_self]
      cases session.blinkDeadline <;> rfl
  | some deadline =>
      rw [waits (by rw [armed]; exact Option.some_ne_none deadline)]
      cases session.blinkDeadline <;> rfl

/-- When the guard goes off if it is armed now. -/
def guardTime (session : Session) : Option Nat :=
  if session.console.interpreter.isGround then none
  else session.sequenceTimeout.map (session.clock + ·)

/-- The guard is armed last when text is interpreted. -/
theorem interpret_timers (session : Session) (text : List Char) :
    session.SameClock (session.interpret text) ∧
      (session.interpret text).guardDeadline = (session.interpret text).guardTime := by
  let read := (session.console.feed text).takeReplies
  have fed : session.SameClock { session with console := read.1 } := ⟨rfl, rfl, rfl⟩
  have answered := fed.trans (.foldl_reply { session with console := read.1 } read.2)
  have followed := (answered.trans (.announceTitle _)).trans
    (.followText _ session.terminal.onAlternate)
  exact ⟨followed.trans ⟨rfl, rfl, rfl⟩, rfl⟩

/-! ## The end of a selection in progress -/

/-- The session holds back text that is interpreted once the selection in
progress ends. -/
def Releases (session : Session) : Prop :=
  session.selecting = true ∧ session.hold.depth = 1 ∧ session.hold.parked ≠ []

/-- Nothing is held back any more once the selection in progress ends. -/
def Thaws (session : Session) : Prop :=
  session.selecting = true ∧ session.hold.depth ≤ 1

instance (session : Session) : Decidable session.Releases :=
  inferInstanceAs (Decidable (_ ∧ _))

instance (session : Session) : Decidable session.Thaws :=
  inferInstanceAs (Decidable (_ ∧ _))

/-- Without text to interpret, lifting the last hold arms the guard. -/
theorem unfreeze_of_nothing
    (shallow : session.hold.depth ≤ 1)
    (nothing : ¬(session.hold.depth = 1 ∧ session.hold.parked ≠ [])) :
    session.unfreeze = { session with hold := { session.hold with depth := 0 } }.armGuard := by
  have lifted : session.hold.depth - 1 = 0 := by omega
  unfold unfreeze Hold.unfreeze
  rw [if_neg nothing, lifted]
  rfl

/-- What the end of a selection in progress does: nothing without one; it lifts
one of several holds; it interprets the text that was held back; or it arms the
guard. -/
theorem release_cases (session : Session) :
    (session.selecting = false ∧ session.release = session) ∨
      (¬session.Thaws ∧
        session.release =
          { session with
            selecting := false
            hold := { session.hold with depth := session.hold.depth - 1 } }) ∨
      (session.Thaws ∧ session.Releases ∧
        session.release =
          { session with selecting := false, hold := {} }.interpret session.hold.parked) ∨
      (session.Thaws ∧ ¬session.Releases ∧
        session.release =
          { session with
            selecting := false
            hold := { session.hold with depth := 0 } }.armGuard) := by
  cases selecting : session.selecting with
  | false =>
      refine .inl ⟨rfl, if_neg ?_⟩
      rw [selecting]
      exact Bool.false_ne_true
  | true =>
      have released : session.release = { session with selecting := false }.unfreeze :=
        if_pos selecting
      rw [released]
      by_cases deep : 1 < session.hold.depth
      · have frozen : ¬session.Thaws := fun thaws => Nat.not_lt.mpr thaws.2 deep
        exact .inr (.inl ⟨frozen, @unfreeze_of_deep { session with selecting := false } deep⟩)
      · have thaws : session.Thaws := ⟨selecting, Nat.not_lt.mp deep⟩
        by_cases parked : session.hold.depth = 1 ∧ session.hold.parked ≠ []
        · refine .inr (.inr (.inl ⟨thaws, ⟨selecting, parked⟩, ?_⟩))
          unfold unfreeze Hold.unfreeze
          rw [if_pos parked]
        · exact .inr (.inr (.inr ⟨thaws, fun releases => parked releases.2,
            @unfreeze_of_nothing { session with selecting := false } thaws.2 parked⟩))

/-- What the end of a selection in progress leaves of an unguarded session
without a selection: nothing but the guard if there is no text to interpret. -/
theorem release_timers
    (unguarded : session.guardDeadline = none)
    (nothing : session.selection = none) :
    session.release.selection = none ∧
      session.release.selecting = false ∧
      session.SameClock session.release ∧
      (session.Thaws → session.release.isHeld = false) ∧
      session.release.guardDeadline =
        (if session.Thaws then session.release.guardTime else none) ∧
      (¬session.Releases → session.release.console = session.console) := by
  rcases session.release_cases with
    ⟨idle, stays⟩ | ⟨frozen, lifted⟩ | ⟨thaws, releases, read⟩ | ⟨thaws, silent, armed⟩
  · have frozen : ¬session.Thaws := fun thaws => Bool.false_ne_true (idle.symm.trans thaws.1)
    rw [stays, if_neg frozen]
    exact ⟨nothing, idle, .refl session, fun thaws => absurd thaws frozen, unguarded, fun _ => rfl⟩
  · rw [lifted, if_neg frozen]
    exact ⟨nothing, rfl, ⟨rfl, rfl, rfl⟩, fun thaws => absurd thaws frozen, unguarded, fun _ => rfl⟩
  · obtain ⟨same, armed⟩ :=
      interpret_timers { session with selecting := false, hold := {} } session.hold.parked
    rw [read, if_pos thaws]
    refine ⟨?_, selecting_interpret rfl _, ?_, ?_, armed, fun silent => absurd releases silent⟩
    · rw [selection_interpret]
      dsimp only
      rw [nothing]
      rfl
    · exact ⟨same.clock_eq, same.sequenceTimeout_eq, same.blinkDeadline_eq⟩
    · intro _
      rw [isHeld, hold_interpret]
      rfl
  · rw [armed, if_pos thaws]
    exact ⟨nothing, rfl, ⟨rfl, rfl, rfl⟩, fun _ => rfl, rfl, fun _ => rfl⟩

/-! ## Another size -/

/-- The size is another one and has cells. -/
theorem isSome_resize?_iff (terminal : Terminal) (lines columns : Nat) :
    (terminal.resize? lines columns).isSome = true ↔
      lines ≠ 0 ∧ columns ≠ 0 ∧ ¬(lines = terminal.lines ∧ columns = terminal.columns) := by
  unfold Terminal.resize?
  split
  · next refused => exact iff_of_false nofun (by omega)
  · next accepted => exact iff_of_true rfl (by omega)

/-- A size that is accepted disarms the guard and clears the selection; what is
left to do is up to the transport. -/
theorem resize_of_accepted
    {lines columns : Nat} {resized : Terminal}
    (accepted : session.terminal.resize? lines columns = some resized) :
    let cleared := { session.withTerminal resized with guardDeadline := none }.clearSelection
    (session.resize lines columns).2 = true ∧
      cleared.SameView (session.resize lines columns).1 ∧
      cleared.SameTimers (session.resize lines columns).1 := by
  intro cleared
  simp only [resize, accepted]
  split
  · next reported done => exact ⟨rfl, .reportSize done, .reportSize done⟩
  · exact ⟨rfl, .refl cleared, .refl cleared⟩

/-- After a size that is accepted there is no selection, and the guard is armed
just as the end of a selection in progress has left it. -/
theorem resize_timers
    {lines columns : Nat} {resized : Terminal}
    (outcome : session.terminal.resize? lines columns = some resized) :
    let after := (session.resize lines columns).1
    after.selection = none ∧
      after.selecting = false ∧
      after.blinkDeadline = session.blinkDeadline ∧
      (session.Thaws → after.isHeld = false) ∧
      after.guardDeadline =
        (if session.Thaws then
          if after.console.interpreter.isGround then none
          else session.sequenceTimeout.map (session.clock + ·)
        else none) ∧
      (¬session.Releases → after.console.interpreter = session.console.interpreter) := by
  intro after
  -- The guard is disarmed before the hold is lifted, so what lifting it arms stays armed.
  let unguarded : Session := { session.withTerminal resized with
    guardDeadline := none, selection := none }
  obtain ⟨-, sameView, sameTimers⟩ := resize_of_accepted outcome
  change unguarded.release.SameView after at sameView
  change unguarded.release.SameTimers after at sameTimers
  obtain ⟨noSelection, notSelecting, sameClock, free, guardEq, kept⟩ :=
    @release_timers unguarded rfl rfl
  rw [guardTime, sameClock.clock_eq, sameClock.sequenceTimeout_eq, ← sameTimers.interpreter_eq]
    at guardEq
  refine ⟨sameView.selection_eq.trans noSelection, sameView.selecting_eq.trans notSelecting,
    sameTimers.blinkDeadline_eq.trans sameClock.blinkDeadline_eq, ?_,
    sameTimers.guardDeadline_eq.trans guardEq, ?_⟩
  · intro thaws
    rw [isHeld, sameView.hold_eq]
    exact free thaws
  · intro nothing
    rw [sameTimers.interpreter_eq, kept nothing]
    rfl

/-- A size is accepted if it is another one and has cells. If not, the session
is as it was. If it is, there is no selection any more, and the guard is
disarmed, unless a selection in progress held the last hold: the guard is then
armed anew if a sequence is being read and there is a limit for it. Without text
to interpret that is the sequence that was being read before. -/
theorem resize_guard_iff (session : Session) (lines columns : Nat) :
    let after := (session.resize lines columns).1
    let accepted := (session.resize lines columns).2
    (accepted = true ↔
        lines ≠ 0 ∧ columns ≠ 0 ∧
          ¬(lines = session.terminal.lines ∧ columns = session.terminal.columns)) ∧
      (accepted = false → after = session) ∧
      (accepted = true →
        after.selection = none ∧
          after.selecting = false ∧
          after.blinkDeadline = session.blinkDeadline ∧
          after.nextDeadline = Option.merge min after.guardDeadline session.blinkDeadline ∧
          (¬session.Thaws → after.guardDeadline = none) ∧
          (session.Thaws →
            after.guardDeadline =
              if after.console.interpreter.isGround then none
              else session.sequenceTimeout.map (session.clock + ·)) ∧
          (¬session.Releases →
            after.console.interpreter = session.console.interpreter ∧
              (after.guardDeadline = none ↔
                ¬(session.Thaws ∧ session.console.interpreter.isGround = false ∧
                  session.sequenceTimeout ≠ none)))) := by
  intro after accepted
  have sizes := isSome_resize?_iff session.terminal lines columns
  cases outcome : session.terminal.resize? lines columns with
  | none =>
      rw [outcome] at sizes
      have refused : session.resize lines columns = (session, false) := by
        rw [resize, outcome]
      have notAccepted : accepted = false := congrArg Prod.snd refused
      rw [notAccepted]
      exact ⟨sizes, fun _ => congrArg Prod.fst refused,
        fun impossible => absurd impossible Bool.false_ne_true⟩
  | some resized =>
      rw [outcome] at sizes
      have isAccepted : accepted = true := (resize_of_accepted outcome).1
      obtain ⟨noSelection, notSelecting, blinkEq, free, guardEq, kept⟩ := resize_timers outcome
      have frozen : ¬session.Thaws → after.guardDeadline = none :=
        fun frozen => guardEq.trans (if_neg frozen)
      have waits : after.guardDeadline ≠ none → after.isHeld = false :=
        fun armed => free (not_imp_comm.mp frozen armed)
      have next := nextDeadline_eq_merge waits
      rw [blinkEq] at next
      refine ⟨iff_of_true isAccepted (sizes.mp rfl),
        fun refused => absurd (isAccepted.symm.trans refused) Bool.true_eq_false.mp, fun _ => ?_⟩
      refine ⟨noSelection, notSelecting, blinkEq, next, frozen,
        fun thaws => guardEq.trans (if_pos thaws), fun nothing => ⟨kept nothing, ?_⟩⟩
      by_cases thaws : session.Thaws
      · rw [guardEq, if_pos thaws, kept nothing]
        cases session.console.interpreter.isGround <;> cases session.sequenceTimeout <;>
          simp [thaws]
      · exact iff_of_true (frozen thaws) fun armed => thaws armed.1

/-- A selection is begun in the middle of a sequence. A wider screen takes it
away and leaves the guard armed, although no text was held back. -/
theorem resize_leaves_guard :
    let settings : Settings :=
      { lines := 2, columns := 2, historyLimit := 0, blinkPeriod := 0, sequenceTimeout := 200000 }
    let start : Session :=
      { console := { terminal := blankTerminal settings {} }, sequenceTimeout := some 200000 }
    let session :=
      start.acts [(0, .call (.feed "\x1b[".toList)), (0, .call (.startSelection 0 0))]
    let after := (session.resize 2 3).1
    session.Reachable ∧
      session.hold.parked = [] ∧
      (session.resize 2 3).2 = true ∧
      after.selection = none ∧
      after.guardDeadline = some 200000 ∧
      after.blinkDeadline = none ∧
      after.nextDeadline = some 200000 := by
  intro settings start session after
  have begun : ofSettings settings = .ok start := rfl
  refine ⟨⟨settings, start, _, begun, rfl⟩, ?_⟩
  decide +kernel

end VideoTerminal.Session
