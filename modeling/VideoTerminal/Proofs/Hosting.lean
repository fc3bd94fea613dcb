import VideoTerminal.Proofs.Holding

/-!
A session in the hands of its host and of the remote side. Whatever they do,
the terminal stays well-formed, nothing gathered waits to be written, and the
selection stays inside the composed rows: text, a new size and a reset are the
only things that change these rows, and each of them looks after it.
-/

namespace VideoTerminal

open Transport

namespace Selection

theorem start_le_stop (selection : Selection) : selection.start ≤ selection.stop := by
  rw [start, stop]
  omega

/-- The selection once its text has moved `distance` cells towards the beginning
and `size` cells are left; nothing when it has no cell among them or ends beyond
them. -/
def follow? (distance size : Nat) (selection : Selection) : Option Selection :=
  (selection.shift? distance).filter fun shifted => shifted.stop < size

end Selection

namespace Session

/-! ## What is done with a session -/

/-- The session is found some time after one was begun with valid settings. -/
def Reachable (session : Session) : Prop :=
  ∃ settings start done, ofSettings settings = .ok start ∧ start.acts done = session

/-! ## Transports and notices aside -/

variable {session first second third : Session}

/-- The sessions show, hold back and select the same. -/
structure SameView (first second : Session) : Prop where
  console_eq : second.console = first.console
  hold_eq : second.hold = first.hold
  selection_eq : second.selection = first.selection
  selecting_eq : second.selecting = first.selecting

namespace SameView

theorem refl (session : Session) : session.SameView session :=
  ⟨rfl, rfl, rfl, rfl⟩

theorem trans (before : first.SameView second) (after : second.SameView third) :
    first.SameView third where
  console_eq := after.console_eq.trans before.console_eq
  hold_eq := after.hold_eq.trans before.hold_eq
  selection_eq := after.selection_eq.trans before.selection_eq
  selecting_eq := after.selecting_eq.trans before.selecting_eq

theorem setConnected (session : Session) (up : Bool) :
    session.SameView (session.setConnected up) := by
  rw [Session.setConnected]
  split
  · exact refl session
  · exact ⟨rfl, rfl, rfl, rfl⟩

theorem handOver
    {text : List Char} {sent : Session}
    (handed : session.handOver text = .ok sent) :
    session.SameView sent := by
  obtain ⟨channel, stream, rfl⟩ := handOver_eq handed
  exact ⟨rfl, rfl, rfl, rfl⟩

theorem send (session : Session) (text : String) :
    session.SameView (session.send text).1 := by
  rw [Session.send]
  split
  · next handed => exact handOver handed
  · split
    · exact refl session
    · exact setConnected session false

theorem foldl_reply (session : Session) (owed : List Reply) :
    session.SameView (owed.foldl reply session) :=
  List.foldlRecOn owed reply (motive := session.SameView) (refl session)
    fun current same each _ =>
      same.trans ((send current each.text).trans ⟨rfl, rfl, rfl, rfl⟩)

theorem close (session : Session) : session.SameView session.close := by
  rw [Session.close]
  split <;> exact ⟨rfl, rfl, rfl, rfl⟩

theorem reportSize
    {lines columns : Nat} {reported : Session}
    (done : session.reportSize lines columns = .ok reported) :
    session.SameView reported := by
  rw [Session.reportSize] at done
  split at done
  · cases done
    exact refl session
  · cases done
    exact refl session
  · cases setting : session.channel.setSize lines columns with
    | error reason =>
        rw [setting] at done
        cases done
    | ok channel =>
        rw [setting] at done
        cases done
        exact ⟨rfl, rfl, rfl, rfl⟩

theorem attachChannel (session : Session) (channel : Channel) :
    session.SameView (session.attachChannel channel).1 := by
  have closed := close session
  rw [Session.attachChannel]
  split
  · exact { closed with }
  · split <;> exact { closed with }

theorem attachStream (session : Session) (reads : List Read) :
    session.SameView (session.attachStream reads).1 := by
  have closed := close session
  rw [Session.attachStream]
  split <;> exact { closed with }

end SameView

/-! ## The selection after text -/

/-- Where a selection is once text was interpreted, which left `fed`. -/
def relocate? (fed : Terminal) (wasAlternate : Bool) (selection : Selection) : Option Selection :=
  if fed.wasReset ∨ fed.onAlternate ≠ wasAlternate then none
  else selection.follow? (fed.evicted * fed.columns) (fed.buffer.composedSize * fed.columns)

theorem shifted?_eq (session : Session) (evicted : Nat) :
    session.shifted? evicted =
      session.selection.bind
        (Selection.follow? (evicted * session.terminal.columns) session.cellCount) := by
  rw [shifted?]
  congr 1
  funext selection
  rw [Selection.follow?]
  cases selection.shift? (evicted * session.terminal.columns) with
  | none => rfl
  | some shifted =>
      rw [Option.filter_some]
      simp only [decide_eq_true_eq]
      rfl

theorem selection_followText (session : Session) (wasAlternate : Bool) :
    (session.followText wasAlternate).selection =
      session.selection.bind (relocate? session.terminal wasAlternate) := by
  let taken := session.withTerminal session.terminal.takeEvicted.1.takeReset.1
  have shifted := taken.shifted?_eq session.terminal.evicted
  simp only [followText]
  split
  · next nothing =>
      change session.selection = none at nothing
      rw [nothing]
      exact nothing
  · next selection selected =>
      change session.selection = some selection at selected
      change taken.shifted? session.terminal.evicted = session.selection.bind _ at shifted
      rw [selected, Option.bind_some] at shifted
      rw [selected, Option.bind_some, relocate?]
      split
      · next left => exact (if_pos left).symm
      · next stayed =>
          refine Eq.trans ?_ (shifted.trans (if_neg stayed).symm)
          split
          · next found => exact found.symm
          · next lost => exact lost.symm

theorem selection_interpret (session : Session) (text : List Char) :
    (session.interpret text).selection =
      session.selection.bind
        (relocate? (session.console.feed text).terminal session.terminal.onAlternate) := by
  let answered := (session.console.feed text).takeReplies.2.foldl reply
    { session with console := (session.console.feed text).takeReplies.1 }
  have same := SameView.foldl_reply
    { session with console := (session.console.feed text).takeReplies.1 }
    (session.console.feed text).takeReplies.2
  have announced :
      answered.announceTitle.selection = session.selection ∧
        answered.announceTitle.terminal = answered.terminal.takeTitle.1 := by
    simp only [announceTitle]
    split <;> exact ⟨same.selection_eq, rfl⟩
  have answeredTerminal :
      answered.console.terminal = (session.console.feed text).takeReplies.1.terminal :=
    congrArg Console.terminal same.console_eq
  change (answered.announceTitle.followText session.terminal.onAlternate).selection = _
  rw [selection_followText, announced.1, announced.2, terminal, answeredTerminal]
  rfl

/-! ## What holds of every session -/

/-- The terminal is well-formed and has told what happened to it, nothing waits
to be written, and the selection is inside the composed rows. -/
structure Sound (session : Session) : Prop where
  wellFormed : ∃ lines columns limit, session.terminal.WellFormed lines columns limit
  evicted_eq : session.terminal.evicted = 0
  wasReset_eq : session.terminal.wasReset = false
  pending_eq : session.console.interpreter.pending = #[]
  inside : ∀ selection ∈ session.selection, selection.stop < session.cellCount

namespace Sound

theorem cellCount_pos (sound : session.Sound) : 0 < session.cellCount := by
  obtain ⟨lines, columns, limit, wellFormed⟩ := sound.wellFormed
  have rows := wellFormed.shaped.lines_le_composedSize
  have linesPositive := wellFormed.lines_pos
  rw [cellCount, wellFormed.columns_eq]
  exact Nat.mul_pos (by omega) wellFormed.columns_pos

/-- Another selection on the same console. -/
theorem select
    (sound : first.Sound)
    (console_eq : second.console = first.console)
    (inside : ∀ selection ∈ second.selection, selection.stop < first.cellCount) :
    second.Sound where
  wellFormed := by
    rw [terminal, console_eq]
    exact sound.wellFormed
  evicted_eq := by
    rw [terminal, console_eq]
    exact sound.evicted_eq
  wasReset_eq := by
    rw [terminal, console_eq]
    exact sound.wasReset_eq
  pending_eq := by
    rw [console_eq]
    exact sound.pending_eq
  inside := by
    rw [cellCount, terminal, console_eq]
    exact inside

theorem of_sameView (sound : first.Sound) (same : first.SameView second) : second.Sound := by
  apply sound.select same.console_eq
  rw [same.selection_eq]
  exact sound.inside

theorem deselect
    (sound : first.Sound)
    (console_eq : second.console = first.console)
    (nothing : second.selection = none) :
    second.Sound := by
  apply sound.select console_eq
  intro selection member
  rw [nothing] at member
  cases member

/-! ### Text -/

theorem interpret (sound : session.Sound) (text : List Char) :
    (session.interpret text).Sound := by
  obtain ⟨lines, columns, limit, wellFormed⟩ := sound.wellFormed
  have fed := Console.feed_wellFormed wellFormed text
  have terminalEq := session.terminal_interpret text
  refine ⟨⟨lines, columns, limit, ?_⟩, ?_, ?_, ?_, ?_⟩
  · rw [terminalEq]
    exact { fed with }
  · rw [terminalEq]
    rfl
  · rw [terminalEq]
    rfl
  · rw [(interpret_spec session text).1]
    rfl
  · intro selection member
    rw [selection_interpret] at member
    obtain ⟨before, _, followed⟩ := Option.bind_eq_some_iff.mp member
    rw [relocate?] at followed
    split at followed
    · cases followed
    · obtain ⟨_, inside⟩ := Option.filter_eq_some_iff.mp followed
      rw [cellCount, terminalEq]
      exact of_decide_eq_true inside

theorem feed (sound : session.Sound) (text : List Char) : (session.feed text).Sound := by
  have held : { session with hold := (session.hold.pass text).1 }.Sound :=
    sound.select rfl sound.inside
  simp only [Session.feed]
  split
  · exact held.interpret _
  · exact held

theorem freeze (sound : session.Sound) : session.freeze.Sound :=
  sound.select rfl sound.inside

theorem armGuard (sound : session.Sound) : session.armGuard.Sound :=
  sound.select rfl sound.inside

theorem unfreeze (sound : session.Sound) : session.unfreeze.Sound := by
  have lifted : { session with hold := session.hold.unfreeze.1 }.Sound :=
    sound.select rfl sound.inside
  simp only [Session.unfreeze]
  split
  · exact lifted.interpret _
  · split
    · exact lifted
    · exact lifted.armGuard

theorem terminal_abortSequence (sound : session.Sound) :
    session.abortSequence.terminal = session.terminal := by
  change session.console.terminal.printAll session.console.interpreter.pending.toList = _
  rw [sound.pending_eq]
  rfl

theorem abortSequence (sound : session.Sound) : session.abortSequence.Sound := by
  have unchanged := sound.terminal_abortSequence
  refine ⟨?_, ?_, ?_, rfl, ?_⟩
  · rw [unchanged]
    exact sound.wellFormed
  · rw [unchanged]
    exact sound.evicted_eq
  · rw [unchanged]
    exact sound.wasReset_eq
  · rw [cellCount, unchanged]
    exact sound.inside

/-! ### The selection -/

theorem release (sound : session.Sound) : session.release.Sound := by
  have released : { session with selecting := false }.Sound := sound.select rfl sound.inside
  rw [Session.release]
  split
  · exact released.unfreeze
  · exact sound

theorem clearSelection (sound : session.Sound) : session.clearSelection.Sound := by
  have deselected : { session with selection := none }.Sound := sound.deselect rfl rfl
  exact deselected.release

theorem offset_lt (sound : session.Sound) (x y : Nat) : session.offset x y < session.cellCount := by
  have positive := sound.cellCount_pos
  rw [offset]
  omega

theorem startSelection (sound : session.Sound) (x y : Nat) :
    (session.startSelection x y).1.Sound := by
  rw [Session.startSelection]
  split
  · exact sound.clearSelection
  · refine sound.select ?_ ?_
    · rfl
    · intro selection member
      cases member
      rw [Selection.stop]
      exact Nat.max_lt.mpr ⟨sound.offset_lt x y, sound.offset_lt x y⟩

theorem extendSelection (sound : session.Sound) (x y : Nat) :
    (session.extendSelection x y).1.Sound := by
  rw [Session.extendSelection]
  split
  · exact sound
  · next selection selected =>
      have inside := sound.inside selection selected
      refine sound.select ?_ ?_
      · rfl
      · intro extended member
        obtain rfl : (selection.extend (session.offset x y)).1 = extended :=
          Option.some.inj member
        rw [Selection.extend]
        split
        · exact inside
        · rw [Selection.stop] at inside ⊢
          exact Nat.max_lt.mpr ⟨(Nat.max_lt.mp inside).1, sound.offset_lt x y⟩

theorem endSelection (sound : session.Sound) : session.endSelection.Sound := by
  have finished :
      { session with selection := session.selection.map Selection.finish }.Sound := by
    refine sound.select ?_ ?_
    · rfl
    · intro selection member
      obtain ⟨before, selected, rfl⟩ := Option.map_eq_some_iff.mp member
      exact sound.inside before selected
  exact finished.release

theorem selectAll (sound : session.Sound) : session.selectAll.Sound := by
  have released := sound.release
  have positive := released.cellCount_pos
  refine released.select ?_ ?_
  · rfl
  · intro selection member
    change Selection.all? session.release.cellCount = some selection at member
    rw [Selection.all?, if_neg (by omega)] at member
    cases member
    exact Nat.max_lt.mpr ⟨positive, Nat.sub_lt positive Nat.one_pos⟩

/-! ### The terminal -/

/-- Another terminal with as many cells that has nothing more to tell. -/
theorem withTerminal
    (sound : session.Sound)
    {terminal : Terminal}
    (wellFormed : ∃ lines columns limit, terminal.WellFormed lines columns limit)
    (evicted_eq : terminal.evicted = session.terminal.evicted)
    (wasReset_eq : terminal.wasReset = session.terminal.wasReset)
    (inside : ∀ selection ∈ session.selection,
      selection.stop < terminal.buffer.composedSize * terminal.columns) :
    (session.withTerminal terminal).Sound where
  wellFormed := wellFormed
  evicted_eq := evicted_eq.trans sound.evicted_eq
  wasReset_eq := wasReset_eq.trans sound.wasReset_eq
  pending_eq := sound.pending_eq
  inside := inside

theorem takeDamage (sound : session.Sound) : session.takeDamage.1.Sound := by
  obtain ⟨lines, columns, limit, wellFormed⟩ := sound.wellFormed
  change (session.withTerminal session.terminal.takeDamage.1).Sound
  apply sound.withTerminal ⟨lines, columns, limit, wellFormed.takeDamage⟩
  all_goals rw [Terminal.takeDamage_frame]
  exact sound.inside

theorem pollGuard (sound : session.Sound) (now : Nat) : (session.pollGuard now).Sound := by
  rw [Session.pollGuard]
  split
  · split
    · exact sound.abortSequence
    · exact sound
  · exact sound

theorem pollBlink (sound : session.Sound) (now : Nat) : (session.pollBlink now).Sound := by
  obtain ⟨lines, columns, limit, wellFormed⟩ := sound.wellFormed
  have blinked : (session.withTerminal session.terminal.markBlink).Sound := by
    apply sound.withTerminal ⟨lines, columns, limit, wellFormed.markBlink⟩
    all_goals rw [Terminal.markBlink_frame]
    exact sound.inside
  rw [Session.pollBlink]
  split
  · split
    · exact blinked.select rfl blinked.inside
    · exact sound
  · exact sound

theorem reset (sound : session.Sound) : session.reset.Sound := by
  obtain ⟨lines, columns, limit, wellFormed⟩ := sound.wellFormed
  refine ⟨⟨lines, columns, limit, { wellFormed.reset with }⟩, rfl, rfl, rfl, ?_⟩
  intro selection member
  cases member

/-- A new size takes the selection away, after which text that was held back for
it is interpreted. -/
theorem resize (sound : session.Sound) (lines columns : Nat) :
    (session.resize lines columns).1.Sound := by
  obtain ⟨oldLines, oldColumns, limit, wellFormed⟩ := sound.wellFormed
  simp only [Session.resize]
  cases accepted : session.terminal.resize? lines columns with
  | none => exact sound
  | some resized =>
      have told : resized.evicted = session.terminal.evicted ∧
          resized.wasReset = session.terminal.wasReset := by
        simp only [Terminal.resize?] at accepted
        split at accepted
        · cases accepted
        · cases accepted
          exact ⟨rfl, rfl⟩
      have deselected :
          { session.withTerminal resized with guardDeadline := none, selection := none }.Sound :=
        ⟨⟨lines, columns, limit, wellFormed.resize accepted⟩, told.1.trans sound.evicted_eq,
          told.2.trans sound.wasReset_eq, sound.pending_eq, by simp⟩
      have cleared :
          { session.withTerminal resized with guardDeadline := none }.clearSelection.Sound :=
        deselected.release
      dsimp only
      split
      · next reported done => exact cleared.of_sameView (.reportSize done)
      · exact cleared

/-! ### The host and the remote side -/

theorem call (sound : session.Sound) (made : Call) : (session.call made).Sound := by
  cases made with
  | feed text => exact sound.feed text
  | freeze => exact sound.freeze
  | unfreeze => exact sound.unfreeze
  | startSelection x y => exact sound.startSelection x y
  | extendSelection x y => exact sound.extendSelection x y
  | endSelection => exact sound.endSelection
  | selectAll => exact sound.selectAll
  | clearSelection => exact sound.clearSelection
  | pollTimers now => exact (sound.pollGuard now).pollBlink now

theorem sendKey (sound : session.Sound) (press : KeyPress) :
    (session.sendKey press).1.Sound := by
  rw [Session.sendKey]
  split
  · next text _ => exact sound.of_sameView (.send session text)
  · exact sound

theorem receive (sound : session.Sound) (event : Event) : (session.receive event).Sound := by
  cases event with
  | text text => exact sound.feed text
  | connection up => exact sound.of_sameView (.setConnected session up)

theorem processOutput (sound : session.Sound) : session.processOutput.1.Sound := by
  have emptied : { session with mailbox := [] }.Sound := sound.select rfl sound.inside
  exact List.foldlRecOn session.mailbox Session.receive (motive := Sound) emptied
    fun _ current event _ => current.receive event

theorem act (sound : session.Sound) (done : Act) : (session.act done).Sound := by
  cases done with
  | call made => exact sound.call made
  | abortSequence => exact sound.abortSequence
  | resize lines columns => exact sound.resize lines columns
  | reset => exact sound.reset
  | takeDamage => exact sound.takeDamage
  | takeNotices => exact sound.select rfl sound.inside
  | send text => exact sound.of_sameView (.send session text)
  | sendKey press => exact sound.sendKey press
  | attachChannel channel => exact sound.of_sameView (.attachChannel session channel)
  | attachStream reads => exact sound.of_sameView (.attachStream session reads)
  | close => exact sound.of_sameView (.close session)
  | processOutput => exact sound.processOutput
  | remote channel stream events => exact sound.select rfl sound.inside

theorem atTime (sound : session.Sound) (now : Nat) : (session.atTime now).Sound :=
  sound.select rfl sound.inside

theorem acts (sound : session.Sound) (done : List (Nat × Act)) : (session.acts done).Sound :=
  List.foldlRecOn done _ (motive := Sound) sound fun _ current step _ =>
    (current.atTime step.1).act step.2

theorem of_fresh (fresh : session.Fresh) (nothing : session.selection = none) :
    session.Sound where
  wellFormed := fresh.wellFormed
  evicted_eq := congrArg (·.terminal.evicted) fresh.settled_eq.symm
  wasReset_eq := congrArg (·.terminal.wasReset) fresh.settled_eq.symm
  pending_eq := fresh.pending_eq
  inside := by
    intro selection member
    rw [nothing] at member
    cases member

end Sound

theorem selection_ofSettings
    {settings : Settings}
    (made : ofSettings settings = .ok session) :
    session.selection = none := by
  obtain ⟨_, -, -, rfl⟩ := eq_of_ofSettings made
  rfl

theorem Reachable.sound (reachable : session.Reachable) : session.Sound := by
  obtain ⟨settings, start, done, made, rfl⟩ := reachable
  exact (Sound.of_fresh (fresh_ofSettings made) (selection_ofSettings made)).acts done

/-! ## The selected cells exist -/

namespace Sound

theorem exportSelection
    (sound : session.Sound)
    {selection : Selection}
    (selected : session.selection = some selection)
    (format : Export.Format) :
    ∃ text, session.exportSelection format = .ok text := by
  obtain ⟨lines, columns, limit, wellFormed⟩ := sound.wellFormed
  have ordered := selection.start_le_stop
  have inside : selection.stop < session.cellCount := sound.inside selection selected
  have sameWidth : session.terminal.buffer.columns = session.terminal.columns := by
    rw [wellFormed.shaped.columns_eq, wellFormed.columns_eq]
  rw [cellCount, ← sameWidth] at inside
  rw [Session.exportSelection, selected]
  dsimp only
  rw [ScreenBuffer.exportRange, if_neg (by omega)]
  exact ⟨_, rfl⟩

end Sound

/-- Whatever was done with a session, its selection is a range of cells that
exist, so that it can be written in every format. -/
theorem selection_inside (reachable : session.Reachable) :
    (∀ selection, session.selection = some selection →
      selection.start ≤ selection.stop ∧
        selection.stop < session.terminal.buffer.composedSize * session.terminal.columns) ∧
    ∀ format,
      (session.exportSelection format = .error .noSelection ↔ session.selection = none) ∧
        (session.selection ≠ none → ∃ text, session.exportSelection format = .ok text) := by
  have sound := reachable.sound
  refine ⟨?_, ?_⟩
  · intro selection selected
    exact ⟨selection.start_le_stop, sound.inside selection selected⟩
  · intro format
    cases selected : session.selection with
    | none =>
        refine ⟨?_, fun something => absurd rfl something⟩
        rw [exportSelection, selected]
        exact iff_of_true rfl rfl
    | some selection =>
        obtain ⟨text, written⟩ := sound.exportSelection selected format
        refine ⟨?_, fun _ => ⟨text, written⟩⟩
        rw [written]
        constructor
        · intro same
          cases same
        · intro same
          cases same

/-- A selection made on three rows of which one is lost while it is in
progress, and the history is erased under it later. -/
theorem selection_inside_erased_history :
    let settings : Settings := { lines := 2, columns := 2, historyLimit := 1 }
    let start : Session :=
      { console := { terminal := blankTerminal settings {} }
        blinkPeriod := some 500, blinkDeadline := some 500 }
    let done : List (Nat × Act) :=
      [(0, .call (.feed "a\r\nb\r\nc".toList)), (1, .call (.startSelection 0 0)),
        (2, .call (.extendSelection 7 1)), (3, .call (.feed "\r\nd".toList)),
        (4, .call .endSelection), (5, .call (.feed "\x1b[3J".toList)), (6, .takeDamage)]
    ofSettings settings = .ok start ∧
      (start.acts done).selection = some { anchor := 0, last := 1, finished := true } ∧
      (start.acts done).cellCount = 4 ∧
      ∃ text, (start.acts done).exportSelection .text = .ok text := by
  intro settings start done
  have begun : ofSettings settings = .ok start := rfl
  have selected :
      (start.acts done).selection = some { anchor := 0, last := 1, finished := true } := by
    decide +kernel
  have count : (start.acts done).cellCount = 4 := by decide +kernel
  have written := (selection_inside ⟨settings, start, done, begun, rfl⟩).2 .text
  exact ⟨begun, selected, count, written.2 (by rw [selected]; exact Option.some_ne_none _)⟩

end Session

end VideoTerminal
