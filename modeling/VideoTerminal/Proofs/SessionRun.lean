import VideoTerminal.Proofs.Hosting

/-!
The console of a session in a run of its own. Whatever the host and the remote
side do with a session, its console has read text, been asked things by the
session, and nothing else; the session writes no characters to it. So what
holds of a console after every such run holds of every session.
-/

namespace VideoTerminal

open Transport

namespace Console

variable {first second third : Console}

/-! ## Replies aside -/

theorem receive_owe (console : Console) (owed : Array Reply) (input : Input) :
    (console.owe owed).receive input = (console.receive input).owe owed := by
  cases input with
  | text chars => exact feed_owe console owed chars
  | char char => exact advance_owe console owed char
  | flush | abort | request => rfl

theorem run_owe (console : Console) (owed : Array Reply) (inputs : List Input) :
    (console.owe owed).run inputs = (console.run inputs).owe owed := by
  induction inputs generalizing console with
  | nil => rfl
  | cons input rest inductionHypothesis =>
      rw [run, List.foldl_cons, receive_owe, ← run, inductionHypothesis]
      rfl

theorem takeReplies_run (console : Console) (inputs : List Input) :
    (console.takeReplies.1.run inputs).takeReplies.1 = (console.run inputs).takeReplies.1 := by
  have owed := run_owe console.takeReplies.1 console.replies inputs
  rw [takeReplies_owe] at owed
  rw [owed]
  rfl

/-- The owner of the console writes no characters of its own. -/
def Unwritten (inputs : List Input) : Prop :=
  ∀ text, .request (.print text) ∉ inputs

/-- Replies aside, the second console is the first one after a run in which the
owner writes no characters of its own. -/
def Leads (first second : Console) : Prop :=
  ∃ inputs, Unwritten inputs ∧ second.takeReplies.1 = (first.run inputs).takeReplies.1

namespace Leads

theorem refl (console : Console) : console.Leads console :=
  ⟨[], nofun, rfl⟩

theorem trans (before : first.Leads second) (after : second.Leads third) :
    first.Leads third := by
  rcases before with ⟨early, earlyUnwritten, earlyEnd⟩
  rcases after with ⟨late, lateUnwritten, lateEnd⟩
  refine ⟨early ++ late, ?_, ?_⟩
  · intro text member
    rcases List.mem_append.mp member with here | later
    · exact earlyUnwritten text here
    · exact lateUnwritten text later
  · rw [lateEnd, ← takeReplies_run, earlyEnd, takeReplies_run, run, run, run, List.foldl_append]

theorem of_eq (same : second = first) : first.Leads second := by
  rw [same]
  exact refl first

end Leads

end Console

namespace Session

variable {session first second : Session}

/-! ## Text -/

theorem leads_interpret (session : Session) (text : List Char) :
    session.console.Leads (session.interpret text).console := by
  refine ⟨[.text text, .request .takeTitle, .request .takeEvicted, .request .takeReset],
    by simp [Console.Unwritten], ?_⟩
  rw [(interpret_spec session text).1]
  rfl

theorem leads_feed (session : Session) (text : List Char) :
    session.console.Leads (session.feed text).console := by
  simp only [feed]
  split
  · exact leads_interpret { session with hold := (session.hold.pass text).1 } _
  · exact .refl session.console

theorem leads_unfreeze (session : Session) : session.console.Leads session.unfreeze.console := by
  simp only [unfreeze]
  split
  · exact leads_interpret { session with hold := session.hold.unfreeze.1 } _
  · split <;> exact .refl session.console

theorem leads_abortSequence (session : Session) :
    session.console.Leads session.abortSequence.console :=
  ⟨[.abort], by simp [Console.Unwritten], rfl⟩

/-! ## The selection -/

theorem leads_release (session : Session) : session.console.Leads session.release.console := by
  rw [release]
  split
  · exact leads_unfreeze { session with selecting := false }
  · exact .refl session.console

theorem leads_clearSelection (session : Session) :
    session.console.Leads session.clearSelection.console :=
  leads_release { session with selection := none }

theorem leads_startSelection (session : Session) (x y : Nat) :
    session.console.Leads (session.startSelection x y).1.console := by
  rw [startSelection]
  split
  · exact leads_clearSelection session
  · exact .refl session.console

theorem leads_extendSelection (session : Session) (x y : Nat) :
    session.console.Leads (session.extendSelection x y).1.console := by
  rw [extendSelection]
  split <;> exact .refl session.console

/-! ## The terminal -/

theorem leads_pollGuard (session : Session) (now : Nat) :
    session.console.Leads (session.pollGuard now).console := by
  rw [pollGuard]
  split
  · split
    · exact leads_abortSequence session
    · exact .refl session.console
  · exact .refl session.console

theorem leads_pollBlink (session : Session) (now : Nat) :
    session.console.Leads (session.pollBlink now).console := by
  rw [pollBlink]
  split
  · split
    · exact ⟨[.request .markBlink], by simp [Console.Unwritten], rfl⟩
    · exact .refl session.console
  · exact .refl session.console

/-- Nothing gathered is lost in a reset: it is as if the sequence being read
were left first. -/
theorem Sound.leads_reset (sound : session.Sound) :
    session.console.Leads session.reset.console := by
  refine ⟨[.abort, .request (.perform .reset), .request .takeReset],
    by simp [Console.Unwritten], ?_⟩
  have unchanged : session.console.flush.terminal = session.console.terminal := by
    rw [Console.flush, sound.pending_eq]
    rfl
  change Console.mk session.console.terminal.reset.takeReset.1 {} #[] =
    Console.mk session.console.flush.terminal.reset.takeReset.1 {} #[]
  rw [unchanged]

theorem leads_resize (session : Session) (lines columns : Nat) :
    session.console.Leads (session.resize lines columns).1.console := by
  simp only [resize]
  cases accepted : session.terminal.resize? lines columns with
  | none => exact .refl session.console
  | some resized =>
      have served :
          session.console.Leads { session.console with terminal := resized } := by
        refine ⟨[.request (.resize lines columns)], by simp [Console.Unwritten], ?_⟩
        rw [terminal] at accepted
        simp [Console.run, Console.receive, Terminal.serve, accepted]
      have cleared :=
        served.trans
          (leads_clearSelection { session.withTerminal resized with guardDeadline := none })
      dsimp only
      split
      · next reported done =>
          exact cleared.trans (.of_eq (SameView.reportSize done).console_eq)
      · exact cleared

/-! ## The host and the remote side -/

theorem leads_call (session : Session) (made : Call) :
    session.console.Leads (session.call made).console := by
  cases made with
  | feed text => exact leads_feed session text
  | freeze => exact .refl session.console
  | unfreeze => exact leads_unfreeze session
  | startSelection x y => exact leads_startSelection session x y
  | extendSelection x y => exact leads_extendSelection session x y
  | endSelection =>
      exact leads_release { session with selection := session.selection.map Selection.finish }
  | selectAll => exact leads_release session
  | clearSelection => exact leads_clearSelection session
  | pollTimers now =>
      exact (leads_pollGuard session now).trans (leads_pollBlink (session.pollGuard now) now)

theorem leads_sendKey (session : Session) (press : KeyPress) :
    session.console.Leads (session.sendKey press).1.console := by
  rw [sendKey]
  split
  · next text _ => exact .of_eq (SameView.send session text).console_eq
  · exact .refl session.console

theorem leads_receive (session : Session) (event : Event) :
    session.console.Leads (session.receive event).console := by
  cases event with
  | text text => exact leads_feed session text
  | connection up => exact .of_eq (SameView.setConnected session up).console_eq

theorem leads_processOutput (session : Session) :
    session.console.Leads session.processOutput.1.console := by
  have emptied : session.console.Leads { session with mailbox := [] }.console :=
    .refl session.console
  exact List.foldlRecOn session.mailbox receive
    (motive := fun current => session.console.Leads current.console) emptied
    fun current before event _ => before.trans (leads_receive current event)

theorem Sound.leads_act (sound : session.Sound) (done : Act) :
    session.console.Leads (session.act done).console := by
  cases done with
  | call made => exact leads_call session made
  | abortSequence => exact leads_abortSequence session
  | resize lines columns => exact leads_resize session lines columns
  | reset => exact sound.leads_reset
  | takeDamage => exact ⟨[.request .takeDamage], by simp [Console.Unwritten], rfl⟩
  | send text => exact .of_eq (SameView.send session text).console_eq
  | sendKey press => exact leads_sendKey session press
  | attachChannel channel => exact .of_eq (SameView.attachChannel session channel).console_eq
  | attachStream reads => exact .of_eq (SameView.attachStream session reads).console_eq
  | close => exact .of_eq (SameView.close session).console_eq
  | processOutput => exact leads_processOutput session
  | takeNotices | remote => exact .refl session.console

theorem Sound.leads_acts (sound : session.Sound) (done : List (Nat × Act)) :
    session.console.Leads (session.acts done).console := by
  induction done generalizing session with
  | nil => exact .refl session.console
  | cons head rest inductionHypothesis =>
      obtain ⟨now, act⟩ := head
      have timely := sound.atTime now
      exact (timely.leads_act act).trans (inductionHypothesis (timely.act act))

/-! ## From a blank screen -/

/-- The settings of a session are requests to a blank terminal. -/
theorem leads_ofSettings
    {settings : Settings}
    (made : ofSettings settings = .ok session) :
    ∃ lines columns limit,
      0 < lines ∧ 0 < columns ∧ (Console.blank lines columns limit).Leads session.console := by
  obtain ⟨palette, linesPositive, columnsPositive, rfl⟩ := eq_of_ofSettings made
  refine ⟨settings.lines, settings.columns, settings.historyLimit, linesPositive,
    columnsPositive, ?_⟩
  refine
    ⟨[.request (.configure palette settings.blinkIsBold settings.cursorAlwaysBlinks
        { width := settings.cellWidth, height := settings.cellHeight }),
      .request (.perform (.setTitle settings.title.toList)), .request .takeTitle],
    by simp [Console.Unwritten], ?_⟩
  have titled (terminal : Terminal) (untold : terminal.titleChanged = false) :
      (terminal.setTitle settings.title).takeTitle.1 =
        { terminal with title := settings.title } := by
    rw [Terminal.setTitle]
    split
    · next same => rw [Terminal.takeTitle, ← untold, ← same]
    · rw [Terminal.takeTitle, untold]
  simp only [Console.run, List.foldl_cons, List.foldl_nil, Console.receive, Terminal.serve,
    Terminal.perform, String.ofList_toList]
  rw [titled]
  · rfl
  · rfl

/-- Replies aside, the console of a session is one that a run leaves in which
its owner writes no characters of its own. -/
theorem Reachable.ran (reachable : session.Reachable) :
    ∃ lines columns limit,
      0 < lines ∧ 0 < columns ∧ (Console.blank lines columns limit).Leads session.console := by
  obtain ⟨settings, start, done, made, rfl⟩ := reachable
  obtain ⟨lines, columns, limit, linesPositive, columnsPositive, begun⟩ := leads_ofSettings made
  have sound := Sound.of_fresh (fresh_ofSettings made) (selection_ofSettings made)
  exact ⟨lines, columns, limit, linesPositive, columnsPositive,
    begun.trans (sound.leads_acts done)⟩

end Session

end VideoTerminal
