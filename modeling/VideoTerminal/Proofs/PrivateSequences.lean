import VideoTerminal.Proofs.ControlSequences

/-!
Control sequences with a mark. The mark of private modes, and that of secondary
reports, is taken wherever it stands among the parameters, so that those before
it and those after it make up one list. The modes of this list are switched, and
what is shown changes just if one of them is not yet as it is asked for.
-/

namespace VideoTerminal

/-! ## Switching private modes -/

namespace Terminal

/-- The position that is saved for the main screen, held on the screen. -/
def mainPosition (terminal : Terminal) : Position :=
  terminal.savedMainPosition.clamp terminal.columns terminal.lines

/-- What is shown is as a private mode has it when it is on, or when it is
off. -/
def HasPrivateMode (terminal : Terminal) (on : Bool) (mode : Nat) : Prop :=
  match mode with
  | 1 => terminal.modes.applicationCursor = on
  | 7 => terminal.modes.autoWrap = on
  | 12 => terminal.cursorAlwaysBlinks = true ∨ terminal.modes.cursorBlink = on
  | 25 => terminal.modes.cursorVisible = on
  | 47 => terminal.onAlternate = on
  | 1047 => terminal.onAlternate = on
  | 1048 => on = true ∨ terminal.cursor = terminal.mainPosition
  | 1049 => terminal.onAlternate = on ∧ (on = true ∨ terminal.cursor = terminal.mainPosition)
  | 2004 => terminal.modes.bracketedPaste = on
  | _ => True

/-- The terminals have the same modes, the same cells of both screens and of
the history, the same of the screens shown, and the cursor at the same place. -/
structure ShowsSame (first second : Terminal) : Prop where
  modes_eq : second.modes = first.modes
  buffer_eq : second.buffer = first.buffer
  cursor_eq : second.cursor = first.cursor

/-- A flag is kept or becomes `on`. -/
def Turned (on before after : Bool) : Prop :=
  after = on ∨ after = before

/-- What switching private modes to `on` may change of what is shown: it turns
flags to `on`, and off returns to the position saved for the main screen. -/
structure SwitchedTo (on : Bool) (first second : Terminal) : Prop where
  applicationCursor : Turned on first.modes.applicationCursor second.modes.applicationCursor
  autoWrap : Turned on first.modes.autoWrap second.modes.autoWrap
  cursorBlink : Turned on first.modes.cursorBlink second.modes.cursorBlink
  cursorVisible : Turned on first.modes.cursorVisible second.modes.cursorVisible
  bracketedPaste : Turned on first.modes.bracketedPaste second.modes.bracketedPaste
  onAlternate : Turned on first.onAlternate second.onAlternate
  cursor : second.cursor = first.cursor ∨ on = false ∧ second.cursor = first.mainPosition
  mainPosition_eq : on = false → second.mainPosition = first.mainPosition
  cursorAlwaysBlinks_eq : second.cursorAlwaysBlinks = first.cursorAlwaysBlinks

variable {first second third : Terminal} {on : Bool} {mode : Nat}

theorem ShowsSame.refl (terminal : Terminal) : terminal.ShowsSame terminal :=
  ⟨rfl, rfl, rfl⟩

theorem ShowsSame.trans (before : first.ShowsSame second) (after : second.ShowsSame third) :
    first.ShowsSame third :=
  ⟨after.modes_eq.trans before.modes_eq, after.buffer_eq.trans before.buffer_eq,
    after.cursor_eq.trans before.cursor_eq⟩

theorem Turned.refl (on flag : Bool) : Turned on flag flag :=
  .inr rfl

theorem Turned.trans
    {before between after : Bool}
    (earlier : Turned on before between)
    (later : Turned on between after) :
    Turned on before after := by
  rcases later with turned | rfl
  · exact .inl turned
  · exact earlier

theorem Turned.stays {before after : Bool} (turned : Turned on before after) (is : before = on) :
    after = on := by
  rcases turned with turned | rfl
  · exact turned
  · exact is

namespace SwitchedTo

theorem refl (on : Bool) (terminal : Terminal) : terminal.SwitchedTo on terminal :=
  ⟨.refl _ _, .refl _ _, .refl _ _, .refl _ _, .refl _ _, .refl _ _, .inl rfl, fun _ => rfl, rfl⟩

theorem trans (before : first.SwitchedTo on second) (after : second.SwitchedTo on third) :
    first.SwitchedTo on third where
  applicationCursor := before.applicationCursor.trans after.applicationCursor
  autoWrap := before.autoWrap.trans after.autoWrap
  cursorBlink := before.cursorBlink.trans after.cursorBlink
  cursorVisible := before.cursorVisible.trans after.cursorVisible
  bracketedPaste := before.bracketedPaste.trans after.bracketedPaste
  onAlternate := before.onAlternate.trans after.onAlternate
  cursor := by
    rcases after.cursor with same | ⟨off, returned⟩
    · rw [same]
      exact before.cursor
    · exact .inr ⟨off, returned.trans (before.mainPosition_eq off)⟩
  mainPosition_eq off := (after.mainPosition_eq off).trans (before.mainPosition_eq off)
  cursorAlwaysBlinks_eq := after.cursorAlwaysBlinks_eq.trans before.cursorAlwaysBlinks_eq

theorem showScreen (terminal : Terminal) (on clear : Bool) :
    terminal.SwitchedTo on (terminal.showScreen on clear) := by
  unfold Terminal.showScreen
  split
  · exact refl on terminal
  · dsimp only
    split
    · exact { refl on terminal with onAlternate := .inl rfl }
    · exact { refl on terminal with onAlternate := .inl rfl }

theorem setPrivateMode (terminal : Terminal) (on : Bool) (mode : Nat) :
    terminal.SwitchedTo on (terminal.setPrivateMode mode on) := by
  unfold Terminal.setPrivateMode
  split
  · exact { refl on terminal with applicationCursor := .inl rfl }
  · exact { refl on terminal with autoWrap := .inl rfl }
  · split
    · exact refl on terminal
    · exact { refl on terminal with cursorBlink := .inl rfl }
  · exact { refl on terminal with cursorVisible := .inl rfl }
  · exact showScreen terminal on false
  · exact showScreen terminal on true
  · cases on
    · exact { refl false terminal with cursor := .inr ⟨rfl, rfl⟩ }
    · exact { refl true terminal with mainPosition_eq := nofun }
  · cases on
    · have shown := showScreen terminal false false
      have returned :
          (terminal.showScreen false false).SwitchedTo false
            (terminal.showScreen false false).restoreMainPosition :=
        { refl false (terminal.showScreen false false) with cursor := .inr ⟨rfl, rfl⟩ }
      exact shown.trans returned
    · have saved : terminal.SwitchedTo true terminal.saveMainPosition :=
        { refl true terminal with mainPosition_eq := nofun }
      exact saved.trans (showScreen terminal.saveMainPosition true true)
  · exact { refl on terminal with bracketedPaste := .inl rfl }
  · exact refl on terminal

theorem foldl_setPrivateMode (terminal : Terminal) (on : Bool) (modes : List Nat) :
    terminal.SwitchedTo on
      (modes.foldl (fun current mode => current.setPrivateMode mode on) terminal) := by
  induction modes generalizing terminal with
  | nil => exact refl on terminal
  | cons mode rest inductionHypothesis =>
      exact (setPrivateMode terminal on mode).trans (inductionHypothesis _)

end SwitchedTo

theorem onAlternate_showScreen (terminal : Terminal) (on clear : Bool) :
    (terminal.showScreen on clear).onAlternate = on := by
  unfold showScreen
  split
  · next shown => exact shown.symm
  · rfl

namespace HasPrivateMode

/-- A mode that is switched is as it was asked for. -/
theorem setPrivateMode (terminal : Terminal) (on : Bool) (mode : Nat) :
    (terminal.setPrivateMode mode on).HasPrivateMode on mode := by
  unfold HasPrivateMode
  split
  · rfl
  · rfl
  · cases blinks : terminal.cursorAlwaysBlinks with
    | true => simp [Terminal.setPrivateMode, blinks]
    | false => simp [Terminal.setPrivateMode, blinks]
  · rfl
  · exact onAlternate_showScreen terminal on false
  · exact onAlternate_showScreen terminal on true
  · cases on
    · exact .inr rfl
    · exact .inl rfl
  · cases on
    · exact ⟨onAlternate_showScreen terminal false false, .inr rfl⟩
    · exact ⟨onAlternate_showScreen terminal.saveMainPosition true true, .inl rfl⟩
  · rfl
  · trivial

/-- It stays so while others are switched in the same way. -/
theorem of_switchedTo
    (has : first.HasPrivateMode on mode)
    (switched : first.SwitchedTo on second) :
    second.HasPrivateMode on mode := by
  have returned (there : on = true ∨ first.cursor = first.mainPosition) :
      on = true ∨ second.cursor = second.mainPosition := by
    cases on with
    | true => exact .inl rfl
    | false =>
        have place := there.resolve_left Bool.false_ne_true
        rw [switched.mainPosition_eq rfl]
        rcases switched.cursor with same | ⟨-, moved⟩
        · exact .inr (same.trans place)
        · exact .inr moved
  unfold HasPrivateMode
  split
  · exact switched.applicationCursor.stays has
  · exact switched.autoWrap.stays has
  · rw [switched.cursorAlwaysBlinks_eq]
    exact has.imp_right switched.cursorBlink.stays
  · exact switched.cursorVisible.stays has
  · exact switched.onAlternate.stays has
  · exact switched.onAlternate.stays has
  · exact returned has
  · exact ⟨switched.onAlternate.stays has.1, returned has.2⟩
  · exact switched.bracketedPaste.stays has
  · trivial

/-- Where nothing that is shown has changed, it was so before. -/
theorem of_showsSame
    (has : second.HasPrivateMode on mode)
    (same : first.ShowsSame second)
    (switched : first.SwitchedTo on second) :
    first.HasPrivateMode on mode := by
  have shown : second.onAlternate = first.onAlternate := by
    rw [onAlternate, same.buffer_eq, ← onAlternate]
  have returned (there : on = true ∨ second.cursor = second.mainPosition) :
      on = true ∨ first.cursor = first.mainPosition := by
    cases on with
    | true => exact .inl rfl
    | false => rwa [same.cursor_eq, switched.mainPosition_eq rfl] at there
  unfold HasPrivateMode at has ⊢
  rw [same.modes_eq, switched.cursorAlwaysBlinks_eq, shown] at has
  split
  · exact has
  · exact has
  · exact has
  · exact has
  · exact has
  · exact has
  · exact returned has
  · exact ⟨has.1, returned has.2⟩
  · exact has
  · trivial

/-- A mode that is as it is asked for is switched without anything to see. -/
theorem showsSame_setPrivateMode
    {terminal : Terminal}
    (has : terminal.HasPrivateMode on mode) :
    terminal.ShowsSame (terminal.setPrivateMode mode on) := by
  have shown (terminal : Terminal) (there : terminal.onAlternate = on) (clear : Bool) :
      terminal.showScreen on clear = terminal := by
    rw [showScreen, if_pos there.symm]
  unfold Terminal.setPrivateMode
  split
  · obtain rfl : terminal.modes.applicationCursor = on := has
    exact .refl terminal
  · obtain rfl : terminal.modes.autoWrap = on := has
    exact .refl terminal
  · split
    · exact .refl terminal
    · next free =>
        obtain rfl : terminal.modes.cursorBlink = on := has.resolve_left free
        exact .refl terminal
  · obtain rfl : terminal.modes.cursorVisible = on := has
    exact ⟨rfl, rfl, rfl⟩
  · rw [shown terminal has]
    exact .refl terminal
  · rw [shown terminal has]
    exact .refl terminal
  · cases on with
    | true => exact ⟨rfl, rfl, rfl⟩
    | false => exact ⟨rfl, rfl, (has.resolve_left Bool.false_ne_true).symm⟩
  · obtain ⟨there, place⟩ := has
    cases on with
    | true =>
        rw [if_pos rfl, shown terminal.saveMainPosition there]
        exact ⟨rfl, rfl, rfl⟩
    | false =>
        rw [if_neg Bool.false_ne_true, shown terminal there]
        exact ⟨rfl, rfl, (place.resolve_left Bool.false_ne_true).symm⟩
  · obtain rfl : terminal.modes.bracketedPaste = on := has
    exact .refl terminal
  · exact .refl terminal

theorem of_mem_foldl
    {modes : List Nat} (member : mode ∈ modes)
    (terminal : Terminal) (on : Bool) :
    (modes.foldl (fun current mode => current.setPrivateMode mode on) terminal).HasPrivateMode on
      mode := by
  induction modes generalizing terminal with
  | nil => cases member
  | cons other rest inductionHypothesis =>
      rcases List.mem_cons.mp member with rfl | later
      · have here := setPrivateMode terminal on mode
        exact here.of_switchedTo (SwitchedTo.foldl_setPrivateMode _ on rest)
      · exact inductionHypothesis later _

end HasPrivateMode

/-- Modes are switched without anything to see just if all of them are as they
are asked for. -/
theorem showsSame_foldl_setPrivateMode_iff (terminal : Terminal) (modes : List Nat) (on : Bool) :
    terminal.ShowsSame
        (modes.foldl (fun current mode => current.setPrivateMode mode on) terminal) ↔
      ∀ mode ∈ modes, terminal.HasPrivateMode on mode := by
  constructor
  · intro same mode member
    have after := HasPrivateMode.of_mem_foldl member terminal on
    exact after.of_showsSame same (SwitchedTo.foldl_setPrivateMode terminal on modes)
  · intro all
    induction modes generalizing terminal with
    | nil => exact .refl terminal
    | cons mode rest inductionHypothesis =>
        have here := all mode List.mem_cons_self
        refine here.showsSame_setPrivateMode.trans (inductionHypothesis _ ?_)
        intro other member
        have has := all other (List.mem_cons_of_mem mode member)
        exact has.of_switchedTo (SwitchedTo.setPrivateMode terminal on mode)

end Terminal

/-! ## Sequences with a mark -/

namespace Console

/-- A control sequence with a mark that stands after some of its parameters. -/
def markedSequence (before : List Char) (mark : Char) (after : List Char) (final : Char) :
    List Char :=
  ['\x1b', '['] ++ before ++ [mark] ++ after ++ [final]

/-- The character that ends a sequence for modes. -/
def switchFinal (on : Bool) : Char :=
  if on then 'h' else 'l'

variable {console : Console} {before after : List Char}

theorem feed_markedSequence
    (inGround : console.interpreter.phase = .ground)
    (taken : ∀ char ∈ before ++ after, Action.isParameter char = true)
    {mark : Char} {phase : Phase}
    (marks : ∀ parameters, Action.ofChar .control parameters mark = .proceed phase)
    (takes : phase.takesParameters = true)
    {final : Char} {function : ControlFunction}
    (ends :
      Action.ofChar phase ⟨((before ++ after).take Parameters.limit).toArray⟩ final =
        .finish function) :
    console.feed (markedSequence before mark after final) =
      { console.flush.perform function with interpreter := {} } := by
  have takenBefore (char : Char) (member : char ∈ before) :=
    taken char (List.mem_append_left after member)
  have takenAfter (char : Char) (member : char ∈ after) :=
    taken char (List.mem_append_right before member)
  -- The mark leaves the parameters as they are, and the next ones are added.
  have marked (parameters : Parameters) :
      [mark].foldl advance
          { console.flush with interpreter := { phase := .control, parameters } } =
        { console.flush with interpreter := { phase, parameters } } := by
    rw [List.foldl_cons, advance_of_takesParameters console.flush rfl, marks]
    rfl
  have gathered :
      after.foldl Parameters.push (before.foldl Parameters.push {}) =
        ⟨((before ++ after).take Parameters.limit).toArray⟩ := by
    rw [← List.foldl_append, Parameters.foldl_push_empty taken]
  rw [feed, markedSequence, List.foldl_append, List.foldl_append, List.foldl_append,
    foldl_advance_introduced inGround takenBefore, marked,
    foldl_advance_parameters console.flush takes takenAfter, gathered, List.foldl_cons,
    List.foldl_nil, advance_finish _ takes ends, flush_eq_self rfl]

theorem feed_privateSequence
    (inGround : console.interpreter.phase = .ground)
    (taken : ∀ char ∈ before ++ after, Action.isParameter char = true)
    (on : Bool) :
    console.feed (markedSequence before '?' after (switchFinal on)) =
      { console.flush.perform
          (.setPrivateModes
            (Parameters.mk ((before ++ after).take Parameters.limit).toArray).numbers on) with
        interpreter := {} } :=
  feed_markedSequence inGround taken (fun _ => rfl) rfl (by cases on <;> rfl)

theorem feed_secondarySequence
    (inGround : console.interpreter.phase = .ground)
    (taken : ∀ char ∈ before ++ after, Action.isParameter char = true) :
    console.feed (markedSequence before '>' after 'c') =
      { console.flush.perform .reportSecondary with interpreter := {} } :=
  feed_markedSequence inGround taken (fun _ => rfl) rfl rfl

/-- A mark may stand anywhere among the parameters: the sequence is read as with
the mark in the first place. It is complete and is not answered, and the modes
that the parameters before and after the mark name together are switched; so
what is shown stays the same just if all of them are as they are asked for. With
the mark of secondary reports it is always answered, and does nothing else. -/
theorem feed_mark_anywhere
    (inGround : console.interpreter.phase = .ground)
    (taken : ∀ char ∈ before ++ after, Action.isParameter char = true) :
    let terminal := console.flush.terminal
    let numbers := (Parameters.mk ((before ++ after).take Parameters.limit).toArray).numbers
    (∀ on : Bool,
      let fed := console.feed (markedSequence before '?' after (switchFinal on))
      fed = console.feed (markedSequence [] '?' (before ++ after) (switchFinal on)) ∧
        fed.interpreter = {} ∧
        fed.replies = console.replies ∧
        fed.terminal = terminal.perform (.setPrivateModes numbers on) ∧
        (terminal.ShowsSame fed.terminal ↔
          ∀ mode ∈ numbers, terminal.HasPrivateMode on mode)) ∧
      let fed := console.feed (markedSequence before '>' after 'c')
      fed = console.feed (markedSequence [] '>' (before ++ after) 'c') ∧
        fed =
          { terminal
            interpreter := {}
            replies := console.replies.push .secondaryAttributes } := by
  intro terminal numbers
  have takenBehind : ∀ char ∈ [] ++ (before ++ after), Action.isParameter char = true := taken
  constructor
  · intro on fed
    have read : fed = { console.flush.perform (.setPrivateModes numbers on) with
        interpreter := {} } :=
      feed_privateSequence inGround taken on
    have inFirstPlace := feed_privateSequence inGround takenBehind on
    have done : fed.terminal = terminal.perform (.setPrivateModes numbers on) := by rw [read]; rfl
    refine ⟨read.trans inFirstPlace.symm, by rw [read], ?_, done, ?_⟩
    · rw [read]
      exact Array.append_empty
    · rw [done]
      exact terminal.showsSame_foldl_setPrivateMode_iff numbers on
  · intro fed
    have read : fed = { console.flush.perform .reportSecondary with interpreter := {} } :=
      feed_secondarySequence inGround taken
    have inFirstPlace := feed_secondarySequence inGround takenBehind
    exact ⟨read.trans inFirstPlace.symm, read⟩

/-- The digits around the mark make up the number of a mode that shows the
alternate screen, or a number that is of no mode. -/
theorem feed_mark_anywhere_within_numbers :
    let console := blank 1 2 0
    let one := console.feed (markedSequence ['1', '0', '4'] '?' ['7'] 'h')
    let other := console.feed (markedSequence ['1', '0'] '?' ['7'] 'h')
    console.interpreter.phase = .ground ∧
      (∀ char ∈ ['1', '0', '4'] ++ ['7'], Action.isParameter char = true) ∧
      (one = console.feed (markedSequence [] '?' ['1', '0', '4', '7'] 'h') ∧
        ¬console.terminal.ShowsSame one.terminal) ∧
      console.terminal.ShowsSame other.terminal ∧
      (console.feed (markedSequence ['1', '0', '4'] '>' ['7'] 'c')).replies =
        #[.secondaryAttributes] := by
  intro console one other
  have inGround : console.interpreter.phase = .ground := rfl
  have taken : ∀ char ∈ ['1', '0', '4'] ++ ['7'], Action.isParameter char = true := by
    simp [Action.isParameter, Text.isDigit]
  have takenOther : ∀ char ∈ ['1', '0'] ++ ['7'], Action.isParameter char = true := by
    simp [Action.isParameter, Text.isDigit]
  obtain ⟨switched, answered⟩ := feed_mark_anywhere inGround taken
  obtain ⟨switchedOther, -⟩ := feed_mark_anywhere inGround takenOther
  obtain ⟨inFirstPlace, -, -, -, shows⟩ := switched true
  obtain ⟨-, -, -, -, showsOther⟩ := switchedOther true
  refine ⟨inGround, taken, ⟨inFirstPlace, ?_⟩, ?_, congrArg Console.replies answered.2⟩
  · intro same
    have onAlternate : console.terminal.onAlternate = true := shows.mp same 1047 (by decide +kernel)
    cases onAlternate
  · have numbers :
        (Parameters.mk ((['1', '0'] ++ ['7']).take Parameters.limit).toArray).numbers = [107] := by
      decide +kernel
    apply showsOther.mpr
    rw [numbers]
    exact List.forall_mem_singleton.mpr trivial

/-- With the mark between two digits the cursor is hidden, and with another one
after a digit the terminal reports what it is. -/
theorem feed_mark_within_number :
    let console := blank 1 2 0
    console.interpreter.phase = .ground ∧
      console.terminal.modes.cursorVisible = true ∧
      (console.feed "\x1b[2?5l".toList).terminal.modes.cursorVisible = false ∧
      (console.feed "\x1b[1>c".toList).replies = #[.secondaryAttributes] := by
  decide +kernel

end Console

end VideoTerminal
