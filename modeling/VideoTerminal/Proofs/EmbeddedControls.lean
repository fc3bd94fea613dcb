import VideoTerminal.Proofs.Chunks
import VideoTerminal.Proofs.Run

/-!
Control characters inside a sequence that is not finished. Some of them do what
they do outside of it, and the sequence is read on as if they had stood before
it; the others break it off, and nothing is left of it.
-/

namespace VideoTerminal

namespace Action

/-! ## What a control character means -/

/-- The characters that do the same inside a sequence as outside of one:
backspace, horizontal tabulation, line feed with its two variants, and carriage
return. -/
def executedChars : List Char :=
  ['\x08', '\t', '\n', '\x0b', '\x0c', '\r']

/-- The characters that break off what is being read. One of them, the bell,
ends a command. -/
def abandoningChars : List Char :=
  ['\x00', '\x05', '\x07', '\x0e', '\x0f', '\x18', '\x1a', '\x7f']

theorem isControl_of_mem_executedChars {char : Char} (executed : char ∈ executedChars) :
    Text.isControl char = true := by
  have all : executedChars.all Text.isControl = true := by decide
  exact List.all_eq_true.mp all char executed

theorem isControl_of_mem_abandoningChars {char : Char} (abandoning : char ∈ abandoningChars) :
    Text.isControl char = true := by
  have all : abandoningChars.all Text.isControl = true := by decide
  exact List.all_eq_true.mp all char abandoning

/-- One function stands for such a character in every phase, and nothing is
reported of it. -/
theorem exists_ofChar_executed {char : Char} (executed : char ∈ executedChars) :
    ∃ function : ControlFunction,
      (∀ phase parameters, ofChar phase parameters char = .perform function) ∧
        ∀ terminal : Terminal, terminal.answer function = [] := by
  simp only [executedChars, List.mem_cons, List.not_mem_nil, or_false] at executed
  rcases executed with rfl | rfl | rfl | rfl | rfl | rfl
  · exact ⟨.backspace, fun phase _ => by cases phase <;> rfl, fun _ => rfl⟩
  · exact ⟨.horizontalTab, fun phase _ => by cases phase <;> rfl, fun _ => rfl⟩
  · exact ⟨.lineFeed, fun phase _ => by cases phase <;> rfl, fun _ => rfl⟩
  · exact ⟨.lineFeed, fun phase _ => by cases phase <;> rfl, fun _ => rfl⟩
  · exact ⟨.lineFeed, fun phase _ => by cases phase <;> rfl, fun _ => rfl⟩
  · exact ⟨.carriageReturn, fun phase _ => by cases phase <;> rfl, fun _ => rfl⟩

theorem ofChar_abandoning
    {char : Char} (abandoning : char ∈ abandoningChars)
    {phase : Phase} (noEnd : char = '\x07' → phase ≠ .command)
    (parameters : Parameters) :
    ofChar phase parameters char = .abandon := by
  simp only [abandoningChars, List.mem_cons, List.not_mem_nil, or_false] at abandoning
  rcases abandoning with rfl | rfl | rfl | rfl | rfl | rfl | rfl | rfl <;> cases phase
  case inr.inr.inl.command => exact absurd rfl (noEnd rfl)
  all_goals rfl

/-- What a phase has a use for either belongs to the sequence or ends it. -/
theorem ofPhase?_ne_perform
    (phase : Phase) (parameters : Parameters) (char : Char) (function : ControlFunction) :
    ofPhase? phase parameters char ≠ some (.perform function) := by
  cases phase with
  | ground | device => nofun
  | escape =>
      simp only [ofPhase?, ofEscape?]
      split <;> nofun
  | control =>
      simp only [ofPhase?, ofControl?]
      split_ifs
      all_goals simp
  | command | commandEnd | encoding | test | charset | privateControl | secondaryControl =>
      simp only [ofPhase?, ofPrivate?, ofSecondary?]
      split_ifs <;> nofun

theorem isControl_of_ofControlChar?
    {char : Char} {action : Action} (found : ofControlChar? char = some action) :
    Text.isControl char = true := by
  unfold ofControlChar? at found
  split at found
  all_goals first | decide | cases found

/-- A function is performed before the end of a sequence for control characters
only. -/
theorem isControl_of_ofChar_eq_perform
    {phase : Phase} {parameters : Parameters} {char : Char} {function : ControlFunction}
    (performed : ofChar phase parameters char = .perform function) :
    Text.isControl char = true := by
  unfold ofChar at performed
  split at performed
  · next used =>
      exact absurd (performed ▸ used) (ofPhase?_ne_perform phase parameters char function)
  · cases found : ofControlChar? char with
    | some action => exact isControl_of_ofControlChar? found
    | none =>
        rw [found] at performed
        cases phase <;> cases performed

end Action

namespace Console

variable {console : Console} {char : Char}

/-! ## Waiting characters -/

/-- Characters wait to be written only while no sequence is being read. -/
def WaitsInGround (console : Console) : Prop :=
  console.interpreter.phase ≠ .ground → console.interpreter.pending = #[]

theorem act_pending (console : Console) (char : Char) (action : Action) :
    (console.act char action).interpreter.pending = console.interpreter.pending := by
  cases action <;> rfl

theorem waitsInGround_advance (console : Console) (char : Char) :
    (console.advance char).WaitsInGround := by
  intro unfinished
  unfold advance at unfinished ⊢
  dsimp only at unfinished ⊢
  split at unfinished
  · next printed =>
      rw [Bool.and_eq_true, Interpreter.isGround, beq_iff_eq] at printed
      exact absurd printed.1 unfinished
  · next acted =>
      rw [if_neg acted, act_pending]
      rfl

theorem WaitsInGround.receive (waits : console.WaitsInGround) (input : Input) :
    (console.receive input).WaitsInGround := by
  cases input with
  | text chars => exact fun _ => pending_feed console chars
  | char char => exact waitsInGround_advance console char
  | flush | abort => exact fun _ => rfl
  | request request => exact waits

theorem WaitsInGround.run (waits : console.WaitsInGround) (inputs : List Input) :
    (console.run inputs).WaitsInGround := by
  induction inputs generalizing console with
  | nil => exact waits
  | cons input rest inductionHypothesis => exact inductionHypothesis (waits.receive input)

theorem WaitsInGround.foldl_advance (waits : console.WaitsInGround) (text : List Char) :
    (text.foldl advance console).WaitsInGround := by
  have read := waits.run (text.map .char)
  rwa [Console.run, List.foldl_map] at read

/-! ## Control characters -/

/-- The same reading of the stream, on another terminal. -/
def transfer (console : Console) (terminal : Terminal) : Console :=
  { console with terminal }

theorem advance_of_isControl (console : Console) (control : Text.isControl char = true) :
    console.advance char =
      console.flush.act char
        (Action.ofChar console.interpreter.phase console.interpreter.parameters char) := by
  simp only [advance, control, Bool.not_true, Bool.and_false, Bool.false_eq_true, if_false]

/-- Such a character has one effect on all terminals, whatever is being read,
and leaves the reading as it is. -/
theorem exists_advance_executed (executed : char ∈ Action.executedChars) :
    ∃ function : ControlFunction, ∀ console : Console,
      console.advance char = console.flush.transfer (console.flush.terminal.perform function) := by
  obtain ⟨function, means, silent⟩ := Action.exists_ofChar_executed executed
  refine ⟨function, fun console => ?_⟩
  rw [advance_of_isControl console (Action.isControl_of_mem_executedChars executed), means, act,
    perform, silent]
  simp [transfer]

/-! ## Nothing is done within a sequence -/

theorem advance_of_not_isControl
    (inGround : console.interpreter.phase = .ground)
    (shown : Text.isControl char = false) :
    (console.advance char).interpreter.phase = .ground := by
  have ground : console.interpreter.isGround = true := by
    rw [Interpreter.isGround, inGround]
    rfl
  simp only [advance, ground, shown, Bool.not_false, Bool.and_true, if_true]
  exact inGround

theorem foldl_advance_of_not_isControl
    (inGround : console.interpreter.phase = .ground)
    {text : List Char} (shown : ∀ char ∈ text, Text.isControl char = false) :
    (text.foldl advance console).interpreter.phase = .ground := by
  induction text generalizing console with
  | nil => exact inGround
  | cons char rest inductionHypothesis =>
      exact inductionHypothesis (advance_of_not_isControl inGround (shown char List.mem_cons_self))
        fun other member => shown other (List.mem_cons_of_mem char member)

/-- A character that leaves a sequence unfinished has no effect but on the
reading. -/
theorem advance_eq_of_unfinished
    (nothingWaits : console.interpreter.pending = #[])
    (inSequence : console.interpreter.phase ≠ .ground)
    (shown : Text.isControl char = false)
    (unfinished : (console.advance char).interpreter.phase ≠ .ground) :
    console.advance char = { console with interpreter := (console.advance char).interpreter } := by
  have acted :
      console.advance char =
        console.act char
          (Action.ofChar console.interpreter.phase console.interpreter.parameters char) := by
    have notGround : console.interpreter.isGround = false := by
      rw [Interpreter.isGround, beq_eq_false_iff_ne]
      exact inSequence
    simp only [advance, notGround, Bool.false_and, Bool.false_eq_true, if_false,
      flush_eq_self nothingWaits]
  rw [acted] at unfinished ⊢
  cases means : Action.ofChar console.interpreter.phase console.interpreter.parameters char with
  | perform function =>
      have control := Action.isControl_of_ofChar_eq_perform means
      exact Bool.noConfusion (control.symm.trans shown)
  | finish | abandon =>
      rw [means] at unfinished
      exact absurd rfl unfinished
  | ignore | enter | proceed | collect => rfl

theorem foldl_advance_eq_of_unfinished
    (nothingWaits : console.interpreter.pending = #[])
    (inSequence : console.interpreter.phase ≠ .ground)
    {text : List Char} (shown : ∀ char ∈ text, Text.isControl char = false)
    (unfinished : (text.foldl advance console).interpreter.phase ≠ .ground) :
    text.foldl advance console =
      { console with interpreter := (text.foldl advance console).interpreter } := by
  induction text generalizing console with
  | nil => rfl
  | cons char rest inductionHypothesis =>
      have shownHere := shown char List.mem_cons_self
      have shownLater (other : Char) (member : other ∈ rest) :=
        shown other (List.mem_cons_of_mem char member)
      -- What has been left is not taken up again without an escape.
      have still : (console.advance char).interpreter.phase ≠ .ground := fun inGround =>
        unfinished (foldl_advance_of_not_isControl inGround shownLater)
      have here := advance_eq_of_unfinished nothingWaits inSequence shownHere still
      have later := inductionHypothesis (waitsInGround_advance console char still) still
        shownLater unfinished
      rw [List.foldl_cons, later, here]

theorem foldl_advance_transfer
    (nothingWaits : console.interpreter.pending = #[])
    (inSequence : console.interpreter.phase ≠ .ground)
    {text : List Char} (shown : ∀ char ∈ text, Text.isControl char = false)
    (unfinished : (text.foldl advance console).interpreter.phase ≠ .ground)
    (terminal : Terminal) :
    text.foldl advance (console.transfer terminal) =
      (text.foldl advance console).transfer terminal := by
  have sameStart : (console.transfer terminal).interpreter = console.interpreter := rfl
  have sameReading := interpreter_foldl_advance sameStart text
  have stillUnfinished :
      (text.foldl advance (console.transfer terminal)).interpreter.phase ≠ .ground := by
    rwa [sameReading]
  have here := foldl_advance_eq_of_unfinished nothingWaits inSequence shown unfinished
  have there := foldl_advance_eq_of_unfinished
    (sameStart ▸ nothingWaits) (sameStart ▸ inSequence) shown stillUnfinished
  rw [there, sameReading, here]
  rfl

/-! ## Before a sequence or inside it -/

theorem advance_escape (inGround : console.interpreter.phase = .ground) :
    console.advance '\x1b' = { console.flush with interpreter := { phase := .escape } } := by
  rw [advance_of_isControl console (by decide), inGround]
  rfl

/-- Inside a sequence such a character does what it does before it: the terminal
is the same at the character, and the reading of the sequence does not look at
what has become of the terminal. -/
theorem foldl_advance_executed
    (inGround : console.interpreter.phase = .ground)
    {sequence : List Char} (shown : ∀ other ∈ sequence, Text.isControl other = false)
    (unfinished : (('\x1b' :: sequence).foldl advance console).interpreter.phase ≠ .ground)
    (executed : char ∈ Action.executedChars) :
    ('\x1b' :: sequence ++ [char]).foldl advance console =
      (char :: '\x1b' :: sequence).foldl advance console := by
  obtain ⟨function, acts⟩ := exists_advance_executed executed
  let opened : Console := { console.flush with interpreter := { phase := .escape } }
  have inSequence : opened.interpreter.phase ≠ .ground := nofun
  rw [List.foldl_cons, advance_escape inGround] at unfinished
  have waits : (sequence.foldl advance opened).interpreter.pending = #[] := by
    have openedWaits : opened.WaitsInGround := fun _ => rfl
    exact openedWaits.foldl_advance sequence unfinished
  have unchanged : (sequence.foldl advance opened).terminal = opened.terminal := by
    rw [foldl_advance_eq_of_unfinished rfl inSequence shown unfinished]
  calc
    ('\x1b' :: sequence ++ [char]).foldl advance console =
        (sequence.foldl advance opened).advance char := by
      rw [List.cons_append, List.foldl_cons, advance_escape inGround, List.foldl_append]
      rfl
    _ = (sequence.foldl advance opened).transfer (opened.terminal.perform function) := by
      rw [acts, flush_eq_self waits, unchanged]
    _ = sequence.foldl advance (opened.transfer (opened.terminal.perform function)) :=
      (foldl_advance_transfer rfl inSequence shown unfinished _).symm
    _ = (char :: '\x1b' :: sequence).foldl advance console := by
      rw [List.foldl_cons, acts, List.foldl_cons, advance_escape]
      · rfl
      · exact inGround

/-- No character waits to be written while a sequence is being read. Backspace,
tabulations, line feeds and carriage returns have the same effect inside a
sequence as outside of it and leave the reading of the sequence alone; the
characters that abandon a sequence change nothing else. So a sequence may be
moved before one of the former that it encloses. -/
theorem controls_in_sequence :
    (∀ (terminal : Terminal) (inputs : List Input),
      (run { terminal } inputs).interpreter.phase ≠ .ground →
        (run { terminal } inputs).interpreter.pending = #[]) ∧
    (∀ (terminal : Terminal) (replies : Array Reply) (phase : Phase) (parameters : Parameters),
      phase ≠ .ground →
        let outside : Console := { terminal, replies }
        let inside : Console := { terminal, replies, interpreter := { phase, parameters } }
        (∀ char ∈ Action.executedChars,
          (inside.advance char).terminal = (outside.advance char).terminal ∧
            (inside.advance char).interpreter = inside.interpreter ∧
            (inside.advance char).replies = replies) ∧
        (∀ char ∈ Action.abandoningChars, (char = '\x07' → phase ≠ .command) →
          inside.advance char = outside)) ∧
    (∀ (console : Console) (sequence rest : List Char) (char : Char),
      console.interpreter.phase = .ground →
      (∀ other ∈ sequence, Text.isControl other = false) →
      (console.feed ('\x1b' :: sequence)).interpreter.phase ≠ .ground →
      char ∈ Action.executedChars →
        console.feed ('\x1b' :: sequence ++ char :: rest) =
          console.feed (char :: '\x1b' :: sequence ++ rest)) := by
  refine ⟨?_, ?_, ?_⟩
  · intro terminal inputs
    have fresh : WaitsInGround { terminal } := fun _ => rfl
    exact fresh.run inputs
  · intro terminal replies phase parameters unfinished outside inside
    constructor
    · intro char executed
      obtain ⟨function, acts⟩ := exists_advance_executed executed
      rw [acts inside, acts outside]
      exact ⟨rfl, rfl, rfl⟩
    · intro char abandoning noEnd
      rw [advance_of_isControl inside (Action.isControl_of_mem_abandoningChars abandoning),
        Action.ofChar_abandoning abandoning noEnd]
      rfl
  · intro console sequence rest char inGround shown unfinished executed
    have swapped := foldl_advance_executed inGround shown unfinished executed
    have parted : '\x1b' :: sequence ++ char :: rest = ('\x1b' :: sequence ++ [char]) ++ rest := by
      simp
    rw [parted, feed, feed, List.foldl_append, swapped, List.foldl_append]

/-- A line feed inside a command, behind a character that waits; the bell in a
control sequence, of which nothing is left. -/
theorem controls_in_sequence_command :
    let console := (blank 2 3 1).advance 'a'
    let sequence := [']', '0', ';', 'b']
    let inside : Console :=
      { terminal := console.terminal, interpreter := { phase := .control, parameters := ⟨#['1']⟩ } }
    (console.interpreter.phase = .ground ∧ console.interpreter.pending = #['a'] ∧
      (∀ other ∈ sequence, Text.isControl other = false) ∧
      (console.feed ('\x1b' :: sequence)).interpreter.phase = .command ∧
      console.feed ('\x1b' :: sequence ++ '\n' :: ['c', '\x07']) =
        console.feed ('\n' :: '\x1b' :: sequence ++ ['c', '\x07'])) ∧
      inside.advance '\x07' = { terminal := console.terminal } := by
  intro console sequence inside
  have shown : ∀ other ∈ sequence, Text.isControl other = false := by
    simp [sequence, Text.isControl]
  have command : (console.feed ('\x1b' :: sequence)).interpreter.phase = .command := rfl
  obtain ⟨-, single, swap⟩ := controls_in_sequence
  have unfinished : (console.feed ('\x1b' :: sequence)).interpreter.phase ≠ .ground := by
    rw [command]
    exact nofun
  refine ⟨⟨rfl, rfl, shown, command, ?_⟩, ?_⟩
  · exact swap console sequence ['c', '\x07'] '\n' rfl shown unfinished (by decide)
  · exact (single console.terminal #[] .control ⟨#['1']⟩ nofun).2 '\x07' (by decide) nofun

end Console

end VideoTerminal
