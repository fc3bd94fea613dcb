import VideoTerminal.Proofs.EmbeddedControls
import VideoTerminal.Proofs.Numerals

/-!
Control sequences that are read as a whole: their parameters are gathered as
they stand, and the final character performs the function that it has with
them.
-/

namespace VideoTerminal

/-! ## Final characters -/

/-- A final character is not taken for anything else. -/
theorem ControlFunction.final_of_ofFinal?
    {parameters : Parameters} {final : Char} {function : ControlFunction}
    (found : ofFinal? parameters final = some function) :
    Action.isParameter final = false ∧ final ≠ '?' ∧ final ≠ '>' := by
  unfold ofFinal? at found
  split at found
  all_goals first | decide | cases found

theorem Action.ofChar_final
    {parameters : Parameters} {final : Char} {function : ControlFunction}
    (found : ControlFunction.ofFinal? parameters final = some function) :
    ofChar .control parameters final = .finish function := by
  obtain ⟨notTaken, notPrivate, notSecondary⟩ := ControlFunction.final_of_ofFinal? found
  simp [ofChar, ofPhase?, ofControl?, notTaken, notPrivate, notSecondary, found]

/-! ## Parameters -/

theorem Action.utf8Size_of_isParameter {char : Char} (taken : isParameter char = true) :
    char.utf8Size = 1 := by
  have small : char.val ≤ 0x7f := by
    rw [isParameter, Text.isDigit, Bool.or_eq_true, Bool.and_eq_true,
      decide_eq_true_iff, decide_eq_true_iff, beq_iff_eq] at taken
    rcases taken with ⟨-, digit⟩ | rfl
    · exact UInt32.le_trans digit (by decide)
    · decide
  exact if_pos small

/-- Characters of parameters are kept as long as there is room for them. -/
theorem Parameters.foldl_push
    {chars : List Char}
    (all : ∀ char ∈ chars, Action.isParameter char = true)
    (parameters : Parameters) :
    chars.foldl push parameters =
      ⟨parameters.chars ++ (chars.take (limit - parameters.byteSize)).toArray⟩ := by
  induction chars generalizing parameters with
  | nil => simp
  | cons char rest inductionHypothesis =>
      have size : char.utf8Size = 1 := Action.utf8Size_of_isParameter (all char List.mem_cons_self)
      rw [List.foldl_cons,
        inductionHypothesis fun other member => all other (List.mem_cons_of_mem char member)]
      by_cases room : parameters.byteSize < limit
      · have pushed : parameters.push char = ⟨parameters.chars.push char⟩ := if_pos room
        have bytes : (parameters.push char).byteSize = parameters.byteSize + 1 := by
          rw [pushed, byteSize, Array.foldl_push, size]
          rfl
        have left : limit - parameters.byteSize = limit - (parameters.byteSize + 1) + 1 := by
          omega
        rw [bytes, pushed, left, List.take_succ_cons]
        simp
      · have same : parameters.push char = parameters := if_neg room
        have full : limit - parameters.byteSize = 0 := by omega
        rw [same, full, List.take_zero, List.take_zero]

theorem Parameters.foldl_push_empty
    {chars : List Char}
    (all : ∀ char ∈ chars, Action.isParameter char = true) :
    chars.foldl push {} = ⟨(chars.take limit).toArray⟩ := by
  have nothing : byteSize {} = 0 := rfl
  rw [foldl_push all, nothing, Nat.sub_zero, Array.empty_append]

/-- Within a control sequence, with or without a mark, parameters are
gathered. -/
def Phase.takesParameters : Phase → Bool
  | .control | .privateControl | .secondaryControl => true
  | _ => false

theorem Action.ofChar_parameter
    {phase : Phase} (takes : phase.takesParameters = true)
    {char : Char} (taken : isParameter char = true)
    (parameters : Parameters) :
    ofChar phase parameters char = .collect := by
  cases phase
  case control => simp [ofChar, ofPhase?, ofControl?, taken]
  case privateControl => simp [ofChar, ofPhase?, ofPrivate?, taken]
  case secondaryControl => simp [ofChar, ofPhase?, ofSecondary?, taken]
  all_goals cases takes

namespace Console

/-- Between the introduction of a control sequence and its end, a character
does what it means there. -/
theorem advance_of_takesParameters
    (console : Console)
    {phase : Phase} (takes : phase.takesParameters = true)
    (parameters : Parameters)
    (char : Char) :
    advance { console with interpreter := { phase, parameters } } char =
      act { console with interpreter := { phase, parameters } } char
        (Action.ofChar phase parameters char) := by
  cases phase
  case control | privateControl | secondaryControl => rfl
  all_goals cases takes

theorem foldl_advance_parameters
    (console : Console)
    {phase : Phase} (takes : phase.takesParameters = true)
    {chars : List Char}
    (all : ∀ char ∈ chars, Action.isParameter char = true)
    (parameters : Parameters) :
    chars.foldl advance { console with interpreter := { phase, parameters } } =
      { console with
        interpreter := { phase, parameters := chars.foldl Parameters.push parameters } } := by
  induction chars generalizing parameters with
  | nil => rfl
  | cons char rest inductionHypothesis =>
      have taken : Action.isParameter char = true := all char List.mem_cons_self
      rw [List.foldl_cons, advance_of_takesParameters console takes,
        Action.ofChar_parameter takes taken]
      exact inductionHypothesis
        (fun other member => all other (List.mem_cons_of_mem char member)) _

/-- A sequence that does not come within another one writes what waits, and
gathers its parameters. -/
theorem foldl_advance_introduced
    {console : Console}
    (inGround : console.interpreter.phase = .ground)
    {parameters : List Char}
    (taken : ∀ char ∈ parameters, Action.isParameter char = true) :
    (['\x1b', '['] ++ parameters).foldl advance console =
      { console.flush with
        interpreter :=
          { phase := .control, parameters := parameters.foldl Parameters.push {} } } := by
  have opened :
      ['\x1b', '['].foldl advance console =
        { console.flush with interpreter := { phase := .control } } := by
    rw [List.foldl_cons, advance_escape inGround]
    rfl
  rw [List.foldl_append, opened, foldl_advance_parameters console.flush rfl taken]

/-- The character that ends a sequence performs its function. -/
theorem advance_finish
    (console : Console)
    {phase : Phase} (takes : phase.takesParameters = true)
    {parameters : Parameters} {final : Char} {function : ControlFunction}
    (ends : Action.ofChar phase parameters final = .finish function) :
    advance { console with interpreter := { phase, parameters } } final =
      { console.perform function with interpreter := {} } := by
  rw [advance_of_takesParameters console takes, ends]
  rfl

/-! ## The sequence read -/

/-- A control sequence: its introduction, its parameters and its final
character. -/
def controlSequence (parameters : List Char) (final : Char) : List Char :=
  ['\x1b', '['] ++ parameters ++ [final]

/-- A control sequence that does not come within another one performs its
function once what waits has been written. -/
theorem feed_controlSequence
    {console : Console}
    (inGround : console.interpreter.phase = .ground)
    {parameters : List Char}
    (taken : ∀ char ∈ parameters, Action.isParameter char = true)
    (fits : parameters.length ≤ Parameters.limit)
    {final : Char} {function : ControlFunction}
    (found : ControlFunction.ofFinal? ⟨parameters.toArray⟩ final = some function) :
    console.feed (controlSequence parameters final) =
      { console.flush.perform function with interpreter := {} } := by
  have gathered : parameters.foldl Parameters.push {} = ⟨parameters.toArray⟩ := by
    rw [Parameters.foldl_push_empty taken, List.take_of_length_le fits]
  rw [feed, controlSequence, List.foldl_append, foldl_advance_introduced inGround taken, gathered,
    List.foldl_cons, List.foldl_nil, advance_finish _ rfl (Action.ofChar_final found),
    flush_eq_self rfl]

/-! ## Figures of the sequence read -/

/-- Between the introduction of a control sequence and its end, nothing waits to
be written. -/
theorem charFigures_of_takesParameters
    (console : Console)
    {phase : Phase} (takes : phase.takesParameters = true)
    (parameters : Parameters)
    (char : Char) :
    charFigures { console with interpreter := { phase, parameters } } char =
      actFigures { console with interpreter := { phase, parameters } }
        (Action.ofChar phase parameters char) := by
  cases phase
  case control | privateControl | secondaryControl => rfl
  all_goals cases takes

/-- Parameters that are gathered have no figures. -/
theorem textFigures_parameters
    (console : Console)
    {phase : Phase} (takes : phase.takesParameters = true)
    {chars : List Char}
    (all : ∀ char ∈ chars, Action.isParameter char = true)
    (parameters : Parameters)
    (rest : List Char) :
    textFigures { console with interpreter := { phase, parameters } } (chars ++ rest) =
      textFigures
        { console with
          interpreter := { phase, parameters := chars.foldl Parameters.push parameters } }
        rest := by
  induction chars generalizing parameters with
  | nil => rfl
  | cons char others inductionHypothesis =>
      have taken : Action.isParameter char = true := all char List.mem_cons_self
      rw [List.cons_append, textFigures, charFigures_of_takesParameters console takes,
        advance_of_takesParameters console takes, Action.ofChar_parameter takes taken]
      exact inductionHypothesis
        (fun other member => all other (List.mem_cons_of_mem char member)) _

/-- The figures of a control sequence are those of its function. -/
theorem textFigures_controlSequence
    {console : Console}
    (inGround : console.interpreter.phase = .ground)
    (nothingWaits : console.interpreter.pending = #[])
    {parameters : List Char}
    (taken : ∀ char ∈ parameters, Action.isParameter char = true)
    (fits : parameters.length ≤ Parameters.limit)
    {final : Char} {function : ControlFunction}
    (found : ControlFunction.ofFinal? ⟨parameters.toArray⟩ final = some function) :
    console.textFigures (controlSequence parameters final) =
      console.terminal.answerFigures function ++ console.terminal.performFigures function := by
  have gathered : parameters.foldl Parameters.push {} = ⟨parameters.toArray⟩ := by
    rw [Parameters.foldl_push_empty taken, List.take_of_length_le fits]
  have opened (rest : List Char) :
      console.textFigures ('\x1b' :: '[' :: rest) =
        textFigures { console with interpreter := { phase := .control } } rest := by
    obtain ⟨terminal, ⟨phase, parameters, pending⟩, replies⟩ := console
    obtain rfl : phase = .ground := inGround
    obtain rfl : pending = #[] := nothingWaits
    rfl
  rw [controlSequence, List.append_assoc, List.cons_append, List.cons_append, List.nil_append,
    opened, textFigures_parameters console rfl taken, gathered, textFigures,
    charFigures_of_takesParameters console rfl, Action.ofChar_final found,
    advance_finish _ rfl (Action.ofChar_final found)]
  exact List.append_nil _

end Console

end VideoTerminal
