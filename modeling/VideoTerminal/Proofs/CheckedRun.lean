import VideoTerminal.Proofs.CheckedEditing
import VideoTerminal.Proofs.Figures

/-!
Runs with their checks. No check fails in a run that begins with a blank
screen, so that a run with checks ends as the run without them.
-/

namespace VideoTerminal

/-! ## Questions for colours -/

namespace ControlFunction

/-- A question for a dynamic colour has a number for which there is one. -/
def Answerable : ControlFunction → Prop
  | .reportDynamic code => 10 ≤ code ∧ code ≤ 19
  | _ => True

theorem ofNumbered_answerable (code : Option Nat) (rest : List Char) :
    (ofNumbered code rest).Answerable := by
  unfold ofNumbered
  split
  · trivial
  · split
    · trivial
    · split
      · trivial
      · split
        · next inRange => exact ⟨inRange.1, inRange.2.1⟩
        · trivial

theorem ofCommand_answerable (payload : List Char) :
    (ofCommand payload).Answerable := by
  unfold ofCommand
  split
  · trivial
  · trivial
  · trivial
  · trivial
  · exact ofNumbered_answerable _ _

theorem ofFinal?_answerable
    {parameters : Parameters} {char : Char} {function : ControlFunction}
    (found : ofFinal? parameters char = some function) :
    function.Answerable := by
  unfold ofFinal? at found
  split at found <;> cases found <;> try trivial
  split <;> trivial

end ControlFunction

namespace Action

/-- What the action performs can be answered. -/
def Answerable : Action → Prop
  | .perform function | .finish function => function.Answerable
  | _ => True

theorem ofControl?_answerable
    {parameters : Parameters} {char : Char} {action : Action}
    (found : ofControl? parameters char = some action) :
    action.Answerable := by
  unfold ofControl? at found
  split at found
  · cases found
    trivial
  · split at found
    · cases found
      trivial
    · split at found
      · cases found
        trivial
      · obtain ⟨function, final, rfl⟩ := Option.map_eq_some_iff.mp found
        exact ControlFunction.ofFinal?_answerable final

theorem ofPhase?_answerable
    {phase : Phase} {parameters : Parameters} {char : Char} {action : Action}
    (found : ofPhase? phase parameters char = some action) :
    action.Answerable := by
  cases phase with
  | ground => cases found
  | device => cases found
  | control => exact ofControl?_answerable found
  | escape =>
      simp only [ofPhase?, ofEscape?] at found
      split at found <;> cases found <;> trivial
  | command =>
      simp only [ofPhase?] at found
      split at found
      · cases found
        trivial
      · split at found <;> cases found
        exact ControlFunction.ofCommand_answerable _
  | commandEnd =>
      simp only [ofPhase?] at found
      split at found <;> cases found
      exact ControlFunction.ofCommand_answerable _
  | encoding | test | charset =>
      simp only [ofPhase?] at found
      split at found <;> cases found
      trivial
  | privateControl =>
      simp only [ofPhase?, ofPrivate?] at found
      split at found
      · cases found
        trivial
      · split at found
        · cases found
          trivial
        · split at found <;> cases found
          trivial
  | secondaryControl =>
      simp only [ofPhase?, ofSecondary?] at found
      split at found
      · cases found
        trivial
      · split at found <;> cases found
        trivial

theorem ofControlChar?_answerable
    {char : Char} {action : Action}
    (found : ofControlChar? char = some action) :
    action.Answerable := by
  unfold ofControlChar? at found
  split at found <;> cases found <;> trivial

/-- Whatever a character means can be answered. -/
theorem ofChar_answerable (phase : Phase) (parameters : Parameters) (char : Char) :
    (ofChar phase parameters char).Answerable := by
  unfold ofChar
  split
  · next action found => exact ofPhase?_answerable found
  · cases found : ofControlChar? char with
    | some action => exact ofControlChar?_answerable found
    | none => cases phase <;> trivial

end Action

namespace Checked

variable {lines columns limit : Nat} {terminal : Terminal} {console : Console}

/-! ## Requests -/

/-- The terminal after a request. -/
def serve (terminal : Terminal) : Terminal.Request → Option Terminal
  | .perform function => perform terminal function
  | .print text => printAll terminal text
  | .scroll top bottom amount => scroll terminal top bottom amount
  | .resize lines columns => resizeTo terminal lines columns
  | request => some (terminal.serve request)

theorem serve_eq
    (wellFormed : terminal.WellFormed lines columns limit) (request : Terminal.Request) :
    serve terminal request = some (terminal.serve request) := by
  cases request with
  | perform function => exact perform_eq wellFormed function
  | print text => exact printAll_eq wellFormed text
  | scroll top bottom amount => exact scroll_eq wellFormed top bottom amount
  | resize newLines newColumns => exact resizeTo_eq wellFormed newLines newColumns
  | setPen | configure | markBlink | takeTitle | takeReset | takeEvicted | takeDamage => rfl

/-! ## Text -/

/-- What a control function makes the terminal report. -/
def answer (terminal : Terminal) : ControlFunction → Option (List Reply)
  | .reportStatus question =>
      if question = 6 then do
        let x ← cursorColumn terminal
        return [.cursorPosition (terminal.cursor.y + 1) (x + 1)]
      else some (terminal.statusReport question)
  | .reportDynamic code => do
      let place ← difference code 10
      let slot ← Terminal.dynamicSlots[place]?
      return [.dynamicColour code (terminal.palette.colour slot)]
  | function => some (terminal.answer function)

theorem answer_eq
    (wellFormed : terminal.WellFormed lines columns limit)
    {function : ControlFunction}
    (answerable : function.Answerable) :
    answer terminal function = some (terminal.answer function) := by
  cases function with
  | reportStatus question =>
      simp only [answer, cursorColumn_eq wellFormed, Terminal.answer, Terminal.statusReport]
      split
      · next asked =>
          subst asked
          rfl
      · rfl
  | reportDynamic code =>
      obtain ⟨lower, upper⟩ := answerable
      have inside : code - 10 < Terminal.dynamicSlots.length := by
        simp [Terminal.dynamicSlots]
        omega
      simp [answer, Terminal.answer, difference_eq lower, List.getElem?_eq_getElem inside]
  | _ => rfl

/-- Write the gathered characters. -/
def flush (console : Console) : Option Console := do
  let terminal ← printAll console.terminal console.interpreter.pending.toList
  return { console with terminal, interpreter := { console.interpreter with pending := #[] } }

theorem flush_eq (wellFormed : console.terminal.WellFormed lines columns limit) :
    flush console = some console.flush := by
  rw [flush, printAll_eq wellFormed]
  rfl

/-- Perform a control function and note what it makes the terminal report. -/
def obey (console : Console) (function : ControlFunction) : Option Console := do
  let replies ← answer console.terminal function
  let terminal ← perform console.terminal function
  return { console with replies := console.replies ++ replies.toArray, terminal }

theorem obey_eq
    (wellFormed : console.terminal.WellFormed lines columns limit)
    {function : ControlFunction}
    (answerable : function.Answerable) :
    obey console function = some (console.perform function) := by
  rw [obey, answer_eq wellFormed answerable, perform_eq wellFormed]
  rfl

/-- Do what a character means. -/
def act (console : Console) (char : Char) : Action → Option Console
  | .perform function => obey console function
  | .finish function => do
      let performed ← obey console function
      return performed.modifyInterpreter Interpreter.leave
  | action => some (console.act char action)

theorem act_eq
    (wellFormed : console.terminal.WellFormed lines columns limit)
    (char : Char) {action : Action}
    (answerable : action.Answerable) :
    act console char action = some (console.act char action) := by
  cases action with
  | perform function => exact obey_eq wellFormed answerable
  | finish function =>
      rw [act, obey_eq wellFormed answerable]
      rfl
  | ignore | enter | proceed | collect | abandon => rfl

/-- The first two parameters are counted from 1 and used from 0. -/
def countedFromOne (parameters : Parameters) : Option (Nat × Nat) := do
  let first ← difference (parameters.count 0) 1
  let second ← difference (parameters.count 1) 1
  return (first, second)

theorem countedFromOne_eq (parameters : Parameters) :
    countedFromOne parameters = some (parameters.count 0 - 1, parameters.count 1 - 1) := by
  simp [countedFromOne, difference_eq (Nat.le_max_right _ 1), Parameters.count]

/-- Read a character. -/
def read (console : Console) (char : Char) : Option Console :=
  let reading := console.interpreter
  if reading.isGround && !Text.isControl char then
    some (console.advance char)
  else do
    let flushed ← flush console
    let _ ← countedFromOne reading.parameters
    act flushed char (Action.ofChar reading.phase reading.parameters char)

theorem read_eq
    (wellFormed : console.terminal.WellFormed lines columns limit) (char : Char) :
    read console char = some (console.advance char) := by
  unfold read
  dsimp only
  split
  · rfl
  · next acts =>
      rw [flush_eq wellFormed, countedFromOne_eq]
      simp only [Option.bind_eq_bind, Option.bind_some,
        act_eq (Console.flush_wellFormed wellFormed) char (Action.ofChar_answerable _ _ _),
        Console.advance, acts]
      rfl

/-- Read a piece of text and write what is to be printed of it. -/
def feed (console : Console) (text : List Char) : Option Console := do
  let read ← text.foldlM read console
  flush read

theorem feed_eq
    (wellFormed : console.terminal.WellFormed lines columns limit) (text : List Char) :
    feed console text = some (console.feed text) := by
  have keeps := fun (current : Console) (char : Char)
      (currentWellFormed : current.terminal.WellFormed lines columns limit) =>
    Console.advance_wellFormed currentWellFormed char
  have reads : text.foldlM read console = some (text.foldl Console.advance console) :=
    foldlM_eq (fun current => current.terminal.WellFormed lines columns limit) wellFormed keeps
      fun _ _ _ current => read_eq current _
  rw [feed, reads]
  exact flush_eq (Console.foldl_advance_wellFormed wellFormed text)

/-! ## Runs -/

/-- The console after one step of a run. -/
def receive (console : Console) : Console.Input → Option Console
  | .text chars => feed console chars
  | .char char => read console char
  | .flush => flush console
  | .abort => do
      let flushed ← flush console
      return flushed.modifyInterpreter Interpreter.leave
  | .request request => do
      let terminal ← serve console.terminal request
      return { console with terminal }

theorem receive_eq
    (wellFormed : console.terminal.WellFormed lines columns limit) (input : Console.Input) :
    receive console input = some (console.receive input) := by
  cases input with
  | text chars => exact feed_eq wellFormed chars
  | char char => exact read_eq wellFormed char
  | flush => exact flush_eq wellFormed
  | abort =>
      rw [receive, flush_eq wellFormed]
      rfl
  | request request =>
      rw [receive, serve_eq wellFormed]
      rfl

/-- The console after a run. -/
def run (console : Console) (inputs : List Console.Input) : Option Console :=
  inputs.foldlM receive console

theorem run_eq
    (wellFormed : console.terminal.WellFormed lines columns limit)
    (inputs : List Console.Input) :
    run console inputs = some (console.run inputs) := by
  apply foldlM_eq
    (fun current => ∃ lines columns, current.terminal.WellFormed lines columns limit)
    ⟨lines, columns, wellFormed⟩
  · rintro current input ⟨currentLines, currentColumns, currentWellFormed⟩
    exact Console.receive_wellFormed currentWellFormed input
  · rintro current input - ⟨currentLines, currentColumns, currentWellFormed⟩
    exact receive_eq currentWellFormed input

end Checked

namespace Console

/-- A run in words that begins with a blank screen of at least one cell ends just
if its figures fit: the sums of the limit with the heights of the screen, and the
reported sizes in pixels. What it ends with is well-formed, and no other check
fails on the way. -/
theorem runInWords_blank_wellFormed_and_checked
    {lines columns limit : Nat}
    (linesPositive : 0 < lines)
    (columnsPositive : 0 < columns)
    (inputs : List Input) :
    let start := blank lines columns limit
    let console := start.run inputs
    console.terminal.WellFormed console.terminal.lines console.terminal.columns limit ∧
      Checked.run start inputs = some console ∧
      (∀ found, start.runInWords inputs = .ok found ↔
        (∀ figure ∈ start.runFigures inputs, figure.Fits) ∧ found = console) ∧
      (∀ first second, .sum first second ∈ start.runFigures inputs →
        first = limit ∧
          (second = lines ∨ ∃ width, .request (.resize second width) ∈ inputs)) ∧
      ∀ most, lines ≤ most →
        (∀ height width, .request (.resize height width) ∈ inputs → height ≤ most) →
        limit + most < Text.wordSize → start.ReportsFit inputs →
        start.runInWords inputs = .ok console := by
  intro start console
  have reachable : console.Reachable limit :=
    ⟨lines, columns, inputs, linesPositive, columnsPositive, rfl⟩
  have wellFormed : start.terminal.WellFormed lines columns limit :=
    Terminal.WellFormed.blank linesPositive columnsPositive limit
  refine ⟨reachable.wellFormed, Checked.run_eq wellFormed inputs, ?_, ?_, ?_⟩
  · intro found
    rw [runInWords_eq_ok_iff, eq_comm]
  · exact fun first second => sum_of_mem_runFigures wellFormed
  · intro most high highest fits reports
    rw [runInWords_eq_ok_iff]
    exact ⟨figures_fit_of_height wellFormed high highest fits reports, rfl⟩

/-- A run over a scroll, a scroll of part of the screen and two sizes. -/
theorem runInWords_blank_wellFormed_and_checked_two_by_three :
    let start := blank 2 3 1
    let inputs :=
      [.text "abcd\r\nef".toList, .request (.scroll 0 1 (-5)), .request (.resize 1 2),
        .text "\x1b[9Pg".toList, .request (.resize 3 1)]
    let console := start.run inputs
    (0 < 2 ∧ 0 < 3) ∧
      console.terminal.WellFormed console.terminal.lines console.terminal.columns 1 ∧
      Checked.run start inputs = some console ∧
      start.runFigures inputs = [.sum 1 2, .sum 1 1, .sum 1 1, .sum 1 3] ∧
      start.runInWords inputs = .ok console := by
  intro start inputs console
  obtain ⟨wellFormed, checked, words, -, -⟩ :=
    @runInWords_blank_wellFormed_and_checked 2 3 1 (by decide) (by decide) inputs
  have figures : start.runFigures inputs = [.sum 1 2, .sum 1 1, .sum 1 1, .sum 1 3] := by
    decide +kernel
  have fit : ∀ figure ∈ start.runFigures inputs, figure.Fits := by
    rw [figures]
    decide
  exact ⟨by decide, wellFormed, checked, figures, (words console).mpr ⟨fit, rfl⟩⟩

/-- With the greatest limit, the first row that leaves the screen cannot be
counted. -/
theorem runInWords_blank_stops_at_line_feed :
    let start := blank 1 1 (Text.wordSize - 1)
    let inputs := [.text "a\r\nb".toList]
    Text.wordSize - 1 < Text.wordSize ∧
      (start.run inputs).terminal.buffer.ring.size = 2 ∧
      start.runInWords inputs = .error (.sum (Text.wordSize - 1) 1) := by
  intro start inputs
  have figures : start.runFigures inputs = [.sum (Text.wordSize - 1) 1] := by decide +kernel
  refine ⟨by decide, by decide +kernel, ?_⟩
  rw [runInWords_eq, figures]
  rfl

end Console

end VideoTerminal
