import VideoTerminal.Console
import VideoTerminal.Proofs.Frame

/-!
What a terminal keeps to tell its session: the rows lost, a reset, the title
and whether it is new. Nothing else that a terminal does depends on these, so
that it does not matter when a session takes them.
-/

namespace VideoTerminal

namespace Terminal

/-- Which of the things that a session is told are the same for two terminals. -/
structure Common where
  evicted : Prop
  title : Prop

/-- The terminals differ at most in the title and in what a session is still to
be told, and not in what they have in common. -/
def Resembles (first second : Terminal) (common : Common) : Prop :=
  ∃ evicted wasReset title titleChanged,
    second = { first with evicted, wasReset, title, titleChanged } ∧
      (common.evicted → evicted = first.evicted) ∧ (common.title → title = first.title)

namespace Resembles

variable {first second : Terminal} {common : Common}

theorem modifyBlink (alike : first.Resembles second common) (change : BlinkMarks → BlinkMarks) :
    (first.modifyBlink change).Resembles (second.modifyBlink change) common := by
  obtain ⟨evicted, wasReset, title, titleChanged, rfl, counts, names⟩ := alike
  unfold Terminal.modifyBlink onAlternate
  dsimp only
  split <;> exact ⟨evicted, wasReset, title, titleChanged, rfl, counts, names⟩

theorem foldl
    {Item : Type} {change : Terminal → Item → Terminal}
    (alike : first.Resembles second common)
    (kept : ∀ {one other : Terminal} (item : Item),
      one.Resembles other common → (change one item).Resembles (change other item) common)
    (items : List Item) :
    (items.foldl change first).Resembles (items.foldl change second) common := by
  induction items generalizing first second with
  | nil => exact alike
  | cons item rest inductionHypothesis => exact inductionHypothesis (kept item alike)

/-! ## Scrolling -/

theorem advance (alike : first.Resembles second common) (fill : Cell) (count : Nat) :
    (first.advance fill count).Resembles (second.advance fill count) common := by
  induction count generalizing first second with
  | zero => exact alike
  | succ count inductionHypothesis =>
      obtain ⟨evicted, wasReset, title, titleChanged, rfl, counts, names⟩ := alike
      refine inductionHypothesis ⟨_, _, _, _, rfl, fun counted => ?_, names⟩
      rw [counts counted]

theorem markRows
    (alike : first.Resembles second common) (top bottom : Nat) (follow : Position → Position) :
    Resembles
      { first with
        drawnCursor := first.drawnCursor.map follow
        damage := first.damage.markRows top bottom first.columns }
      { second with
        drawnCursor := second.drawnCursor.map follow
        damage := second.damage.markRows top bottom second.columns }
      common := by
  obtain ⟨evicted, wasReset, title, titleChanged, rfl, counts, names⟩ := alike
  exact ⟨evicted, wasReset, title, titleChanged, rfl, counts, names⟩

theorem scroll (alike : first.Resembles second common) (top bottom : Nat) (amount : Int) :
    (first.scroll top bottom amount).Resembles (second.scroll top bottom amount) common := by
  have between := alike
  obtain ⟨evicted, wasReset, title, titleChanged, rfl, counts, names⟩ := alike
  unfold Terminal.scroll onAlternate
  by_cases nothing : amount = 0 ∨ top > bottom ∨ bottom ≥ first.lines
  · rw [if_pos nothing, if_pos nothing]
    exact between
  · rw [if_neg nothing, if_neg nothing]
    dsimp only
    refine (modifyBlink ?_ _).markRows top bottom _
    split
    · exact between.advance _ _
    · exact ⟨evicted, wasReset, title, titleChanged, rfl, counts, names⟩

theorem index (alike : first.Resembles second common) :
    first.index.1.Resembles second.index.1 common ∧ second.index.2 = first.index.2 := by
  have between := alike
  obtain ⟨evicted, wasReset, title, titleChanged, rfl, counts, names⟩ := alike
  unfold Terminal.index
  dsimp only
  split
  · exact ⟨between.scroll _ _ _, rfl⟩
  · split
    · exact ⟨⟨_, _, _, _, rfl, counts, names⟩, rfl⟩
    · exact ⟨between, rfl⟩

theorem reverseIndex (alike : first.Resembles second common) :
    first.reverseIndex.Resembles second.reverseIndex common := by
  have between := alike
  obtain ⟨evicted, wasReset, title, titleChanged, rfl, counts, names⟩ := alike
  unfold Terminal.reverseIndex
  dsimp only
  split
  · exact between.scroll _ _ _
  · exact ⟨_, _, _, _, rfl, counts, names⟩

theorem shiftLines (alike : first.Resembles second common) (amount : Int) :
    (first.shiftLines amount).Resembles (second.shiftLines amount) common := by
  have moved := alike.scroll first.cursor.y first.margins.bottom amount
  have between := alike
  obtain ⟨evicted, wasReset, title, titleChanged, rfl, counts, names⟩ := alike
  unfold Terminal.shiftLines insideMargins
  dsimp only
  split
  · obtain ⟨lost, reset, named, told, same, counts, names⟩ := moved
    rw [same]
    exact ⟨lost, reset, named, told, rfl, counts, names⟩
  · exact between

/-! ## Lines -/

theorem beginNextLine (alike : first.Resembles second common) :
    first.beginNextLine.Resembles second.beginNextLine common := by
  obtain ⟨⟨lost, reset, named, told, moved, counts, names⟩, changed⟩ := alike.index
  unfold Terminal.beginNextLine
  dsimp only
  rw [changed, moved]
  split <;> exact ⟨lost, reset, named, told, rfl, counts, names⟩

theorem carriageReturn (alike : first.Resembles second common) :
    first.carriageReturn.Resembles second.carriageReturn common := by
  obtain ⟨evicted, wasReset, title, titleChanged, rfl, counts, names⟩ := alike
  exact ⟨evicted, wasReset, title, titleChanged, rfl, counts, names⟩

theorem lineFeed (alike : first.Resembles second common) :
    first.lineFeed.Resembles second.lineFeed common := by
  obtain ⟨evicted, wasReset, title, titleChanged, rfl, counts, names⟩ := alike
  exact beginNextLine ⟨evicted, wasReset, title, titleChanged, rfl, counts, names⟩

/-! ## Erasing and editing -/

theorem modifyRow (alike : first.Resembles second common) (y : Nat) (change : Row → Row) :
    (first.modifyRow y change).Resembles (second.modifyRow y change) common := by
  obtain ⟨evicted, wasReset, title, titleChanged, rfl, counts, names⟩ := alike
  exact ⟨evicted, wasReset, title, titleChanged, rfl, counts, names⟩

theorem markDamage (alike : first.Resembles second common) (y start stop : Nat) :
    (first.markDamage y start stop).Resembles (second.markDamage y start stop) common := by
  obtain ⟨evicted, wasReset, title, titleChanged, rfl, counts, names⟩ := alike
  exact ⟨evicted, wasReset, title, titleChanged, rfl, counts, names⟩

theorem clearRow (alike : first.Resembles second common) (y : Nat) :
    (first.clearRow y).Resembles (second.clearRow y) common := by
  have between := alike
  obtain ⟨evicted, wasReset, title, titleChanged, rfl, counts, names⟩ := alike
  exact ((between.modifyRow y _).modifyBlink _).markDamage y 0 _

theorem clearRows (alike : first.Resembles second common) (top count : Nat) :
    (first.clearRows top count).Resembles (second.clearRows top count) common := by
  exact foldl alike (fun k current => current.clearRow (top + k)) _

theorem eraseSpan (alike : first.Resembles second common) (y start stop : Nat) :
    (first.eraseSpan y start stop).Resembles (second.eraseSpan y start stop) common := by
  have between := alike
  obtain ⟨evicted, wasReset, title, titleChanged, rfl, counts, names⟩ := alike
  exact ((between.modifyRow y _).modifyBlink _).markDamage y start stop

theorem eraseInLine (alike : first.Resembles second common) (part : Nat) :
    (first.eraseInLine part).Resembles (second.eraseInLine part) common := by
  have between := alike
  obtain ⟨evicted, wasReset, title, titleChanged, rfl, counts, names⟩ := alike
  unfold Terminal.eraseInLine
  dsimp only
  split
  · exact between.eraseSpan _ _ _
  · exact between.eraseSpan _ _ _
  · exact between.eraseSpan _ _ _
  · exact between

theorem clearHistory (alike : first.Resembles second common) :
    first.clearHistory.Resembles second.clearHistory common := by
  obtain ⟨evicted, wasReset, title, titleChanged, rfl, counts, names⟩ := alike
  unfold Terminal.clearHistory onAlternate
  dsimp only
  split <;> exact ⟨evicted, wasReset, title, titleChanged, rfl, counts, names⟩

theorem eraseInDisplay (alike : first.Resembles second common) (part : Nat) :
    (first.eraseInDisplay part).Resembles (second.eraseInDisplay part) common := by
  have between := alike
  obtain ⟨evicted, wasReset, title, titleChanged, rfl, counts, names⟩ := alike
  unfold Terminal.eraseInDisplay
  dsimp only
  split
  · exact (between.eraseInLine 0).clearRows _ _
  · exact (between.clearRows _ _).eraseInLine 1
  · exact between.clearRows _ _
  · exact (between.clearRows _ _).clearHistory
  · exact between

theorem insertChars (alike : first.Resembles second common) (count : Nat) :
    (first.insertChars count).Resembles (second.insertChars count) common := by
  have between := alike
  obtain ⟨evicted, wasReset, title, titleChanged, rfl, counts, names⟩ := alike
  exact ((between.modifyRow _ _).modifyBlink _).markDamage _ _ _

theorem deleteChars (alike : first.Resembles second common) (count : Nat) :
    (first.deleteChars count).Resembles (second.deleteChars count) common := by
  have between := alike
  obtain ⟨evicted, wasReset, title, titleChanged, rfl, counts, names⟩ := alike
  exact ((between.modifyRow _ _).modifyBlink _).markDamage _ _ _

theorem eraseChars (alike : first.Resembles second common) (count : Nat) :
    (first.eraseChars count).Resembles (second.eraseChars count) common := by
  have between := alike
  obtain ⟨evicted, wasReset, title, titleChanged, rfl, counts, names⟩ := alike
  exact between.eraseSpan _ _ _

/-! ## Printing -/

theorem wrap (alike : first.Resembles second common) : first.wrap.Resembles second.wrap common := by
  have between := alike
  obtain ⟨evicted, wasReset, title, titleChanged, rfl, counts, names⟩ := alike
  unfold Terminal.wrap
  dsimp only
  split
  · exact between
  · split
    · have returned :
          Resembles { first with cursor := { first.cursor with x := 0 } }
            { first with
              cursor := { first.cursor with x := 0 }, evicted, wasReset, title, titleChanged }
            common :=
        ⟨_, _, _, _, rfl, counts, names⟩
      obtain ⟨⟨lost, reset, named, told, moved, counts, names⟩, _⟩ := returned.index
      rw [moved]
      dsimp only
      split <;> exact ⟨lost, reset, named, told, rfl, counts, names⟩
    · exact ⟨evicted, wasReset, title, titleChanged, rfl, counts, names⟩

theorem putCell (alike : first.Resembles second common) (cell : Cell) :
    (first.putCell cell).Resembles (second.putCell cell) common := by
  have between := alike
  obtain ⟨evicted, wasReset, title, titleChanged, rfl, counts, names⟩ := alike
  unfold Terminal.putCell
  dsimp only
  refine modifyBlink ?_ _
  split
  · exact ((between.modifyRow _ _).modifyBlink _).markDamage _ _ _
  · exact (between.modifyRow _ _).markDamage _ _ _

theorem print (alike : first.Resembles second common) (char : Char) :
    (first.print char).Resembles (second.print char) common := by
  have wrapped := alike.wrap
  have samePen : second.wrap.pen = first.wrap.pen := by
    obtain ⟨evicted, wasReset, title, titleChanged, same, -⟩ := wrapped
    rw [same]
  obtain ⟨evicted, wasReset, title, titleChanged, written, counts, names⟩ :=
    wrapped.putCell ⟨char, first.wrap.pen⟩
  unfold Terminal.print
  dsimp only
  rw [samePen, written]
  exact ⟨evicted, wasReset, title, titleChanged, rfl, counts, names⟩

theorem printAll (alike : first.Resembles second common) (text : List Char) :
    (first.printAll text).Resembles (second.printAll text) common := by
  exact foldl alike (fun char current => current.print char) text

/-! ## Switches -/

theorem showScreen (alike : first.Resembles second common) (alternate clear : Bool) :
    (first.showScreen alternate clear).Resembles (second.showScreen alternate clear) common := by
  obtain ⟨evicted, wasReset, title, titleChanged, rfl, counts, names⟩ := alike
  unfold Terminal.showScreen onAlternate
  dsimp only
  split
  · exact ⟨evicted, wasReset, title, titleChanged, rfl, counts, names⟩
  · split <;> exact ⟨evicted, wasReset, title, titleChanged, rfl, counts, names⟩

theorem setMode (alike : first.Resembles second common) (mode : Nat) (on : Bool) :
    (first.setMode mode on).Resembles (second.setMode mode on) common := by
  obtain ⟨evicted, wasReset, title, titleChanged, rfl, counts, names⟩ := alike
  unfold Terminal.setMode
  split <;> exact ⟨evicted, wasReset, title, titleChanged, rfl, counts, names⟩

theorem saveMainPosition (alike : first.Resembles second common) :
    first.saveMainPosition.Resembles second.saveMainPosition common := by
  obtain ⟨evicted, wasReset, title, titleChanged, rfl, counts, names⟩ := alike
  exact ⟨evicted, wasReset, title, titleChanged, rfl, counts, names⟩

theorem restoreMainPosition (alike : first.Resembles second common) :
    first.restoreMainPosition.Resembles second.restoreMainPosition common := by
  obtain ⟨evicted, wasReset, title, titleChanged, rfl, counts, names⟩ := alike
  exact ⟨evicted, wasReset, title, titleChanged, rfl, counts, names⟩

theorem setPrivateMode (alike : first.Resembles second common) (mode : Nat) (on : Bool) :
    (first.setPrivateMode mode on).Resembles (second.setPrivateMode mode on) common := by
  have between := alike
  obtain ⟨evicted, wasReset, title, titleChanged, rfl, counts, names⟩ := alike
  unfold Terminal.setPrivateMode
  split
  · exact ⟨evicted, wasReset, title, titleChanged, rfl, counts, names⟩
  · exact ⟨evicted, wasReset, title, titleChanged, rfl, counts, names⟩
  · dsimp only
    split <;> exact ⟨evicted, wasReset, title, titleChanged, rfl, counts, names⟩
  · exact ⟨evicted, wasReset, title, titleChanged, rfl, counts, names⟩
  · exact between.showScreen _ _
  · exact between.showScreen _ _
  · split
    · exact between.saveMainPosition
    · exact between.restoreMainPosition
  · split
    · exact between.saveMainPosition.showScreen _ _
    · exact (between.showScreen _ _).restoreMainPosition
  · exact ⟨evicted, wasReset, title, titleChanged, rfl, counts, names⟩
  · exact between

theorem alignmentTest (alike : first.Resembles second common) :
    first.alignmentTest.Resembles second.alignmentTest common := by
  obtain ⟨evicted, wasReset, title, titleChanged, rfl, counts, names⟩ := alike
  have filled :
      Resembles
        { first with buffer := first.buffer.clearScreenRows 0 first.lines ⟨'E', {}⟩ }
        { first with
          buffer := first.buffer.clearScreenRows 0 first.lines ⟨'E', {}⟩
          evicted, wasReset, title, titleChanged }
        common :=
    ⟨evicted, wasReset, title, titleChanged, rfl, counts, names⟩
  obtain ⟨lost, reset, named, told, same, counts, names⟩ := filled.modifyBlink fun _ => {}
  unfold Terminal.alignmentTest
  dsimp only
  rw [same]
  exact ⟨lost, reset, named, told, rfl, counts, names⟩

theorem setTitle (alike : first.Resembles second common) (given : String) :
    (first.setTitle given).Resembles (second.setTitle given) common := by
  obtain ⟨evicted, wasReset, title, titleChanged, rfl, counts, names⟩ := alike
  unfold Terminal.setTitle
  dsimp only
  split
  · next same =>
      subst same
      split
      · exact ⟨_, _, _, _, rfl, counts, names⟩
      · exact ⟨_, _, _, _, rfl, counts, fun _ => rfl⟩
  · split
    · next same =>
        subst same
        exact ⟨_, _, _, _, rfl, counts, fun _ => rfl⟩
    · exact ⟨_, _, _, _, rfl, counts, fun _ => rfl⟩

theorem backspace (alike : first.Resembles second common) :
    first.backspace.Resembles second.backspace common := by
  obtain ⟨evicted, wasReset, title, titleChanged, rfl, counts, names⟩ := alike
  unfold Terminal.backspace
  dsimp only
  split
  · split <;> exact ⟨evicted, wasReset, title, titleChanged, rfl, counts, names⟩
  · exact ⟨evicted, wasReset, title, titleChanged, rfl, counts, names⟩

theorem setMargins (alike : first.Resembles second common) (top bottom : Nat) :
    (first.setMargins top bottom).Resembles (second.setMargins top bottom) common := by
  obtain ⟨evicted, wasReset, title, titleChanged, rfl, counts, names⟩ := alike
  unfold Terminal.setMargins
  dsimp only
  split <;> exact ⟨evicted, wasReset, title, titleChanged, rfl, counts, names⟩

theorem restoreState (alike : first.Resembles second common) :
    first.restoreState.Resembles second.restoreState common := by
  obtain ⟨evicted, wasReset, title, titleChanged, rfl, counts, names⟩ := alike
  unfold Terminal.restoreState
  dsimp only
  split <;> exact ⟨evicted, wasReset, title, titleChanged, rfl, counts, names⟩

/-! ## Control functions -/

theorem perform (alike : first.Resembles second common) (function : ControlFunction) :
    (first.perform function).Resembles (second.perform function) common := by
  cases function with
  | backspace => exact alike.backspace
  | lineFeed => exact alike.lineFeed
  | carriageReturn => exact alike.carriageReturn
  | index => exact alike.index.1
  | nextLine => exact alike.carriageReturn.beginNextLine
  | reverseIndex => exact alike.reverseIndex
  | eraseInDisplay part => exact alike.eraseInDisplay part
  | eraseInLine part => exact alike.eraseInLine part
  | insertChars count => exact alike.insertChars count
  | deleteChars count => exact alike.deleteChars count
  | eraseChars count => exact alike.eraseChars count
  | setModes modes on =>
      exact foldl alike (fun mode current => current.setMode mode on) modes
  | setPrivateModes modes on =>
      exact foldl alike (fun mode current => current.setPrivateMode mode on) modes
  | alignmentTest => exact alike.alignmentTest
  | setTitle title => exact alike.setTitle _
  | reset =>
      obtain ⟨evicted, wasReset, title, titleChanged, rfl, -, names⟩ := alike
      exact ⟨_, _, _, _, rfl, fun _ => rfl, names⟩
  | restoreState => exact alike.restoreState
  | insertLines | deleteLines =>
      have between := alike
      obtain ⟨evicted, wasReset, title, titleChanged, rfl, counts, names⟩ := alike
      exact between.shiftLines _
  | scrollUp | scrollDown =>
      have between := alike
      obtain ⟨evicted, wasReset, title, titleChanged, rfl, counts, names⟩ := alike
      exact between.scroll _ _ _
  | setMargins =>
      have between := alike
      obtain ⟨evicted, wasReset, title, titleChanged, rfl, counts, names⟩ := alike
      exact between.setMargins _ _
  | nothing | horizontalTab | moveUp | moveDown | moveRight | moveLeft | moveUpLines
  | moveDownLines | moveTo | moveToColumn | moveToRow | moveRowsDown | selectRendition
  | savePosition | restorePosition | saveState | reportDevice | reportSecondary | reportStatus
  | reportWindow | reportPalette | reportDynamic =>
      obtain ⟨evicted, wasReset, title, titleChanged, rfl, counts, names⟩ := alike
      exact ⟨_, _, _, _, rfl, counts, names⟩

theorem answer_eq (alike : first.Resembles second common) (function : ControlFunction) :
    second.answer function = first.answer function := by
  obtain ⟨evicted, wasReset, title, titleChanged, rfl, counts, names⟩ := alike
  cases function <;> rfl

end Resembles

/-- The terminals differ at most in what a session is still to be told. -/
def Agrees (first second : Terminal) : Prop :=
  ∃ evicted wasReset titleChanged,
    second = { first with evicted, wasReset, titleChanged }

theorem agrees_iff {first second : Terminal} :
    first.Agrees second ↔ first.Resembles second ⟨False, True⟩ := by
  constructor
  · rintro ⟨evicted, wasReset, titleChanged, rfl⟩
    exact ⟨evicted, wasReset, first.title, titleChanged, rfl, nofun, fun _ => rfl⟩
  · rintro ⟨evicted, wasReset, title, titleChanged, rfl, -, names⟩
    obtain rfl := names trivial
    exact ⟨evicted, wasReset, titleChanged, rfl⟩

end Terminal

namespace Console

/-- The consoles have read and replied the same, and their terminals resemble
each other. -/
structure Resembles (first second : Console) (common : Terminal.Common) : Prop where
  terminal : first.terminal.Resembles second.terminal common
  interpreter_eq : second.interpreter = first.interpreter
  replies_eq : second.replies = first.replies

namespace Resembles

variable {first second : Console} {common : Terminal.Common}

theorem flush (alike : first.Resembles second common) :
    first.flush.Resembles second.flush common where
  terminal := by
    unfold Console.flush
    rw [alike.interpreter_eq]
    exact alike.terminal.printAll _
  interpreter_eq := by
    unfold Console.flush
    rw [alike.interpreter_eq]
  replies_eq := alike.replies_eq

theorem perform (alike : first.Resembles second common) (function : ControlFunction) :
    (first.perform function).Resembles (second.perform function) common where
  terminal := alike.terminal.perform function
  interpreter_eq := alike.interpreter_eq
  replies_eq := by
    unfold Console.perform
    rw [alike.terminal.answer_eq, alike.replies_eq]

theorem modifyInterpreter
    (alike : first.Resembles second common) (change : Interpreter → Interpreter) :
    (first.modifyInterpreter change).Resembles (second.modifyInterpreter change) common where
  terminal := alike.terminal
  interpreter_eq := congrArg change alike.interpreter_eq
  replies_eq := alike.replies_eq

theorem act (alike : first.Resembles second common) (char : Char) (action : Action) :
    (first.act char action).Resembles (second.act char action) common := by
  cases action with
  | ignore => exact alike
  | perform function => exact alike.perform function
  | finish function => exact (alike.perform function).modifyInterpreter _
  | enter | proceed | collect | abandon =>
      unfold Console.act
      exact alike.modifyInterpreter _

theorem advance (alike : first.Resembles second common) (char : Char) :
    (first.advance char).Resembles (second.advance char) common := by
  unfold Console.advance
  dsimp only
  rw [alike.interpreter_eq]
  split
  · exact alike.modifyInterpreter _
  · exact alike.flush.act char _

theorem feed (alike : first.Resembles second common) (text : List Char) :
    (first.feed text).Resembles (second.feed text) common := by
  unfold Console.feed
  apply flush
  induction text generalizing first second with
  | nil => exact alike
  | cons char rest inductionHypothesis => exact inductionHypothesis (alike.advance char)

end Resembles

/-- The consoles differ at most in what a session is still to be told by their
terminals. -/
structure Agrees (first second : Console) : Prop where
  terminal : first.terminal.Agrees second.terminal
  interpreter_eq : second.interpreter = first.interpreter
  replies_eq : second.replies = first.replies

theorem Agrees.feed
    {first second : Console}
    (agree : first.Agrees second)
    (text : List Char) :
    (first.feed text).Agrees (second.feed text) := by
  have alike : first.Resembles second ⟨False, True⟩ :=
    ⟨Terminal.agrees_iff.mp agree.terminal, agree.interpreter_eq, agree.replies_eq⟩
  have fed := alike.feed text
  exact ⟨Terminal.agrees_iff.mpr fed.terminal, fed.interpreter_eq, fed.replies_eq⟩

end Console

end VideoTerminal
