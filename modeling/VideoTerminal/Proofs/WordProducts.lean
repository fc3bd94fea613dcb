import VideoTerminal.Proofs.ControlSequences
import VideoTerminal.Proofs.Figures
import VideoTerminal.Proofs.Hosting

/-!
Products of machine words. The place of a cell among all cells, and the size of
the screen in pixels, are products of numbers without a bound: the host may give
any column and row, and any size of a cell. The program tells them exactly as
long as they fit in a word, and stops at the first one that does not.
-/

namespace VideoTerminal

/-! ## Reports of the size in pixels -/

namespace Console

/-- The sequence that asks for a report on the window. -/
def windowQuestion (code : Nat) : List Char :=
  controlSequence (toString code).toList 't'

variable {console : Console} {code : Nat}

theorem windowQuestion_read (asked : code = 14 ∨ code = 15) :
    (∀ char ∈ (toString code).toList, Action.isParameter char = true) ∧
      (toString code).toList.length ≤ Parameters.limit ∧
      ControlFunction.ofFinal? ⟨(toString code).toList.toArray⟩ 't' =
        some (.reportWindow code) := by
  refine ⟨?_, ?_, ?_⟩
  · intro char member
    rw [Action.isParameter, Text.isDigit_of_mem_toString member, Bool.true_or]
  · have few : (toString code).toList.length ≤ 2 := by
      rw [Text.toList_toString, Nat.length_toDigits_le_iff (by decide) (by decide)]
      omega
    exact Nat.le_trans few (by decide)
  · rcases asked with rfl | rfl <;> rfl

/-- A question for the size in pixels leaves the terminal alone and is answered
with the products. -/
theorem feed_windowQuestion
    (inGround : console.interpreter.phase = .ground)
    (nothingWaits : console.interpreter.pending = #[])
    (asked : code = 14 ∨ code = 15) :
    let terminal := console.terminal
    (console.feed (windowQuestion code)).terminal = terminal ∧
      (console.feed (windowQuestion code)).replies =
        console.replies ++
          #[.pixelSize code (terminal.cellSize.height * terminal.lines)
            (terminal.cellSize.width * terminal.columns)] := by
  intro terminal
  obtain ⟨taken, fits, found⟩ := windowQuestion_read asked
  rw [windowQuestion, feed_controlSequence inGround taken fits found,
    flush_eq_self nothingWaits]
  refine ⟨rfl, ?_⟩
  rcases asked with rfl | rfl <;> rfl

theorem textFigures_windowQuestion
    (inGround : console.interpreter.phase = .ground)
    (nothingWaits : console.interpreter.pending = #[])
    (asked : code = 14 ∨ code = 15) :
    console.textFigures (windowQuestion code) =
      [.product console.terminal.cellSize.height console.terminal.lines,
        .product console.terminal.cellSize.width console.terminal.columns] := by
  obtain ⟨taken, fits, found⟩ := windowQuestion_read asked
  rw [windowQuestion, textFigures_controlSequence inGround nothingWaits taken fits found]
  rcases asked with rfl | rfl <;> rfl

end Console

namespace Session

variable {session : Session}

/-! ## No replies are owed -/

/-- All replies have been sent. -/
def Answered (session : Session) : Prop :=
  session.console.replies = #[]

namespace Answered

theorem of_eq
    {first second : Session}
    (answered : first.Answered)
    (console_eq : second.console = first.console) :
    second.Answered := by
  rw [Answered, console_eq]
  exact answered

theorem interpret (session : Session) (text : List Char) : (session.interpret text).Answered := by
  rw [Answered, (interpret_spec session text).1]
  rfl

theorem feed (answered : session.Answered) (text : List Char) : (session.feed text).Answered := by
  simp only [Session.feed]
  split
  · exact interpret _ _
  · exact answered

theorem unfreeze (answered : session.Answered) : session.unfreeze.Answered := by
  simp only [Session.unfreeze]
  split
  · exact interpret _ _
  · split <;> exact answered

theorem release (answered : session.Answered) : session.release.Answered := by
  have stopped : { session with selecting := false }.Answered := answered
  rw [Session.release]
  split
  · exact stopped.unfreeze
  · exact answered

theorem clearSelection (answered : session.Answered) : session.clearSelection.Answered := by
  have deselected : { session with selection := none }.Answered := answered
  exact deselected.release

theorem pollTimers (answered : session.Answered) (now : Nat) :
    (session.pollTimers now).Answered := by
  have guarded : (session.pollGuard now).Answered := by
    rw [Session.pollGuard]
    split
    · split <;> exact answered
    · exact answered
  rw [Session.pollTimers, Session.pollBlink]
  split
  · split <;> exact guarded
  · exact guarded

theorem call (answered : session.Answered) (made : Call) : (session.call made).Answered := by
  cases made with
  | feed text => exact answered.feed text
  | freeze => exact answered
  | unfreeze => exact answered.unfreeze
  | startSelection x y =>
      change (session.startSelection x y).1.Answered
      rw [Session.startSelection]
      split
      · exact answered.clearSelection
      · exact answered
  | extendSelection x y =>
      change (session.extendSelection x y).1.Answered
      rw [Session.extendSelection]
      split <;> exact answered
  | endSelection =>
      have finished :
          { session with selection := session.selection.map Selection.finish }.Answered := answered
      exact finished.release
  | selectAll => exact answered.release
  | clearSelection => exact answered.clearSelection
  | pollTimers now => exact answered.pollTimers now

theorem resize (answered : session.Answered) (lines columns : Nat) :
    (session.resize lines columns).1.Answered := by
  simp only [Session.resize]
  split
  · exact answered
  · next resized _ =>
      have unguarded :
          { session.withTerminal resized with guardDeadline := none }.Answered := answered
      split
      · next reported done =>
          exact unguarded.clearSelection.of_eq (SameView.reportSize done).console_eq
      · exact unguarded.clearSelection

theorem sendKey (answered : session.Answered) (press : KeyPress) :
    (session.sendKey press).1.Answered := by
  rw [Session.sendKey]
  split
  · next text _ => exact answered.of_eq (SameView.send session text).console_eq
  · exact answered

theorem processOutput (answered : session.Answered) : session.processOutput.1.Answered := by
  have emptied : { session with mailbox := [] }.Answered := answered
  refine List.foldlRecOn session.mailbox receive (motive := Answered) emptied ?_
  intro current currentAnswered event _
  cases event with
  | text text => exact currentAnswered.feed text
  | connection up => exact currentAnswered.of_eq (SameView.setConnected current up).console_eq

theorem act (answered : session.Answered) (done : Act) : (session.act done).Answered := by
  cases done with
  | call made => exact answered.call made
  | resize lines columns => exact answered.resize lines columns
  | send text => exact answered.of_eq (SameView.send session text).console_eq
  | sendKey press => exact answered.sendKey press
  | attachChannel channel =>
      exact answered.of_eq (SameView.attachChannel session channel).console_eq
  | attachStream reads => exact answered.of_eq (SameView.attachStream session reads).console_eq
  | close => exact answered.of_eq (SameView.close session).console_eq
  | processOutput => exact answered.processOutput
  | abortSequence | reset | takeDamage | takeNotices | remote => exact answered

theorem acts (answered : session.Answered) (done : List (Nat × Act)) :
    (session.acts done).Answered :=
  List.foldlRecOn done _ (motive := Answered) answered fun current kept step _ =>
    have later : (current.atTime step.1).Answered := kept
    later.act step.2

end Answered

theorem Reachable.answered (reachable : session.Reachable) : session.Answered := by
  obtain ⟨settings, start, done, made, rfl⟩ := reachable
  have fresh := fresh_ofSettings made
  have begun : start.Answered := (congrArg Console.replies fresh.settled_eq).symm
  exact begun.acts done

/-! ## Places of cells -/

/-- The place of a cell among all cells, which there need not be. -/
def exactOffset (session : Session) (x y : Nat) : Nat :=
  min x (session.terminal.columns - 1) + y * session.terminal.columns

/-- The place and the number of the cells fit in a word. -/
def PlaceFits (session : Session) (x y : Nat) : Prop :=
  session.exactOffset x y < Text.wordSize ∧ session.cellCount < Text.wordSize

theorem fits_offsetFigures_iff (session : Session) (x y : Nat) :
    (∀ figure ∈ session.offsetFigures x y, figure.Fits) ↔ session.PlaceFits x y := by
  have fewer : y * session.terminal.columns ≤ session.exactOffset x y := Nat.le_add_left _ _
  rw [offsetFigures, List.forall_mem_cons, List.forall_mem_cons, List.forall_mem_singleton]
  constructor
  · exact fun fit => fit.2
  · exact fun fit => ⟨Nat.lt_of_le_of_lt fewer fit.1, fit⟩

/-- The cells of a row that exists are counted below all cells. -/
theorem Sound.exactOffset_lt
    (sound : session.Sound)
    {y : Nat}
    (inside : y < session.terminal.buffer.composedSize)
    (x : Nat) :
    session.exactOffset x y < session.cellCount := by
  obtain ⟨lines, columns, limit, wellFormed⟩ := sound.wellFormed
  have positive : 0 < session.terminal.columns := by
    rw [wellFormed.columns_eq]
    exact wellFormed.columns_pos
  have rows : (y + 1) * session.terminal.columns ≤ session.cellCount :=
    Nat.mul_le_mul_right _ inside
  rw [Nat.succ_mul] at rows
  rw [exactOffset]
  omega

theorem cellCount_le_exactOffset
    {y : Nat}
    (below : session.terminal.buffer.composedSize ≤ y)
    (x : Nat) :
    session.cellCount ≤ session.exactOffset x y := by
  have rows : session.cellCount ≤ y * session.terminal.columns := Nat.mul_le_mul_right _ below
  rw [exactOffset]
  omega

/-! ## Selections and questions in words -/

theorem actInWords_eq_ok_iff {found : Session} {done : Act} :
    session.actInWords done = .ok found ↔
      (∀ figure ∈ session.actFigures done, figure.Fits) ∧ session.act done = found := by
  rw [actInWords, inWords_eq_ok_iff]

theorem startSelection_of_none
    (nothing : session.selection = none)
    (x y : Nat) :
    (session.startSelection x y).1.selection = some (.single (session.offset x y)) ∧
      session.startSelectionFigures x y = session.offsetFigures x y := by
  have fresh : session.selection.isSome = false := by rw [nothing]; rfl
  rw [startSelection, startSelectionFigures, fresh]
  exact ⟨rfl, rfl⟩

theorem selection_extendSelection
    {selection : Selection}
    (selected : session.selection = some selection)
    (unfinished : selection.finished = false)
    (x y : Nat) :
    (session.extendSelection x y).1.selection =
      some { selection with last := session.offset x y } := by
  rw [extendSelection, selected]
  change some (selection.extend (session.offset x y)).1 = _
  rw [Selection.extend, unfinished]
  by_cases same : selection.last = session.offset x y
  · rw [if_pos (.inr same), ← same, ← unfinished]
  · rw [if_neg (by simp [same])]

theorem fits_followFigures_iff
    (session : Session)
    (notReset : session.terminal.wasReset = false)
    (noneLost : session.terminal.evicted = 0) :
    (∀ figure ∈ session.followFigures session.terminal.onAlternate, figure.Fits) ↔
      session.selection = none ∨ session.cellCount < Text.wordSize := by
  have nothingMoves : (Figure.product 0 session.terminal.columns).Fits := by
    rw [Figure.Fits, Figure.value, Nat.zero_mul]
    decide
  unfold followFigures
  split
  · next nothing => exact iff_of_true (fun _ member => nomatch member) (.inl nothing)
  · next selected =>
      rw [if_neg (by simp [notReset]), noneLost, List.forall_mem_cons, List.forall_mem_singleton,
        and_iff_left nothingMoves, selected, or_iff_right (Option.some_ne_none _)]
      rfl

/-- A question for the size in pixels is answered at once. -/
theorem Reachable.replies_feed_windowQuestion
    (reachable : session.Reachable)
    (free : session.isHeld = false)
    (inGround : session.console.interpreter.phase = .ground)
    {code : Nat}
    (asked : code = 14 ∨ code = 15) :
    let terminal := session.terminal
    (session.feed (Console.windowQuestion code)).replies =
      session.replies ++
        [(Reply.pixelSize code (terminal.cellSize.height * terminal.lines)
          (terminal.cellSize.width * terminal.columns)).text] := by
  intro terminal
  have owed := (Console.feed_windowQuestion inGround reachable.sound.pending_eq asked).2
  have nothingOwed : session.console.replies = #[] := reachable.answered
  have told := (interpret_spec session (Console.windowQuestion code)).2.2
  rw [owed, nothingOwed] at told
  rw [feed_of_not_held free]
  exact told

/-- A question for the size in pixels needs both products, and the cells counted
if there are selected ones. -/
theorem Reachable.fits_feed_windowQuestion_iff
    (reachable : session.Reachable)
    (free : session.isHeld = false)
    (inGround : session.console.interpreter.phase = .ground)
    {code : Nat}
    (asked : code = 14 ∨ code = 15) :
    let terminal := session.terminal
    (∀ figure ∈ session.feedFigures (Console.windowQuestion code), figure.Fits) ↔
      terminal.cellSize.height * terminal.lines < Text.wordSize ∧
        terminal.cellSize.width * terminal.columns < Text.wordSize ∧
        (session.selection = none ∨ session.cellCount < Text.wordSize) := by
  intro terminal
  have sound := reachable.sound
  have same := (Console.feed_windowQuestion inGround sound.pending_eq asked).1
  let read : Session :=
    { session with console := session.console.feed (Console.windowQuestion code) }
  have sameTerminal : read.terminal = session.terminal := same
  have follows :
      (∀ figure ∈ read.followFigures terminal.onAlternate, figure.Fits) ↔
        session.selection = none ∨ session.cellCount < Text.wordSize := by
    have followed := read.fits_followFigures_iff (sameTerminal ▸ sound.wasReset_eq)
      (sameTerminal ▸ sound.evicted_eq)
    rwa [cellCount, sameTerminal] at followed
  have figures :
      session.feedFigures (Console.windowQuestion code) =
        session.console.textFigures (Console.windowQuestion code) ++
          read.followFigures terminal.onAlternate := by
    rw [feedFigures, free]
    rfl
  rw [figures, Console.textFigures_windowQuestion inGround sound.pending_eq asked,
    List.forall_mem_append, List.forall_mem_cons, List.forall_mem_singleton, follows, and_assoc]
  rfl

/-- A selection begins and ends at the place that the numbers of column and row
give, at most the last cell, and in words the program ends just if the place and
the number of the cells fit: for every row that exists, as long as the cells can
be counted. Every other row stands for the last cell. The screen is reported with
the size in pixels that it has, and in words the program ends just if both
products fit, and the cells can be counted if some are selected. -/
theorem places_and_reports_in_words (reachable : session.Reachable) :
    let terminal := session.terminal
    let height := terminal.cellSize.height * terminal.lines
    let width := terminal.cellSize.width * terminal.columns
    (∀ x y,
      let place := min (session.exactOffset x y) (session.cellCount - 1)
      (session.selection = none →
          (session.startSelection x y).1.selection = some (.single place) ∧
          ∀ found, session.actInWords (.call (.startSelection x y)) = .ok found ↔
            session.PlaceFits x y ∧ (session.startSelection x y).1 = found) ∧
        (∀ selection, session.selection = some selection → selection.finished = false →
          (session.extendSelection x y).1.selection = some { selection with last := place }) ∧
        (∀ found, session.actInWords (.call (.extendSelection x y)) = .ok found ↔
          session.PlaceFits x y ∧ (session.extendSelection x y).1 = found) ∧
        (y < terminal.buffer.composedSize → session.cellCount < Text.wordSize →
          session.PlaceFits x y) ∧
        (terminal.buffer.composedSize ≤ y → place = session.cellCount - 1)) ∧
      (session.isHeld = false → session.console.interpreter.phase = .ground →
        ∀ code, code = 14 ∨ code = 15 →
          (session.feed (Console.windowQuestion code)).replies =
              session.replies ++ [(Reply.pixelSize code height width).text] ∧
            ∀ found, session.actInWords (.call (.feed (Console.windowQuestion code))) = .ok found ↔
              (height < Text.wordSize ∧ width < Text.wordSize ∧
                  (session.selection = none ∨ session.cellCount < Text.wordSize)) ∧
                session.feed (Console.windowQuestion code) = found) := by
  intro terminal height width
  have sound := reachable.sound
  constructor
  · intro x y place
    refine ⟨?start, ?extend, ?extendInWords, ?inside, ?beyond⟩
    case start =>
      intro nothing
      obtain ⟨selected, figures⟩ := startSelection_of_none nothing x y
      refine ⟨selected, fun found => ?_⟩
      rw [actInWords_eq_ok_iff, ← fits_offsetFigures_iff, ← figures]
      rfl
    case extend =>
      exact fun selection selected unfinished =>
        selection_extendSelection selected unfinished x y
    case extendInWords =>
      intro found
      rw [actInWords_eq_ok_iff, ← fits_offsetFigures_iff]
      rfl
    case inside =>
      exact fun inside countable =>
        ⟨Nat.lt_trans (sound.exactOffset_lt inside x) countable, countable⟩
    case beyond =>
      intro below
      have beyond := cellCount_le_exactOffset below x
      exact Nat.min_eq_right (by omega)
  · intro free inGround code asked
    refine ⟨reachable.replies_feed_windowQuestion free inGround asked, fun found => ?_⟩
    have fit := reachable.fits_feed_windowQuestion_iff free inGround asked
    rw [actInWords_eq_ok_iff]
    exact and_congr fit Iff.rfl

/-- Two columns of eight pixels each. A row below the screen stands for the last
cell. -/
theorem places_and_reports_in_words_two_columns :
    let settings : Settings :=
      { lines := 1, columns := 2, historyLimit := 0, cellWidth := 8, cellHeight := 13 }
    let start : Session :=
      { console := { terminal := blankTerminal settings {} }
        blinkPeriod := some 500, blinkDeadline := some 500 }
    ofSettings settings = .ok start ∧
      (start.startSelection 9 5).1.selection = some (.single 1) ∧
      start.actInWords (.call (.startSelection 9 5)) = .ok (start.startSelection 9 5).1 ∧
      (start.feed (Console.windowQuestion 14)).replies =
        [(Reply.pixelSize 14 13 16).text] ∧
      start.actInWords (.call (.feed (Console.windowQuestion 14))) =
        .ok (start.feed (Console.windowQuestion 14)) := by
  intro settings start
  have begun : ofSettings settings = .ok start := rfl
  have reachable : start.Reachable := ⟨settings, start, [], begun, rfl⟩
  obtain ⟨places, reports⟩ := places_and_reports_in_words reachable
  obtain ⟨selected, startInWords⟩ := (places 9 5).1 rfl
  obtain ⟨told, asksInWords⟩ := reports rfl rfl 14 (.inl rfl)
  have near : start.PlaceFits 9 5 := by
    unfold PlaceFits
    decide
  have sizes :
      start.terminal.cellSize.height * start.terminal.lines < Text.wordSize ∧
        start.terminal.cellSize.width * start.terminal.columns < Text.wordSize := by
    decide +kernel
  exact ⟨begun, selected, (startInWords _).mpr ⟨near, rfl⟩, told,
    (asksInWords _).mpr ⟨⟨sizes.1, sizes.2, .inl rfl⟩, rfl⟩⟩

/-- The row is far beyond the last one, and its place stops the program, though
it stands for the last cell. So does a width of the screen that fits in no
word. -/
theorem startSelection_stops_far_below :
    let settings : Settings :=
      { lines := 1, columns := 2, historyLimit := 0, cellWidth := 2 ^ 63, cellHeight := 13 }
    let start : Session :=
      { console := { terminal := blankTerminal settings {} }
        blinkPeriod := some 500, blinkDeadline := some 500 }
    start.Reachable ∧
      2 ^ 63 < Text.wordSize ∧
      min (start.exactOffset 0 (2 ^ 63)) (start.cellCount - 1) = 1 ∧
      start.actInWords (.call (.startSelection 0 (2 ^ 63))) = .error (.product (2 ^ 63) 2) ∧
      start.actInWords (.call (.feed (Console.windowQuestion 14))) =
        .error (.product (2 ^ 63) 2) := by
  intro settings start
  have begun : ofSettings settings = .ok start := rfl
  have place : min (start.exactOffset 0 (2 ^ 63)) (start.cellCount - 1) = 1 := by decide +kernel
  have placed :
      start.actFigures (.call (.startSelection 0 (2 ^ 63))) =
        [.product (2 ^ 63) 2, .sum 0 (2 ^ 64), .product 1 2] := by decide +kernel
  have asked :
      start.actFigures (.call (.feed (Console.windowQuestion 14))) =
        [.product 13 1, .product (2 ^ 63) 2] := by decide +kernel
  refine ⟨⟨settings, start, [], begun, rfl⟩, by decide, place, ?_, ?_⟩
  · rw [actInWords, placed]
    rfl
  · rw [actInWords, asked]
    rfl

end Session

end VideoTerminal
