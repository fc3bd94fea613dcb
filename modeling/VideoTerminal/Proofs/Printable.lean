import VideoTerminal.Proofs.MovedCells
import VideoTerminal.Proofs.SessionRun

/-!
Cells without control characters. Characters reach a cell only when they are
printed, and only those are gathered for printing that are no control
characters. All else that is done to rows moves cells, drops them, or puts
spaces and the letter E in their place.
-/

namespace VideoTerminal

/-! ## Cells and rows -/

/-- The cell holds no control character. -/
def Cell.Printable (cell : Cell) : Prop :=
  Text.isControl cell.char = false

instance (cell : Cell) : Decidable cell.Printable :=
  inferInstanceAs (Decidable (_ = false))

theorem Cell.printable_erased (pen : Rendition) : (Cell.erased pen).Printable := by
  change Text.isControl ' ' = false
  decide

/-- No cell of the row holds a control character. -/
def Row.Printable (row : Row) : Prop :=
  ∀ cell ∈ row.cells, cell.Printable

instance (row : Row) : Decidable row.Printable :=
  inferInstanceAs (Decidable (∀ cell ∈ row.cells, cell.Printable))

namespace Row

variable {row : Row} {fill cell : Cell}

theorem printable_filled (columns : Nat) (fillPrintable : fill.Printable) :
    (filled columns fill).Printable := by
  intro cell member
  rw [List.eq_of_mem_replicate member]
  exact fillPrintable

theorem printable_clear (row : Row) (fillPrintable : fill.Printable) :
    (row.clear fill).Printable :=
  printable_filled row.cells.length fillPrintable

namespace Printable

theorem put (printable : row.Printable) (column : Nat) (cellPrintable : cell.Printable) :
    (row.put column cell).Printable := by
  intro other member
  rcases List.mem_or_eq_of_mem_set member with old | rfl
  · exact printable other old
  · exact cellPrintable

theorem insert (printable : row.Printable) (column : Nat) (cellPrintable : cell.Printable) :
    (row.insert column cell).Printable := by
  intro other member
  rcases List.mem_append.mp (List.mem_of_mem_take member) with before | after
  · exact printable other (List.mem_of_mem_take before)
  · rcases List.mem_cons.mp after with rfl | later
    · exact cellPrintable
    · exact printable other (List.mem_of_mem_drop later)

theorem fillSpan (printable : row.Printable) (start stop : Nat) (fillPrintable : fill.Printable) :
    (row.fillSpan start stop fill).Printable := by
  intro other member
  rcases List.mem_append.mp member with first | after
  · rcases List.mem_append.mp first with before | filled
    · exact printable other (List.mem_of_mem_take before)
    · rw [List.eq_of_mem_replicate filled]
      exact fillPrintable
  · exact printable other (List.mem_of_mem_drop after)

theorem openGap (printable : row.Printable) (column count : Nat) (fillPrintable : fill.Printable) :
    (row.openGap column count fill).Printable := by
  intro other member
  rcases List.mem_append.mp (List.mem_of_mem_take member) with first | after
  · rcases List.mem_append.mp first with before | filled
    · exact printable other (List.mem_of_mem_take before)
    · rw [List.eq_of_mem_replicate filled]
      exact fillPrintable
  · exact printable other (List.mem_of_mem_drop after)

theorem closeGap (printable : row.Printable) (column count : Nat) (fillPrintable : fill.Printable) :
    (row.closeGap column count fill).Printable := by
  intro other member
  rcases List.mem_append.mp member with first | filled
  · rcases List.mem_append.mp first with before | after
    · exact printable other (List.mem_of_mem_take before)
    · exact printable other (List.mem_of_mem_drop after)
  · rw [List.eq_of_mem_replicate filled]
    exact fillPrintable

theorem fit (printable : row.Printable) (columns : Nat) : (row.fit columns).Printable := by
  intro other member
  rcases List.mem_append.mp member with old | filled
  · exact printable other (List.mem_of_mem_take old)
  · rw [List.eq_of_mem_replicate filled]
    exact Cell.printable_erased {}

end Printable

end Row

/-! ## The rows of both screens -/

namespace ScreenBuffer

variable {buffer first second : ScreenBuffer} {fill : Cell}

/-- No cell of the two screens and of the history holds a control character. -/
structure Printable (buffer : ScreenBuffer) : Prop where
  ring : ∀ row ∈ buffer.ring.toList, row.Printable
  alternate : ∀ row ∈ buffer.alternate, row.Printable

theorem printable_iff :
    buffer.Printable ↔
      (∀ row ∈ buffer.ring.toList, row.Printable) ∧
        ∀ row ∈ buffer.alternate, row.Printable :=
  ⟨fun ⟨ring, alternate⟩ => ⟨ring, alternate⟩, fun ⟨ring, alternate⟩ => ⟨ring, alternate⟩⟩

instance (buffer : ScreenBuffer) : Decidable buffer.Printable :=
  decidable_of_iff _ printable_iff.symm

theorem printable_blank (lines columns limit : Nat) :
    (blank lines columns limit).Printable where
  ring := by
    intro row member
    rw [blank, Ring.toList_ofList] at member
    rw [List.eq_of_mem_replicate member]
    exact Row.printable_filled columns (Cell.printable_erased {})
  alternate := by
    intro row member
    rw [(Array.mem_replicate.mp member).2]
    exact Row.printable_filled columns (Cell.printable_erased {})

namespace Printable

theorem of_sameCells (printable : first.Printable) (same : first.SameCells second) :
    second.Printable := by
  have kept {rows others : List Row}
      (sameCells : others.map Row.cells = rows.map Row.cells)
      (good : ∀ row ∈ rows, row.Printable) :
      ∀ row ∈ others, row.Printable := by
    intro row member
    have cellsMember : row.cells ∈ rows.map Row.cells :=
      sameCells ▸ List.mem_map_of_mem member
    rcases List.mem_map.mp cellsMember with ⟨old, oldMember, cellsEq⟩
    rw [Row.Printable, ← cellsEq]
    exact good old oldMember
  constructor
  · exact kept same.main_eq printable.ring
  · intro row member
    refine kept same.alternate_eq ?_ row member.val
    intro old oldMember
    exact printable.alternate old ⟨oldMember⟩

theorem modifyScreen
    (printable : buffer.Printable)
    (y : Nat) {change : Row → Row}
    (keeps : ∀ row : Row, row.Printable → (change row).Printable) :
    (buffer.modifyScreen y change).Printable := by
  rw [ScreenBuffer.modifyScreen, modifyComposed]
  split
  · exact
      { printable with
        alternate := Ring.forall_mem_array_modify printable.alternate _ keeps }
  · exact { printable with ring := Ring.forall_mem_modify printable.ring _ keeps }

theorem swapScreen (printable : buffer.Printable) (first second : Nat) :
    (buffer.swapScreen first second).Printable := by
  rw [ScreenBuffer.swapScreen]
  split
  · refine { printable with alternate := ?_ }
    intro row member
    exact printable.alternate row ((Ring.mem_array_swap _ _).mp member)
  · refine { printable with ring := ?_ }
    intro row member
    exact printable.ring row ((Ring.mem_swap _ _).mp member)

theorem clearScreenRows
    (printable : buffer.Printable) (top count : Nat) (fillPrintable : fill.Printable) :
    (buffer.clearScreenRows top count fill).Printable :=
  List.foldlRecOn (List.range count) _ (motive := Printable) printable
    fun _ current _ _ => current.modifyScreen _ fun row _ => row.printable_clear fillPrintable

theorem clearAlternate (printable : buffer.Printable) (fillPrintable : fill.Printable) :
    (buffer.clearAlternate fill).Printable := by
  refine { printable with alternate := ?_ }
  intro row member
  rcases Array.mem_map.mp member with ⟨old, _, rfl⟩
  exact old.printable_clear fillPrintable

theorem advance (printable : buffer.Printable) (fillPrintable : fill.Printable) :
    (buffer.advance fill).1.Printable := by
  rw [ScreenBuffer.advance]
  split
  · refine { printable with ring := ?_ }
    intro row member
    rw [Ring.mem_toList, Ring.push, Array.mem_push] at member
    rcases member with old | rfl
    · exact printable.ring row (Ring.mem_toList.mpr old)
    · exact Row.printable_filled _ fillPrintable
  · exact
      { printable with
        ring := Ring.forall_mem_recycle printable.ring fun row _ =>
          row.printable_clear fillPrintable }

theorem scrollRows
    (printable : buffer.Printable) (top bottom : Nat) (amount : Int)
    (fillPrintable : fill.Printable) :
    (buffer.scrollRows top bottom amount fill).Printable := by
  have swapped (places : List Nat) (first second : Nat → Nat) :
      (places.foldl (fun current k => current.swapScreen (first k) (second k)) buffer).Printable :=
    List.foldlRecOn places _ (motive := Printable) printable
      fun _ current _ _ => current.swapScreen _ _
  rw [ScreenBuffer.scrollRows]
  split
  · exact printable
  · split
    · exact (swapped _ _ _).clearScreenRows _ _ fillPrintable
    · exact (swapped _ _ _).clearScreenRows _ _ fillPrintable

theorem clearHistory (printable : buffer.Printable) : buffer.clearHistory.Printable := by
  refine { printable with ring := ?_ }
  intro row member
  rw [ScreenBuffer.clearHistory, Ring.toList_keepLast] at member
  exact printable.ring row (List.mem_of_mem_drop member)

end Printable

/-! ## A new size -/

theorem printable_of_mem_rewrapFrom
    {oldColumns columns : Nat} {cursor : Option (Nat × Nat)} {groups : List (List Row)}
    {start first : Nat} {row : Row}
    (printable : ∀ line ∈ groups, ∀ old ∈ line, old.Printable)
    (member : row ∈ (Reflow.rewrapFrom oldColumns columns cursor start first groups).1) :
    row.Printable := by
  induction groups generalizing start first with
  | nil => cases member
  | cons line others inductionHypothesis =>
      rw [Reflow.rewrapFrom_cons, List.mem_append] at member
      rcases member with here | later
      · rw [Reflow.rewrapLine, Reflow.slice] at here
        rcases List.mem_map.mp here with ⟨k, _, rfl⟩
        refine Row.Printable.fit ?_ columns
        intro cell cellMember
        have joined := List.mem_of_mem_take (List.mem_of_mem_drop (List.mem_of_mem_take cellMember))
        rcases List.mem_flatMap.mp joined with ⟨old, oldMember, cellOld⟩
        exact printable line List.mem_cons_self old oldMember cell cellOld
      · exact inductionHypothesis
          (fun other otherMember => printable other (List.mem_cons_of_mem _ otherMember)) later

theorem Printable.of_mem_fitted
    (printable : buffer.Printable)
    {lines columns : Nat} {cursor : Option (Nat × Nat)} {row : Row}
    (member : row ∈ buffer.fitted lines columns cursor) :
    row.Printable := by
  have rewrapped (old : Row) (oldMember : old ∈ (buffer.rewrapped columns cursor).1) :
      old.Printable := by
    rw [ScreenBuffer.rewrapped] at oldMember
    split at oldMember
    · exact printable.ring old oldMember
    · refine printable_of_mem_rewrapFrom ?_ oldMember
      intro line lineMember each eachMember
      refine printable.ring each ?_
      rw [← Reflow.flatten_lines buffer.ring.toList]
      exact List.mem_flatten_of_mem lineMember eachMember
  have kept := List.mem_of_mem_take member
  rw [List.mem_append, List.mem_append] at kept
  rcases kept with (early | late) | new
  · exact rewrapped row (List.mem_of_mem_take early)
  · exact rewrapped row (List.mem_of_mem_drop (Text.mem_of_mem_trimEnd late))
  · rw [List.eq_of_mem_replicate new]
    exact Row.printable_filled columns (Cell.printable_erased {})

theorem Printable.resize
    (printable : buffer.Printable) (lines columns : Nat) (cursor : Option (Nat × Nat)) :
    (buffer.resize lines columns cursor).1.Printable where
  ring := by
    intro row member
    rw [ring_resize, Ring.toList_ofList] at member
    exact printable.of_mem_fitted (List.mem_of_mem_drop member)
  alternate := by
    intro row member
    simp only [ScreenBuffer.resize, List.mem_toArray, List.mem_append] at member
    rcases member with old | new
    · rcases List.mem_map.mp (List.mem_of_mem_take old) with ⟨before, beforeMember, rfl⟩
      exact (printable.alternate before ⟨beforeMember⟩).fit columns
    · rw [List.eq_of_mem_replicate new]
      exact Row.printable_filled columns (Cell.printable_erased {})

end ScreenBuffer

/-! ## What is done to a terminal -/

namespace Terminal

variable {terminal : Terminal}

/-- No cell of the terminal holds a control character. -/
def Printable (terminal : Terminal) : Prop :=
  terminal.buffer.Printable

theorem printable_fill (terminal : Terminal) : terminal.fill.Printable :=
  Cell.printable_erased terminal.pen

namespace Printable

theorem of_buffer_eq
    {other : Terminal}
    (printable : terminal.Printable)
    (same : other.buffer = terminal.buffer) :
    other.Printable := by
  rw [Printable, same]
  exact printable

theorem of_sameCells
    {other : Terminal}
    (printable : terminal.Printable)
    (same : terminal.buffer.SameCells other.buffer) :
    other.Printable :=
  ScreenBuffer.Printable.of_sameCells printable same

theorem modifyBlink (printable : terminal.Printable) (change : BlinkMarks → BlinkMarks) :
    (terminal.modifyBlink change).Printable :=
  printable.of_buffer_eq (terminal.buffer_modifyBlink change)

theorem modifyRow
    (printable : terminal.Printable)
    (y : Nat) {change : Row → Row}
    (keeps : ∀ row : Row, row.Printable → (change row).Printable) :
    (terminal.modifyRow y change).Printable :=
  ScreenBuffer.Printable.modifyScreen printable y keeps

/-! ### Scrolling -/

theorem advance
    {fill : Cell}
    (printable : terminal.Printable)
    (fillPrintable : fill.Printable)
    (count : Nat) :
    (terminal.advance fill count).Printable := by
  induction count generalizing terminal with
  | zero => exact printable
  | succ count inductionHypothesis =>
      apply inductionHypothesis
      exact ScreenBuffer.Printable.advance printable fillPrintable

theorem scroll (printable : terminal.Printable) (top bottom : Nat) (amount : Int) :
    (terminal.scroll top bottom amount).Printable := by
  rw [Terminal.scroll]
  split
  · exact printable
  · extract_lets height clamped fill whole moved marked
    have movedPrintable : moved.Printable := by
      dsimp only [moved]
      split
      · exact printable.advance terminal.printable_fill _
      · exact ScreenBuffer.Printable.scrollRows printable _ _ _ terminal.printable_fill
    exact movedPrintable.modifyBlink _

theorem index (printable : terminal.Printable) : terminal.index.1.Printable := by
  simp only [Terminal.index]
  split
  · exact printable.scroll _ _ _
  · split <;> exact printable

theorem reverseIndex (printable : terminal.Printable) : terminal.reverseIndex.Printable := by
  simp only [Terminal.reverseIndex]
  split
  · exact printable.scroll _ _ _
  · exact printable

theorem shiftLines (printable : terminal.Printable) (amount : Int) :
    (terminal.shiftLines amount).Printable := by
  rw [Terminal.shiftLines]
  split
  · exact printable.scroll _ _ _
  · exact printable

/-! ### Lines -/

theorem carriageReturn (printable : terminal.Printable) : terminal.carriageReturn.Printable :=
  printable.of_sameCells (.completeLine _ _ _)

theorem beginNextLine (printable : terminal.Printable) : terminal.beginNextLine.Printable := by
  simp only [Terminal.beginNextLine]
  split
  · exact printable.index.of_sameCells (.beginLine _ _)
  · exact printable.index

theorem lineFeed (printable : terminal.Printable) : terminal.lineFeed.Printable := by
  apply beginNextLine
  exact printable.of_sameCells (.completeLine _ _ _)

/-! ### Erasing and editing -/

theorem clearRow (printable : terminal.Printable) (y : Nat) : (terminal.clearRow y).Printable := by
  apply modifyBlink
  exact printable.modifyRow y fun row _ => row.printable_clear terminal.printable_fill

theorem clearRows (printable : terminal.Printable) (top count : Nat) :
    (terminal.clearRows top count).Printable :=
  List.foldlRecOn (List.range count) _ (motive := Printable) printable
    fun _ current _ _ => current.clearRow _

theorem eraseSpan (printable : terminal.Printable) (y start stop : Nat) :
    (terminal.eraseSpan y start stop).Printable := by
  apply modifyBlink
  apply printable.modifyRow y
  intro row rowPrintable
  split
  · exact row.printable_clear terminal.printable_fill
  · exact rowPrintable.fillSpan start stop terminal.printable_fill

theorem eraseInLine (printable : terminal.Printable) (part : Nat) :
    (terminal.eraseInLine part).Printable := by
  simp only [Terminal.eraseInLine]
  split
  · exact printable.eraseSpan _ _ _
  · exact printable.eraseSpan _ _ _
  · exact printable.eraseSpan _ _ _
  · exact printable

theorem clearHistory (printable : terminal.Printable) : terminal.clearHistory.Printable := by
  rw [Terminal.clearHistory]
  split
  · exact printable
  · exact ScreenBuffer.Printable.clearHistory printable

theorem eraseInDisplay (printable : terminal.Printable) (part : Nat) :
    (terminal.eraseInDisplay part).Printable := by
  simp only [Terminal.eraseInDisplay]
  split
  · exact (printable.eraseInLine 0).clearRows _ _
  · exact (printable.clearRows _ _).eraseInLine 1
  · exact printable.clearRows _ _
  · exact (printable.clearRows _ _).clearHistory
  · exact printable

theorem insertChars (printable : terminal.Printable) (count : Nat) :
    (terminal.insertChars count).Printable := by
  apply modifyBlink
  exact printable.modifyRow _ fun _ rowPrintable =>
    rowPrintable.openGap _ _ terminal.printable_fill

theorem deleteChars (printable : terminal.Printable) (count : Nat) :
    (terminal.deleteChars count).Printable := by
  apply modifyBlink
  exact printable.modifyRow _ fun _ rowPrintable =>
    rowPrintable.closeGap _ _ terminal.printable_fill

/-! ### Printing -/

theorem wrap (printable : terminal.Printable) : terminal.wrap.Printable := by
  rw [Terminal.wrap]
  split
  · exact printable
  · split
    · have returned :
          Printable { terminal with cursor := { terminal.cursor with x := 0 } } := printable
      dsimp only
      split
      · exact returned.index.of_sameCells (.continueLine _ _)
      · exact returned.index
    · exact printable

theorem putCell
    {cell : Cell}
    (printable : terminal.Printable)
    (cellPrintable : cell.Printable) :
    (terminal.putCell cell).Printable := by
  rw [Terminal.putCell]
  apply modifyBlink
  split
  · apply modifyBlink
    exact printable.modifyRow _ fun _ rowPrintable => rowPrintable.insert _ cellPrintable
  · exact printable.modifyRow _ fun _ rowPrintable => rowPrintable.put _ cellPrintable

/-- Only here does a character of the text reach a cell. -/
theorem print
    {char : Char}
    (printable : terminal.Printable)
    (shown : Text.isControl char = false) :
    (terminal.print char).Printable := by
  have written : Cell.Printable ⟨char, terminal.wrap.pen⟩ := shown
  exact printable.wrap.putCell written

theorem printAll
    {text : List Char}
    (printable : terminal.Printable)
    (shown : ∀ char ∈ text, Text.isControl char = false) :
    (terminal.printAll text).Printable :=
  List.foldlRecOn text Terminal.print (motive := Printable) printable
    fun _ current char member => current.print (shown char member)

/-! ### Switches -/

theorem showScreen (printable : terminal.Printable) (alternate clear : Bool) :
    (terminal.showScreen alternate clear).Printable := by
  have cleared : (terminal.buffer.clearAlternate terminal.fill).Printable :=
    ScreenBuffer.Printable.clearAlternate printable terminal.printable_fill
  have shown (buffer : ScreenBuffer) (good : buffer.Printable) :
      (buffer.showAlternate alternate).Printable := { good with }
  rw [Terminal.showScreen]
  split
  · exact printable
  · dsimp only
    split
    · exact shown _ cleared
    · exact shown _ printable

theorem setPrivateMode (printable : terminal.Printable) (mode : Nat) (on : Bool) :
    (terminal.setPrivateMode mode on).Printable := by
  have saved : terminal.saveMainPosition.Printable := printable
  refine terminal.setPrivateMode_cases on mode ?modes ?visible ?screen ?save ?restore ?enter ?leave
  case modes => exact fun _ => printable
  case visible => exact printable
  case screen => exact printable.showScreen on
  case save => exact printable
  case restore => exact printable
  case enter => exact saved.showScreen _ _
  case leave => exact printable.showScreen _ _

theorem alignmentTest (printable : terminal.Printable) : terminal.alignmentTest.Printable := by
  have letter : Cell.Printable ⟨'E', {}⟩ := by
    change Text.isControl 'E' = false
    decide
  have filled :
      Printable
        { terminal with
          buffer := terminal.buffer.clearScreenRows 0 terminal.lines ⟨'E', {}⟩ } :=
    ScreenBuffer.Printable.clearScreenRows printable 0 terminal.lines letter
  exact filled.modifyBlink _

/-! ### Requests -/

theorem perform (printable : terminal.Printable) (function : ControlFunction) :
    (terminal.perform function).Printable := by
  cases function with
  | lineFeed => exact printable.lineFeed
  | carriageReturn => exact printable.carriageReturn
  | index => exact printable.index
  | nextLine => exact printable.carriageReturn.beginNextLine
  | reverseIndex => exact printable.reverseIndex
  | eraseInDisplay part => exact printable.eraseInDisplay part
  | eraseInLine part => exact printable.eraseInLine part
  | insertLines | deleteLines => exact printable.shiftLines _
  | insertChars count => exact printable.insertChars count
  | deleteChars count => exact printable.deleteChars count
  | eraseChars count => exact printable.eraseSpan _ _ _
  | scrollUp | scrollDown => exact printable.scroll _ _ _
  | setModes modes on =>
      exact printable.of_buffer_eq
        (List.foldlRecOn modes _
          (motive := fun current : Terminal => current.buffer = terminal.buffer) rfl
          fun current same mode _ => (SameContent.setMode current mode on).buffer_eq.trans same)
  | setPrivateModes modes on =>
      exact List.foldlRecOn modes _ (motive := Printable) printable
        fun _ current mode _ => current.setPrivateMode mode on
  | reset => exact ScreenBuffer.printable_blank _ _ _
  | alignmentTest => exact printable.alignmentTest
  | setTitle title => exact printable.of_buffer_eq (SameContent.setTitle _ _).buffer_eq
  | backspace => exact printable.of_buffer_eq (SameContent.backspace _).buffer_eq
  | setMargins => exact printable.of_buffer_eq (SameContent.setMargins _ _ _).buffer_eq
  | restoreState => exact printable.of_buffer_eq (SameContent.restoreState _).buffer_eq
  | nothing | horizontalTab | moveUp | moveDown | moveRight | moveLeft | moveUpLines
  | moveDownLines | moveTo | moveToColumn | moveToRow | moveRowsDown | selectRendition
  | savePosition | restorePosition | saveState | reportDevice | reportSecondary
  | reportStatus | reportWindow | reportPalette | reportDynamic => exact printable

theorem resize
    {lines columns : Nat} {resized : Terminal}
    (printable : terminal.Printable)
    (accepted : terminal.resize? lines columns = some resized) :
    resized.Printable := by
  simp only [Terminal.resize?] at accepted
  split at accepted
  · cases accepted
  · cases accepted
    exact ScreenBuffer.Printable.resize printable _ _ _

theorem serve
    {request : Request}
    (printable : terminal.Printable)
    (shown : ∀ text, request = .print text → ∀ char ∈ text, Text.isControl char = false) :
    (terminal.serve request).Printable := by
  cases request with
  | perform function => exact printable.perform function
  | print text => exact printable.printAll (shown text rfl)
  | scroll top bottom amount => exact printable.scroll top bottom amount
  | resize lines columns =>
      rw [Terminal.serve]
      cases accepted : terminal.resize? lines columns with
      | none => exact printable
      | some resized => exact printable.resize accepted
  | markBlink => exact printable.of_buffer_eq (SameContent.markBlink _).buffer_eq
  | takeDamage => exact printable.of_buffer_eq (SameContent.takeDamage _).buffer_eq
  | setPen | configure | takeTitle | takeReset | takeEvicted => exact printable

end Printable

end Terminal

/-! ## What a console reads -/

namespace Console

variable {console : Console}

/-- No cell of the terminal holds a control character, and none is to be
written to one. -/
structure Printable (console : Console) : Prop where
  terminal : console.terminal.Printable
  pending : ∀ char ∈ console.interpreter.pending.toList, Text.isControl char = false

namespace Printable

theorem flush (printable : console.Printable) : console.flush.Printable where
  terminal := printable.terminal.printAll printable.pending
  pending := nofun

theorem perform (printable : console.Printable) (function : ControlFunction) :
    (console.perform function).Printable where
  terminal := printable.terminal.perform function
  pending := printable.pending

theorem act (printable : console.Printable) (char : Char) (action : Action) :
    (console.act char action).Printable := by
  cases action with
  | perform function => exact printable.perform function
  | finish function => exact { printable.perform function with }
  | ignore | enter | proceed | collect | abandon => exact { printable with }

/-- A control character is never gathered: it acts, or it ends or continues a
sequence. -/
theorem advance (printable : console.Printable) (char : Char) :
    (console.advance char).Printable := by
  simp only [Console.advance]
  split
  · next gathered =>
      rw [Bool.and_eq_true, Bool.not_eq_true'] at gathered
      refine { printable with pending := ?_ }
      intro other member
      change other ∈ (console.interpreter.pending.push char).toList at member
      rw [Array.toList_push, List.mem_append, List.mem_singleton] at member
      rcases member with old | rfl
      · exact printable.pending other old
      · exact gathered.2
  · exact printable.flush.act char _

theorem feed (printable : console.Printable) (text : List Char) :
    (console.feed text).Printable := by
  apply flush
  exact List.foldlRecOn text Console.advance (motive := Printable) printable
    fun _ current char _ => current.advance char

theorem receive
    {input : Input}
    (printable : console.Printable)
    (unwritten : ∀ text, input ≠ .request (.print text)) :
    (console.receive input).Printable := by
  cases input with
  | text chars => exact printable.feed chars
  | char char => exact printable.advance char
  | flush => exact printable.flush
  | abort => exact { printable.flush with }
  | request request =>
      refine { printable with terminal := printable.terminal.serve ?_ }
      intro text same
      exact absurd (congrArg Input.request same) (unwritten text)

theorem run
    {inputs : List Input}
    (printable : console.Printable)
    (unwritten : Unwritten inputs) :
    (console.run inputs).Printable :=
  List.foldlRecOn inputs Console.receive (motive := Printable) printable
    fun _ current _ member => current.receive fun text same => unwritten text (same ▸ member)

theorem of_leads
    {other : Console}
    (printable : console.Printable)
    (leads : console.Leads other) :
    other.Printable := by
  rcases leads with ⟨inputs, unwritten, same⟩
  have ran := printable.run unwritten
  have taken : other.takeReplies.1.Printable := by
    rw [same]
    exact { ran with }
  exact { taken with }

end Printable

theorem printable_blank (lines columns limit : Nat) : (blank lines columns limit).Printable where
  terminal := ScreenBuffer.printable_blank lines columns limit
  pending := nofun

end Console

/-- Whatever was done with a session and whatever text it was fed, its cells
hold no control characters. -/
theorem Session.Reachable.printable {session : Session} (reachable : session.Reachable) :
    session.terminal.Printable := by
  rcases reachable.ran with ⟨lines, columns, limit, _, _, leads⟩
  exact ((Console.printable_blank lines columns limit).of_leads leads).terminal

end VideoTerminal
