import VideoTerminal.Proofs.Chunks
import VideoTerminal.Proofs.Figures
import VideoTerminal.Proofs.Writing

/-!
Plain text. Lines without control characters, written to a blank screen, are
laid out as the number of columns says. A new size lays them out as if they
had been written to a screen of that size. In machine words, both end unless a
row goes to the history, or the size is new, and the rows that the ring may hold
cannot be counted.
-/

namespace VideoTerminal

namespace Reflow

/-- The cells that a line of plain text is shown in. -/
def plainCells (line : List Char) : List Cell :=
  line.map fun char => ⟨char, {}⟩

@[simp]
theorem length_plainCells (line : List Char) :
    (plainCells line).length = line.length := by
  simp [plainCells]

/-- The number of rows that plain text takes. -/
def rowsNeeded (columns : Nat) : List (List Char) → Nat
  | [] => 0
  | line :: rest => rowCount columns line.length + rowsNeeded columns rest

theorem length_layout_plainCells
    (columns : Nat) (complete : List (List Char)) (current : List Char) :
    (layout columns (complete.map plainCells) (plainCells current)).length =
      rowsNeeded columns (complete ++ [current]) := by
  induction complete with
  | nil => simp [layout, rowsNeeded]
  | cons line rest inductionHypothesis =>
      rw [List.map_cons, layout_cons, List.length_append, inductionHypothesis, length_slice,
        length_plainCells]
      rfl

end Reflow

/-- A line printed from the first column of a blank row. -/
theorem Terminal.Shows.printAll_blank
    {lines columns limit : Nat} {before : List Row} {terminal : Terminal}
    (columnsPositive : 0 < columns)
    (shows : terminal.Shows lines columns limit (before ++ [Row.filled columns {}]))
    (column : terminal.cursor.x = 0)
    (line : List Char)
    (room :
      (before ++ Reflow.openRows columns (Reflow.plainCells line)).length ≤ limit + lines) :
    (terminal.printAll line).Shows lines columns limit
        (before ++ Reflow.openRows columns (Reflow.plainCells line)) ∧
      (terminal.printAll line).cursor.x = Reflow.endColumn columns line.length := by
  rw [← Reflow.openRows_nil] at shows
  have beginning : terminal.cursor.x = Reflow.endColumn columns 0 := by
    rw [column, Reflow.endColumn, Nat.zero_sub]
  have printed := shows.printAll columnsPositive beginning line room
  rw [List.length_nil, Nat.zero_add] at printed
  exact printed

/-! ## Reading plain text -/

namespace Console

/-- Lines of text with the characters between them that end a line. -/
def joinLines (text : List (List Char)) : List Char :=
  ['\r', '\n'].intercalate text

theorem joinLines_cons_append
    (line : List Char) (rest : List (List Char)) (current : List Char) :
    joinLines (line :: rest ++ [current]) =
      line ++ (['\r', '\n'] ++ joinLines (rest ++ [current])) := by
  rw [joinLines, List.cons_append, List.intercalate_cons_of_ne_nil (by simp),
    List.append_assoc]
  rfl

variable {console : Console}

/-- Nothing of a sequence has been read. -/
def Quiet (console : Console) : Prop :=
  console.interpreter = {}

/-- Printable characters are printed. -/
theorem feed_printable
    (quiet : console.Quiet)
    {text : List Char}
    (printable : ∀ char ∈ text, Text.isControl char = false) :
    console.feed text = { console with terminal := console.terminal.printAll text } := by
  have gathers :
      ∀ pending : Array Char,
        text.foldl advance { console with interpreter := { pending } } =
          { console with interpreter := { pending := pending ++ text.toArray } } := by
    induction text with
    | nil => simp
    | cons char rest inductionHypothesis =>
        intro pending
        have waits :
            advance { console with interpreter := { pending } } char =
              { console with interpreter := { pending := pending.push char } } := by
          have plain : Text.isControl char = false := printable char List.mem_cons_self
          unfold advance
          dsimp only
          rw [plain]
          rfl
        rw [List.foldl_cons, waits,
          inductionHypothesis (fun each member => printable each (List.mem_cons_of_mem _ member))]
        simp
  have start : console = { console with interpreter := { pending := #[] } } := by
    obtain ⟨terminal, interpreter, replies⟩ := console
    exact congrArg (fun reading => Console.mk terminal reading replies) quiet
  rw [feed, start, gathers]
  simp [flush]

/-- The end of a line is a carriage return and a line feed. -/
theorem feed_lineBreak (quiet : console.Quiet) :
    console.feed ['\r', '\n'] =
      { console with terminal := console.terminal.carriageReturn.lineFeed } := by
  obtain ⟨terminal, interpreter, replies⟩ := console
  obtain rfl : interpreter = {} := quiet
  simp [feed, advance, flush, act, perform, Interpreter.isGround, Text.isControl,
    Action.ofChar, Action.ofPhase?, Action.ofControlChar?, Terminal.printAll,
    Terminal.perform, Terminal.answer]

/-- A text leaves the terminal with the rows of its layout. -/
theorem feed_joinLines
    {lines columns limit : Nat} {before : List Row}
    (columnsPositive : 0 < columns)
    (quiet : console.Quiet)
    (shows :
      console.terminal.Shows lines columns limit (before ++ [Row.filled columns {}]))
    (column : console.terminal.cursor.x = 0)
    {complete : List (List Char)} {current : List Char}
    (printable : ∀ line ∈ complete ++ [current], ∀ char ∈ line, Text.isControl char = false)
    (room :
      (before ++
        Reflow.layout columns (complete.map Reflow.plainCells)
          (Reflow.plainCells current)).length ≤ limit + lines) :
    (console.feed (joinLines (complete ++ [current]))).terminal.Shows lines columns limit
        (before ++
          Reflow.layout columns (complete.map Reflow.plainCells) (Reflow.plainCells current)) ∧
      (console.feed (joinLines (complete ++ [current]))).terminal.cursor.x =
        Reflow.endColumn columns current.length := by
  induction complete generalizing console before with
  | nil =>
      have alone : joinLines ([] ++ [current]) = current := by
        simp [joinLines]
      have plain : ∀ char ∈ current, Text.isControl char = false :=
        printable current (by simp)
      rw [alone, feed_printable quiet plain]
      exact shows.printAll_blank columnsPositive column current room
  | cons line rest inductionHypothesis =>
      have plain : ∀ char ∈ line, Text.isControl char = false :=
        printable line (by simp)
      have plainRest :
          ∀ line ∈ rest ++ [current], ∀ char ∈ line, Text.isControl char = false :=
        fun each member => printable each (List.mem_cons_of_mem _ member)
      rw [List.map_cons, Reflow.layout_cons, ← List.append_assoc] at room ⊢
      -- the lines that follow take a row at least, so that the line feed finds room
      have roomLine :
          (before ++ Reflow.slice columns (Reflow.plainCells line)).length < limit + lines := by
        have someRows :=
          Reflow.length_layout_pos columns (rest.map Reflow.plainCells)
            (Reflow.plainCells current)
        have whole := room
        rw [List.length_append] at whole
        omega
      have printed := shows.printAll_blank columnsPositive column line (by
        rw [List.length_append, Reflow.length_slice] at roomLine
        rw [List.length_append, Reflow.length_openRows]
        exact Nat.le_of_lt roomLine)
      have returned := printed.1.carriageReturn columnsPositive (by
        rw [printed.2, Reflow.length_plainCells])
      have ended := returned.1.lineFeed columnsPositive returned.2 roomLine
      have quietStill :
          Quiet { console with terminal := console.terminal.printAll line } := quiet
      rw [joinLines_cons_append, feed_append, feed_append, feed_printable quiet plain,
        feed_lineBreak quietStill]
      exact inductionHypothesis quiet ended.1 ended.2 plainRest room

end Console

/-! ## A new size -/

/-- Blank rows below the row `anchor` make way for those that the screen needs. -/
theorem ScreenBuffer.fitRows_append_replicate
    {rows : List Row} {lines columns : Nat}
    (someRows : 0 < rows.length)
    (linesPositive : 0 < lines)
    (count : Nat) :
    fitRows (rows ++ List.replicate count (Row.filled columns {})) (rows.length - 1) lines
        columns =
      padded lines columns rows := by
  have above :
      (rows ++ List.replicate count (Row.filled columns {})).take (rows.length - 1 + 1) =
        rows := by
    rw [Nat.sub_add_cancel someRows]
    exact List.take_left' rfl
  have below :
      (rows ++ List.replicate count (Row.filled columns {})).drop (rows.length - 1 + 1) =
        List.replicate count (Row.filled columns {}) := by
    rw [Nat.sub_add_cancel someRows]
    exact List.drop_left' rfl
  have trimmed :
      Text.trimEnd Row.isBlank (List.replicate count (Row.filled columns {})) = [] := by
    apply Text.trimEnd_of_all
    intro row member
    rw [List.eq_of_mem_replicate member]
    exact Reflow.isBlank_filled columns
  have whole : (padded lines columns rows).length ≤ rows.length - 1 + lines := by
    rw [length_padded]
    omega
  unfold fitRows
  dsimp only
  rw [above, below, trimmed, List.append_nil]
  exact List.take_of_length_le whole

namespace Terminal.Shows

variable {lines columns limit newLines newColumns : Nat} {rows : List Row}
variable {terminal resized : Terminal}

theorem size_ring (shows : terminal.Shows lines columns limit rows) :
    terminal.buffer.ring.size = max lines rows.length := by
  rw [shows.holds.2, Ring.size_ofList, length_padded]

/-- The rows that the screen has no room for are those of the history. -/
theorem length_historyCells (shows : terminal.Shows lines columns limit rows) :
    terminal.buffer.historyCells.length = rows.length - lines := by
  rw [ScreenBuffer.historyCells, List.length_map, List.length_take, Ring.length_toList,
    shows.buffer_lines, shows.size_ring]
  omega

/-- From a screen of one row to one of other rows, a row goes to the history just
if they are too many for the screen. -/
theorem risen_eq_nil_iff
    {first second : Terminal} {row : Row} {risen : List Terminal}
    (begun : first.Shows lines columns limit [row])
    (linesPositive : 0 < lines)
    (limitPositive : 0 < limit)
    (extended : first.Extends risen second)
    (shows : second.Shows lines columns limit rows) :
    risen = [] ↔ rows.length ≤ lines := by
  have nothingYet : first.buffer.historyCells.length = 0 :=
    begun.length_historyCells.trans (Nat.sub_eq_zero_of_le linesPositive)
  have history := congrArg List.length extended.history_eq
  rw [List.length_drop, List.length_append, nothingYet, List.length_map, Nat.zero_add,
    shows.length_historyCells] at history
  rw [← List.length_eq_zero_iff]
  constructor
  · intro none
    omega
  · intro held
    -- rows are lost only from a full ring, and this one has no more rows than the screen
    have notLost : second.evicted ≤ first.evicted := by
      by_contra lost
      have full := extended.full_of_lost (Nat.lt_of_not_le lost)
      rw [ScreenBuffer.capacity, shows.limit_eq, shows.buffer_lines, shows.size_ring] at full
      omega
    omega

/-- The layout of a text is the layout of the same text at any number of
columns, up to the stamps of its last line. -/
theorem rewrapped_layout
    {complete : List (List Cell)} {current : List Cell}
    (columnsPositive : 0 < columns)
    (newColumnsPositive : 0 < newColumns)
    (shows :
      terminal.Shows lines columns limit (Reflow.layout columns complete current))
    (column : terminal.cursor.x = Reflow.endColumn columns current.length) :
    ∃ others count,
      terminal.buffer.rewrapped newColumns (some (terminal.cursor.x, terminal.cursor.y)) =
          (others ++ List.replicate count (Row.filled newColumns {}),
            some (Reflow.endColumn newColumns current.length, others.length - 1)) ∧
        others.map Row.cells = (Reflow.layout newColumns complete current).map Row.cells := by
  obtain rfl := shows.buffer_columns
  have rowsEq :
      terminal.buffer.ring.toList =
        padded lines terminal.buffer.columns
          (Reflow.layout terminal.buffer.columns complete current) := by
    rw [shows.holds.2, Ring.toList_ofList]
  have place :
      terminal.buffer.ring.size - terminal.buffer.lines + terminal.cursor.y =
        (Reflow.layout terminal.buffer.columns complete current).length - 1 := by
    rw [← shows.screenBase_add_row, ScreenBuffer.screenBase, shows.holds.composedSize_eq,
      shows.holds.2, Ring.size_ofList]
  unfold ScreenBuffer.rewrapped
  dsimp only [Option.map_some]
  rw [place, rowsEq, column, padded]
  by_cases same : newColumns = terminal.buffer.columns
  · rw [if_pos same, same]
    exact ⟨_, _, rfl, rfl⟩
  · have anew :=
      Reflow.rewrapFrom_layout columnsPositive newColumnsPositive complete current
        (lines - (Reflow.layout terminal.buffer.columns complete current).length) 0 0
    have sameLength :
        (complete.flatMap (Reflow.slice newColumns) ++ Reflow.slice newColumns current).length =
          (Reflow.layout newColumns complete current).length := by
      simp [Reflow.layout]
    rw [Nat.zero_add, Nat.zero_add, ← sameLength] at anew
    rw [if_neg same, Reflow.rewrap, Reflow.lines_layout, anew]
    refine ⟨_, _, rfl, ?_⟩
    rw [Reflow.layout, List.map_append, List.map_append, Reflow.openRows,
      Reflow.map_cells_stampedRows]

/-- A new size keeps the rows that there is room for, and the cursor on the
last of them. -/
theorem resize
    {others : List Row} {count x : Nat}
    (shows : terminal.Shows lines columns limit rows)
    (accepted : terminal.resize? newLines newColumns = some resized)
    (rewrapped :
      terminal.buffer.rewrapped newColumns (some (terminal.cursor.x, terminal.cursor.y)) =
        (others ++ List.replicate count (Row.filled newColumns {}),
          some (x, others.length - 1)))
    (someRows : 0 < others.length)
    (room : others.length ≤ limit + newLines)
    (inside : x ≤ newColumns) :
    resized.buffer.Holds (padded newLines newColumns others) ∧
      resized.cursor = ⟨x, others.length - 1 - (others.length - newLines)⟩ := by
  obtain ⟨newLinesPositive, -, bufferEq, cursorEq⟩ :=
    Terminal.resize?_of_main shows.holds.1 accepted
  have fitted :
      terminal.buffer.fitted newLines newColumns
          (some (terminal.cursor.x, terminal.cursor.y)) =
        padded newLines newColumns others := by
    unfold ScreenBuffer.fitted
    rw [rewrapped]
    exact ScreenBuffer.fitRows_append_replicate someRows newLinesPositive count
  have noneEvicted :
      terminal.buffer.evictedBy newLines newColumns
          (some (terminal.cursor.x, terminal.cursor.y)) =
        0 := by
    rw [ScreenBuffer.evictedBy, fitted, length_padded, shows.limit_eq]
    omega
  have ring :=
    terminal.buffer.ring_resize newLines newColumns
      (some (terminal.cursor.x, terminal.cursor.y))
  have moved :=
    terminal.buffer.cursor_resize newLines newColumns
      (some (terminal.cursor.x, terminal.cursor.y))
  rw [noneEvicted, fitted, List.drop_zero] at ring moved
  rw [rewrapped, length_padded, Option.map_some] at moved
  dsimp only at moved
  rw [Nat.min_eq_left inside, Nat.sub_zero] at moved
  have screenBase : max newLines others.length - newLines = others.length - newLines := by
    omega
  rw [screenBase] at moved
  refine ⟨⟨?_, ?_⟩, cursorEq _ moved⟩
  · rw [bufferEq]
    exact shows.holds.1
  · rw [bufferEq]
    exact ring

end Terminal.Shows

/-- Rows of the same cells are composed to rows of the same cells. -/
theorem ScreenBuffer.Holds.composed_cells_eq
    {first second : ScreenBuffer} {rows others : List Row}
    (holds : first.Holds rows)
    (otherHolds : second.Holds others)
    (sameCells : rows.map Row.cells = others.map Row.cells) :
    first.composedSize = second.composedSize ∧
      ∀ index < first.composedSize,
        (first.composedRow index).cells = (second.composedRow index).cells := by
  have sameLength : rows.length = others.length := by
    simpa using congrArg List.length sameCells
  refine ⟨by rw [holds.composedSize_eq, otherHolds.composedSize_eq, sameLength], ?_⟩
  intro index inside
  rw [holds.composedSize_eq] at inside
  have here : index < others.length := sameLength ▸ inside
  have sameHere := congrArg (fun cells => cells[index]?) sameCells
  simp only [List.getElem?_map, List.getElem?_eq_getElem inside, List.getElem?_eq_getElem here,
    Option.map_some, Option.some.injEq] at sameHere
  rw [holds.composedRow_eq (List.getElem?_eq_getElem inside),
    otherHolds.composedRow_eq (List.getElem?_eq_getElem here)]
  exact sameHere

namespace Console

/-- A text fed to a blank screen. -/
theorem feed_blank
    {lines columns limit : Nat}
    (linesPositive : 0 < lines)
    (columnsPositive : 0 < columns)
    {complete : List (List Char)} {current : List Char}
    (printable : ∀ line ∈ complete ++ [current], ∀ char ∈ line, Text.isControl char = false)
    (room : Reflow.rowsNeeded columns (complete ++ [current]) ≤ limit + lines) :
    ((blank lines columns limit).feed
          (joinLines (complete ++ [current]))).terminal.Shows lines columns limit
        (Reflow.layout columns (complete.map Reflow.plainCells) (Reflow.plainCells current)) ∧
      ((blank lines columns limit).feed
          (joinLines (complete ++ [current]))).terminal.cursor.x =
        Reflow.endColumn columns current.length := by
  have shows :
      (blank lines columns limit).terminal.Shows lines columns limit
        ([] ++ [Row.filled columns {}]) :=
    Terminal.Shows.blank linesPositive columns limit
  rw [← Reflow.length_layout_plainCells] at room
  have quiet : (blank lines columns limit).Quiet := rfl
  exact feed_joinLines columnsPositive quiet shows rfl printable room

/-- A text on a screen that is given a new size, and the same text written to
a blank screen of that size, cannot be told apart. -/
theorem resize_feed_of_append
    {lines columns newLines newColumns limit : Nat}
    (linesPositive : 0 < lines)
    (columnsPositive : 0 < columns)
    (newLinesPositive : 0 < newLines)
    (newColumnsPositive : 0 < newColumns)
    {complete : List (List Char)} {current : List Char}
    (printable : ∀ line ∈ complete ++ [current], ∀ char ∈ line, Text.isControl char = false)
    (room : Reflow.rowsNeeded columns (complete ++ [current]) ≤ limit + lines)
    (newRoom : Reflow.rowsNeeded newColumns (complete ++ [current]) ≤ limit + newLines)
    {resized : Terminal}
    (accepted :
      ((blank lines columns limit).feed
          (joinLines (complete ++ [current]))).terminal.resize? newLines newColumns =
        some resized) :
    let direct :=
      ((blank newLines newColumns limit).feed (joinLines (complete ++ [current]))).terminal
    resized.buffer.composedSize = direct.buffer.composedSize ∧
      (∀ index < resized.buffer.composedSize,
        (resized.buffer.composedRow index).cells = (direct.buffer.composedRow index).cells) ∧
      resized.cursor = direct.cursor := by
  intro direct
  obtain ⟨shows, column⟩ := feed_blank linesPositive columnsPositive printable room
  obtain ⟨showsDirect, columnDirect⟩ :=
    feed_blank newLinesPositive newColumnsPositive printable newRoom
  rw [← Reflow.length_plainCells] at column columnDirect
  obtain ⟨others, count, rewrapped, sameCells⟩ :=
    shows.rewrapped_layout columnsPositive newColumnsPositive column
  have sameLength := congrArg List.length sameCells
  rw [List.length_map, List.length_map] at sameLength
  have someRows :=
    Reflow.length_layout_pos newColumns (complete.map Reflow.plainCells)
      (Reflow.plainCells current)
  rw [← Reflow.length_layout_plainCells, ← sameLength] at newRoom
  obtain ⟨holds, cursorEq⟩ :=
    shows.resize accepted rewrapped (sameLength ▸ someRows) newRoom
      (Reflow.endColumn_le newColumnsPositive _)
  have samePadded :
      (padded newLines newColumns others).map Row.cells =
        (padded newLines newColumns
          (Reflow.layout newColumns (complete.map Reflow.plainCells)
            (Reflow.plainCells current))).map Row.cells := by
    rw [padded, padded, List.map_append, List.map_append, sameCells, sameLength]
  obtain ⟨sameSize, sameRows⟩ := holds.composed_cells_eq showsDirect.holds samePadded
  refine ⟨sameSize, sameRows, ?_⟩
  have row : direct.cursor.y + (others.length - newLines) + 1 = others.length := by
    rw [sameLength]
    exact showsDirect.cursor_row
  have rowEq : others.length - 1 - (others.length - newLines) = direct.cursor.y := by
    omega
  rw [cursorEq, rowEq, ← columnDirect]

/-- No line at all is read like a single empty one. -/
theorem joinLines_eq_append
    {text : List (List Char)}
    (printable : ∀ line ∈ text, ∀ char ∈ line, Text.isControl char = false) :
    ∃ complete current,
      joinLines text = joinLines (complete ++ [current]) ∧
        (∀ line ∈ complete ++ [current], ∀ char ∈ line, Text.isControl char = false) ∧
        ∀ columns lines, 0 < lines →
          (Reflow.rowsNeeded columns (complete ++ [current]) ≤ lines ↔
            Reflow.rowsNeeded columns text ≤ lines) := by
  rcases List.eq_nil_or_concat text with rfl | ⟨complete, current, rfl⟩
  · refine ⟨[], [], rfl, by simp, ?_⟩
    intro columns lines linesPositive
    have oneRow : Reflow.rowCount columns 0 = 1 := Reflow.rowCount_eq_one (Nat.zero_le columns)
    simp [Reflow.rowsNeeded, oneRow, Nat.succ_le_of_lt linesPositive]
  · rw [List.concat_eq_append] at printable ⊢
    exact ⟨complete, current, rfl, printable, fun _ _ _ => Iff.rfl⟩

/-- Resizing commutes with writing plain text: whatever the two sizes are, as
long as the ring has room for the rows at both of them. -/
theorem resize_feed_eq_feed
    {lines columns newLines newColumns limit : Nat}
    (linesPositive : 0 < lines)
    (columnsPositive : 0 < columns)
    (newLinesPositive : 0 < newLines)
    (newColumnsPositive : 0 < newColumns)
    {text : List (List Char)}
    (printable : ∀ line ∈ text, ∀ char ∈ line, Text.isControl char = false)
    (room : Reflow.rowsNeeded columns text ≤ limit + lines)
    (newRoom : Reflow.rowsNeeded newColumns text ≤ limit + newLines) :
    let written := ((blank lines columns limit).feed (joinLines text)).terminal
    let resized := (written.resize? newLines newColumns).getD written
    let direct := ((blank newLines newColumns limit).feed (joinLines text)).terminal
    resized.buffer.composedSize = direct.buffer.composedSize ∧
      (∀ index < resized.buffer.composedSize,
        (resized.buffer.composedRow index).cells = (direct.buffer.composedRow index).cells) ∧
      resized.cursor = direct.cursor := by
  intro written resized direct
  obtain ⟨complete, current, sameText, printableLines, sameRows⟩ := joinLines_eq_append printable
  have roomLines : Reflow.rowsNeeded columns (complete ++ [current]) ≤ limit + lines :=
    (sameRows columns _ (by omega)).mpr room
  have newRoomLines :
      Reflow.rowsNeeded newColumns (complete ++ [current]) ≤ limit + newLines :=
    (sameRows newColumns _ (by omega)).mpr newRoom
  have writtenEq :
      written =
        ((blank lines columns limit).feed (joinLines (complete ++ [current]))).terminal := by
    rw [← sameText]
  have directEq :
      direct =
        ((blank newLines newColumns limit).feed
          (joinLines (complete ++ [current]))).terminal := by
    rw [← sameText]
  cases accepted : written.resize? newLines newColumns with
  | none =>
      -- the size is the one that the terminal has
      have shows := (feed_blank linesPositive columnsPositive printableLines roomLines).1
      have linesEq : written.lines = lines := writtenEq ▸ shows.lines_eq
      have columnsEq : written.columns = columns := writtenEq ▸ shows.columns_eq
      have same : newLines = lines ∧ newColumns = columns := by
        have refused := Terminal.resize?_refused accepted
        omega
      have unchanged : resized = direct := by
        have kept : resized = written := congrArg (fun new => Option.getD new written) accepted
        rw [kept, writtenEq, directEq, same.1, same.2]
      rw [unchanged]
      exact ⟨rfl, fun _ _ => rfl, rfl⟩
  | some changed =>
      have resizedEq : resized = changed :=
        congrArg (fun new => Option.getD new written) accepted
      rw [writtenEq] at accepted
      rw [resizedEq, directEq]
      exact
        resize_feed_of_append linesPositive columnsPositive newLinesPositive newColumnsPositive
          printableLines roomLines newRoomLines accepted

/-! ## Figures of plain text -/

variable {console : Console}

/-- The characters of plain text are shown, or end a line. -/
def IsPlain (char : Char) : Prop :=
  Text.isControl char = false ∨ char = '\r' ∨ char = '\n'

theorem isPlain_of_mem_joinLines
    {text : List (List Char)}
    (printable : ∀ line ∈ text, ∀ char ∈ line, Text.isControl char = false) :
    ∀ char ∈ joinLines text, IsPlain char := by
  induction text with
  | nil => exact fun char member => nomatch member
  | cons line rest inductionHypothesis =>
      intro char member
      have here : char ∈ line → IsPlain char :=
        fun inLine => .inl (printable line List.mem_cons_self char inLine)
      cases rest with
      | nil =>
          have alone : joinLines [line] = line := by simp [joinLines]
          exact here (alone ▸ member)
      | cons next others =>
          rw [joinLines, List.intercalate_cons_of_ne_nil (List.cons_ne_nil next others),
            List.append_assoc, List.mem_append, List.mem_append] at member
          rcases member with inLine | inBreak | later
          · exact here inLine
          · exact .inr (List.mem_pair.mp inBreak)
          · exact inductionHypothesis
              (fun each inRest => printable each (List.mem_cons_of_mem line inRest)) char later

theorem phase_advance_of_isPlain
    (inGround : console.interpreter.phase = .ground)
    {char : Char}
    (plain : IsPlain char) :
    (console.advance char).interpreter.phase = .ground := by
  unfold advance
  dsimp only
  split
  · exact inGround
  · next acted =>
      rw [inGround]
      rcases plain with shown | rfl | rfl
      · simp [Interpreter.isGround, inGround, shown] at acted
      · exact inGround
      · exact inGround

/-- Plain text asks for nothing but to print, to go to the first column and to go
down a row. -/
theorem mem_textRequests_of_isPlain
    (inGround : console.interpreter.phase = .ground)
    {text : List Char}
    (plain : ∀ char ∈ text, IsPlain char)
    {request : Terminal.Request}
    (member : request ∈ console.textRequests text) :
    (∃ shown, request = .print shown) ∨
      request = .perform .carriageReturn ∨ request = .perform .lineFeed := by
  induction text generalizing console with
  | nil => cases member
  | cons char rest inductionHypothesis =>
      have plainChar := plain char List.mem_cons_self
      rcases List.mem_append.mp member with here | later
      · unfold charRequests at here
        dsimp only at here
        split at here
        · cases here
        · next acted =>
            rcases List.mem_cons.mp here with rfl | performed
            · exact .inl ⟨_, rfl⟩
            · rw [inGround] at performed
              rcases plainChar with shown | rfl | rfl
              · simp [Interpreter.isGround, inGround, shown] at acted
              · exact .inr (.inl (List.mem_singleton.mp performed))
              · exact .inr (.inr (List.mem_singleton.mp performed))
      · exact inductionHypothesis (phase_advance_of_isPlain inGround plainChar)
          (fun each inRest => plain each (List.mem_cons_of_mem char inRest)) later

theorem mem_runRequests_joinLines
    {lines columns limit : Nat} {text : List (List Char)}
    (printable : ∀ line ∈ text, ∀ char ∈ line, Text.isControl char = false)
    {request : Terminal.Request}
    (member : request ∈ (blank lines columns limit).runRequests [.text (joinLines text)]) :
    (∃ shown, request = .print shown) ∨
      request = .perform .carriageReturn ∨ request = .perform .lineFeed := by
  rw [runRequests, runRequests, List.append_nil] at member
  rcases List.mem_append.mp member with read | last
  · exact mem_textRequests_of_isPlain rfl (isPlain_of_mem_joinLines printable) read
  · exact .inl ⟨_, List.mem_singleton.mp last⟩

variable {lines columns limit : Nat}

/-- As long as the ring has room for its rows, a text written to a blank screen
brings a row to the history just if the screen cannot hold them all. -/
theorem advancesIn_joinLines_eq_nil_iff
    (linesPositive : 0 < lines)
    (columnsPositive : 0 < columns)
    (limitPositive : 0 < limit)
    {text : List (List Char)}
    (printable : ∀ line ∈ text, ∀ char ∈ line, Text.isControl char = false)
    (room : Reflow.rowsNeeded columns text ≤ limit + lines) :
    let start := blank lines columns limit
    start.terminal.advancesIn (start.runRequests [.text (joinLines text)]) = [] ↔
      Reflow.rowsNeeded columns text ≤ lines := by
  intro start
  obtain ⟨complete, current, sameText, printableLines, sameRows⟩ := joinLines_eq_append printable
  have leave :
      ∀ request ∈ start.runRequests [.text (joinLines text)], request.leavesHistory = true := by
    intro request member
    rcases mem_runRequests_joinLines printable member with ⟨shown, rfl⟩ | rfl | rfl <;> rfl
  have wellFormed : start.terminal.WellFormed lines columns limit :=
    Terminal.WellFormed.blank linesPositive columnsPositive limit
  have extended := Terminal.Extends.foldl_serve wellFormed leave
  rw [← terminal_run] at extended
  have begun := Terminal.Shows.blank linesPositive columns limit
  have shows := (feed_blank linesPositive columnsPositive printableLines
    ((sameRows columns (limit + lines) (by omega)).mpr room)).1
  rw [← sameText] at shows
  rw [← sameRows columns lines linesPositive, ← Reflow.length_layout_plainCells]
  exact begun.risen_eq_nil_iff linesPositive limitPositive extended shows

theorem figures_fit_joinLines_iff
    (linesPositive : 0 < lines)
    (columnsPositive : 0 < columns)
    (linesWord : lines < Text.wordSize)
    {text : List (List Char)}
    (printable : ∀ line ∈ text, ∀ char ∈ line, Text.isControl char = false)
    (room : Reflow.rowsNeeded columns text ≤ limit + lines) :
    (∀ figure ∈ (blank lines columns limit).runFigures [.text (joinLines text)], figure.Fits) ↔
      Reflow.rowsNeeded columns text ≤ lines ∨ limit + lines < Text.wordSize := by
  have wellFormed : (blank lines columns limit).terminal.WellFormed lines columns limit :=
    Terminal.WellFormed.blank linesPositive columnsPositive limit
  have sameSize :
      ∀ request ∈ (blank lines columns limit).runRequests [.text (joinLines text)],
        request.isResize = false := by
    intro request member
    rcases mem_runRequests_joinLines printable member with ⟨shown, rfl⟩ | rfl | rfl <;> rfl
  have reports : (blank lines columns limit).ReportsFit [.text (joinLines text)] := by
    apply reportsFit_of_not_asked
    intro question member
    rcases mem_runRequests_joinLines printable member with ⟨shown, same⟩ | same | same
    all_goals cases same
  rw [figures_fit_iff_of_not_resize wellFormed sameSize, and_iff_left reports]
  -- without a history the rows of the screen are all that is counted, and they fit
  rcases Nat.eq_zero_or_pos limit with rfl | limitPositive
  · have fits : 0 + lines < Text.wordSize := by omega
    exact iff_of_true (.inr fits) (.inr fits)
  · have nothing :=
      advancesIn_joinLines_eq_nil_iff linesPositive columnsPositive limitPositive printable room
    exact or_congr nothing Iff.rfl

theorem figures_fit_joinLines_resize_iff
    {newLines newColumns : Nat}
    (linesPositive : 0 < lines)
    (columnsPositive : 0 < columns)
    (newLinesPositive : 0 < newLines)
    (newColumnsPositive : 0 < newColumns)
    (linesWord : lines < Text.wordSize)
    {text : List (List Char)}
    (printable : ∀ line ∈ text, ∀ char ∈ line, Text.isControl char = false)
    (room : Reflow.rowsNeeded columns text ≤ limit + lines) :
    (∀ figure ∈ (blank lines columns limit).runFigures
        [.text (joinLines text), .request (.resize newLines newColumns)], figure.Fits) ↔
      (Reflow.rowsNeeded columns text ≤ lines ∨ limit + lines < Text.wordSize) ∧
        ((newLines = lines ∧ newColumns = columns) ∨ limit + newLines < Text.wordSize) := by
  have begun : (blank lines columns limit).terminal.WellFormed lines columns limit :=
    Terminal.WellFormed.blank linesPositive columnsPositive limit
  have parted :
      (blank lines columns limit).runFigures
          [.text (joinLines text), .request (.resize newLines newColumns)] =
        (blank lines columns limit).runFigures [.text (joinLines text)] ++
          ((blank lines columns limit).feed (joinLines text)).runFigures
            [.request (.resize newLines newColumns)] :=
    runFigures_append _ [_] [_]
  rw [parted, List.forall_mem_append,
    figures_fit_joinLines_iff linesPositive columnsPositive linesWord printable room,
    figures_fit_resize_iff (feed_wellFormed begun _) newLinesPositive newColumnsPositive]

/-- Resizing commutes with writing plain text: whatever the two sizes are, as
long as the ring has room for the rows at both of them. Both ways end in words
unless a row goes to the history, or the size is new, and the rows that the ring
may hold cannot be counted. -/
theorem resize_feed_in_words
    {newLines newColumns : Nat}
    (linesPositive : 0 < lines)
    (columnsPositive : 0 < columns)
    (newLinesPositive : 0 < newLines)
    (newColumnsPositive : 0 < newColumns)
    (linesWord : lines < Text.wordSize)
    (newLinesWord : newLines < Text.wordSize)
    {text : List (List Char)}
    (printable : ∀ line ∈ text, ∀ char ∈ line, Text.isControl char = false)
    (room : Reflow.rowsNeeded columns text ≤ limit + lines)
    (newRoom : Reflow.rowsNeeded newColumns text ≤ limit + newLines) :
    let start := blank lines columns limit
    let begun := blank newLines newColumns limit
    let write := [.text (joinLines text)]
    let writeResize := [.text (joinLines text), .request (.resize newLines newColumns)]
    let resized := (start.run writeResize).terminal
    let direct := (begun.run write).terminal
    (resized.buffer.composedSize = direct.buffer.composedSize ∧
        (∀ index < resized.buffer.composedSize,
          (resized.buffer.composedRow index).cells = (direct.buffer.composedRow index).cells) ∧
        resized.cursor = direct.cursor) ∧
      (∀ found, start.runInWords writeResize = .ok found ↔
        ((Reflow.rowsNeeded columns text ≤ lines ∨ limit + lines < Text.wordSize) ∧
            ((newLines = lines ∧ newColumns = columns) ∨ limit + newLines < Text.wordSize)) ∧
          start.run writeResize = found) ∧
      ∀ found, begun.runInWords write = .ok found ↔
        (Reflow.rowsNeeded newColumns text ≤ newLines ∨ limit + newLines < Text.wordSize) ∧
          begun.run write = found := by
  intro start begun write writeResize resized direct
  refine ⟨?_, ?_, ?_⟩
  · exact resize_feed_eq_feed linesPositive columnsPositive newLinesPositive newColumnsPositive
      printable room newRoom
  · intro found
    rw [runInWords_eq_ok_iff, figures_fit_joinLines_resize_iff linesPositive columnsPositive
      newLinesPositive newColumnsPositive linesWord printable room]
  · intro found
    rw [runInWords_eq_ok_iff, figures_fit_joinLines_iff newLinesPositive newColumnsPositive
      newLinesWord printable newRoom]

/-- Two lines, the second with a full last row and the cursor after it at the
new number of columns. -/
theorem resize_feed_in_words_two_lines :
    let text := ["abc".toList, "defghi".toList]
    let start := blank 2 4 3
    let begun := blank 1 3 3
    let write := [.text (joinLines text)]
    let writeResize := [.text (joinLines text), .request (.resize 1 3)]
    let resized := (start.run writeResize).terminal
    let direct := (begun.run write).terminal
    (resized.buffer.composedSize = direct.buffer.composedSize ∧
        (∀ index < resized.buffer.composedSize,
          (resized.buffer.composedRow index).cells = (direct.buffer.composedRow index).cells) ∧
        resized.cursor = direct.cursor) ∧
      start.runInWords writeResize = .ok (start.run writeResize) ∧
      begun.runInWords write = .ok (begun.run write) := by
  have atFirst : 3 + 2 < Text.wordSize := by decide
  have atLast : 3 + 1 < Text.wordSize := by decide
  have shown := @resize_feed_in_words 2 4 3 1 3
    (by decide) (by decide) (by decide) (by decide) (by decide) (by decide)
    ["abc".toList, "defghi".toList] (by simp [Text.isControl]) (by decide) (by decide)
  exact ⟨shown.1, (shown.2.1 _).mpr ⟨⟨.inr atFirst, .inr atLast⟩, rfl⟩,
    (shown.2.2 _).mpr ⟨.inr atLast, rfl⟩⟩

/-- With the greatest limit, the new size stops the program, and the text alone
does not. -/
theorem resize_feed_stops_at_greatest_limit :
    let start := blank 1 1 (Text.wordSize - 1)
    let begun := blank 1 2 (Text.wordSize - 1)
    let write := [.text (joinLines [['a']])]
    let writeResize := [.text (joinLines [['a']]), .request (.resize 1 2)]
    Text.wordSize - 1 < Text.wordSize ∧
      start.runInWords writeResize = .error (.sum (Text.wordSize - 1) 1) ∧
      begun.runInWords write = .ok (begun.run write) := by
  intro start begun write writeResize
  have stops : start.runFigures writeResize = [.sum (Text.wordSize - 1) 1] := by decide +kernel
  have ends : begun.runFigures write = [] := by decide +kernel
  refine ⟨by decide, ?_, ?_⟩
  · rw [runInWords_eq, stops]
    rfl
  · rw [runInWords_eq, ends]
    rfl

end Console

end VideoTerminal
