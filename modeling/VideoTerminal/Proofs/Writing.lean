import VideoTerminal.Proofs.Frame
import VideoTerminal.Proofs.Layout
import VideoTerminal.Terminal.Motion

/-!
A terminal that is written to from its first row on: the rows written so far,
the cursor on the last of them, and nothing else set. Every step of writing
changes the last row or adds one, and the end of a line stamps its rows.
-/

namespace VideoTerminal

/-! ## Rings stored from their first slot on -/

namespace Ring

variable {alpha : Type}

theorem get?_ofList
    {items : List alpha} {index : Nat}
    (inside : index < items.length) :
    (ofList items).get? index = items[index]? := by
  simp [ofList, get?, slot, Nat.mod_eq_of_lt inside]

theorem modify_ofList
    (before : List alpha) (item : alpha) (after : List alpha) (change : alpha → alpha) :
    (ofList (before ++ item :: after)).modify before.length change =
      ofList (before ++ change item :: after) := by
  have inside :
      (ofList (before ++ item :: after)).start + before.length <
        (ofList (before ++ item :: after)).size := by simp
  have changed :
      (before ++ item :: after).modify before.length change = before ++ change item :: after :=
    List.modifyTailIdx_add _ 0 before (item :: after)
  rw [modify, slot_of_lt inside]
  simp [ofList, changed]

theorem push_ofList (items : List alpha) (item : alpha) :
    (ofList items).push item = ofList (items ++ [item]) := by
  simp [ofList, push]

end Ring

/-! ## Logical lines by their rows -/

namespace ScreenBuffer

variable {buffer : ScreenBuffer}

theorem lineStart_eq
    {first index : Nat}
    (notAfter : first ≤ index)
    (begins : (buffer.composedRow first).wrap.continues = false)
    (continues : ∀ row, first < row → row ≤ index →
      (buffer.composedRow row).wrap.continues = true) :
    buffer.lineStart index = first := by
  induction index with
  | zero => exact (Nat.le_zero.mp notAfter).symm
  | succ index inductionHypothesis =>
      unfold lineStart
      by_cases here : first = index + 1
      · rw [← here, begins]
        rfl
      · rw [continues (index + 1) (by omega) (Nat.le_refl _)]
        exact inductionHypothesis (by omega) fun row after upTo =>
          continues row after (by omega)

theorem lineEnd_eq
    {index : Nat}
    (ends : index + 1 < buffer.composedSize →
      (buffer.composedRow (index + 1)).wrap.continues = false) :
    buffer.lineEnd index = index := by
  unfold lineEnd
  cases remaining : buffer.composedSize - (index + 1) with
  | zero => rfl
  | succ more =>
      unfold lineEndWithin
      rw [ends (by omega)]
      rfl

/-- The main screen is shown, and its rows are these, the oldest first. -/
def Holds (rows : List Row) (buffer : ScreenBuffer) : Prop :=
  buffer.onAlternate = false ∧ buffer.ring = Ring.ofList rows

namespace Holds

variable {rows : List Row}

theorem composedSize_eq (holds : buffer.Holds rows) :
    buffer.composedSize = rows.length := by
  simp [composedSize, holds.1, holds.2]

theorem composedRow_eq
    (holds : buffer.Holds rows)
    {index : Nat} {row : Row}
    (found : rows[index]? = some row) :
    buffer.composedRow index = row := by
  have inside : index < rows.length := by
    rw [List.getElem?_eq_some_iff] at found
    exact found.1
  simp [composedRow, ringRow, holds.1, holds.2, Ring.get?_ofList inside, found]

theorem modifyComposed_eq
    {before : List Row} {row : Row} {after : List Row}
    (holds : buffer.Holds (before ++ row :: after))
    (change : Row → Row) :
    buffer.modifyComposed before.length change =
      { buffer with ring := Ring.ofList (before ++ change row :: after) } := by
  simp [modifyComposed, holds.1, holds.2, Ring.modify_ofList]

theorem modifyComposed_eq_self
    {before : List Row} {row : Row} {after : List Row}
    (holds : buffer.Holds (before ++ row :: after))
    {change : Row → Row}
    (same : change row = row) :
    buffer.modifyComposed before.length change = buffer := by
  rw [holds.modifyComposed_eq, same, ← holds.2]

/-- A loop over consecutive rows changes each of them. -/
theorem foldl_modifyComposed_eq
    {before after : List Row} {count : Nat} {line : Nat → Row}
    (holds : buffer.Holds (before ++ (List.range count).map line ++ after))
    (change : Nat → Row → Row) :
    (List.range count).foldl
        (fun current k => current.modifyComposed (before.length + k) (change k)) buffer =
      { buffer with
        ring :=
          Ring.ofList
            (before ++ ((List.range count).map fun k => change k (line k)) ++ after) } := by
  induction count generalizing after with
  | zero =>
      have ringEq : buffer.ring = Ring.ofList (before ++ [] ++ after) := holds.2
      exact congrArg (fun ring => { buffer with ring }) ringEq
  | succ count inductionHypothesis =>
      have regrouped :
          buffer.Holds (before ++ (List.range count).map line ++ line count :: after) := by
        simpa [List.range_succ] using holds
      rw [List.range_succ, List.foldl_append, inductionHypothesis regrouped]
      have place :
          before.length + count =
            (before ++ (List.range count).map fun k => change k (line k)).length := by
        simp
      have changed :
          ScreenBuffer.Holds
            (before ++ ((List.range count).map fun k => change k (line k)) ++
              line count :: after)
            { buffer with
              ring :=
                Ring.ofList
                  (before ++ ((List.range count).map fun k => change k (line k)) ++
                    line count :: after) } :=
        ⟨regrouped.1, rfl⟩
      rw [List.foldl_cons, List.foldl_nil, place, changed.modifyComposed_eq]
      simp

/-- The length that is stamped on a line that says as much. -/
theorem stampedLength_eq
    {columns length stated x : Nat}
    (columnsPositive : 0 < columns)
    (told :
      max stated ((Reflow.rowCount columns length - 1) * columns + x) = length) :
    min
        (if Reflow.rowCount columns length - 1 > 0 then
          max (max stated ((Reflow.rowCount columns length - 1) * columns + x))
            ((Reflow.rowCount columns length - 1) * columns + 1)
        else max stated ((Reflow.rowCount columns length - 1) * columns + x))
        ((Reflow.rowCount columns length - 1 + 1) * columns) =
      length := by
  have room := Reflow.le_rowCount_mul columnsPositive length
  have someRows := Reflow.rowCount_pos columns length
  have last : Reflow.rowCount columns length - 1 < Reflow.rowCount columns length := by omega
  rw [told, Nat.sub_add_cancel someRows]
  split
  · next several =>
      have reached := Reflow.mul_lt_of_lt_rowCount columnsPositive several last
      rw [Nat.max_eq_left reached, Nat.min_eq_left room]
  · exact Nat.min_eq_left room

/-- The rows of a line, and what comes after them. -/
theorem composedRow_line
    {before after : List Row} {cells : List Cell} {stamp : Nat → Wrap} {columns k : Nat}
    (holds : buffer.Holds (before ++ Reflow.stampedRows columns cells stamp ++ after))
    (inside : k < Reflow.rowCount columns cells.length) :
    buffer.composedRow (before.length + k) = Reflow.pieceRow columns cells k (stamp k) := by
  apply holds.composedRow_eq
  rw [List.append_assoc, List.getElem?_append_right (Nat.le_add_right _ _),
    Nat.add_sub_cancel_left, List.getElem?_append_left (by simpa using inside)]
  simp [Reflow.stampedRows, inside]

theorem lineStart_line
    {before after : List Row} {cells : List Cell} {stamp : Nat → Wrap} {columns : Nat}
    (holds : buffer.Holds (before ++ Reflow.stampedRows columns cells stamp ++ after))
    (stamped : ∀ k, (stamp k).continues = (k != 0)) :
    buffer.lineStart (before.length + (Reflow.rowCount columns cells.length - 1)) =
      before.length := by
  have someRows := Reflow.rowCount_pos columns cells.length
  have firstRow := holds.composedRow_line someRows
  rw [Nat.add_zero] at firstRow
  apply lineStart_eq (Nat.le_add_right _ _)
  · rw [firstRow, Reflow.pieceRow, stamped]
    rfl
  · intro row isAfter upTo
    obtain ⟨k, rfl⟩ := Nat.exists_eq_add_of_lt isAfter
    rw [Nat.add_assoc, holds.composedRow_line (by omega), Reflow.pieceRow, stamped]
    rfl

theorem lineEnd_line
    {before after : List Row} {cells : List Cell} {stamp : Nat → Wrap} {columns : Nat}
    (holds : buffer.Holds (before ++ Reflow.stampedRows columns cells stamp ++ after))
    (ended : ∀ next ∈ after.head?, next.wrap.continues = false) :
    buffer.lineEnd (before.length + (Reflow.rowCount columns cells.length - 1)) =
      before.length + (Reflow.rowCount columns cells.length - 1) := by
  have someRows := Reflow.rowCount_pos columns cells.length
  have next :
      before.length + (Reflow.rowCount columns cells.length - 1) + 1 =
        (before ++ Reflow.stampedRows columns cells stamp).length := by
    rw [List.length_append, Reflow.length_stampedRows]
    omega
  apply lineEnd_eq
  intro inside
  have someAfter : 0 < after.length := by
    rw [holds.composedSize_eq, next] at inside
    simp only [List.length_append] at inside
    omega
  obtain ⟨row, rest, rfl⟩ := List.exists_cons_of_length_pos someAfter
  have found : buffer.composedRow (before ++ Reflow.stampedRows columns cells stamp).length = row :=
    holds.composedRow_eq (by simp)
  rw [next, found, ended row rfl]

/-- The end of a line that is complete now stamps its rows. -/
theorem stamp_eq
    {before after : List Row} {cells : List Cell} {stamp : Nat → Wrap} {x : Nat}
    (holds :
      buffer.Holds (before ++ Reflow.stampedRows buffer.columns cells stamp ++ after))
    (columnsPositive : 0 < buffer.columns)
    (stamped : ∀ k, (stamp k).continues = (k != 0))
    (ended : ∀ next ∈ after.head?, next.wrap.continues = false)
    (told :
      max (stamp 0).length
          ((Reflow.rowCount buffer.columns cells.length - 1) * buffer.columns + x) =
        cells.length) :
    buffer.stamp (before.length + (Reflow.rowCount buffer.columns cells.length - 1)) x =
      { buffer with
        ring := Ring.ofList (before ++ Reflow.slice buffer.columns cells ++ after) } := by
  have someRows := Reflow.rowCount_pos buffer.columns cells.length
  have firstRow := holds.composedRow_line someRows
  rw [Nat.add_zero] at firstRow
  have rows :
      before.length + (Reflow.rowCount buffer.columns cells.length - 1) + 1 - before.length =
        Reflow.rowCount buffer.columns cells.length := by omega
  have severalRows :
      (before.length + (Reflow.rowCount buffer.columns cells.length - 1) > before.length) =
        (Reflow.rowCount buffer.columns cells.length - 1 > 0) := by
    apply propext
    omega
  unfold ScreenBuffer.stamp
  simp only [holds.lineStart_line stamped, holds.lineEnd_line ended, rows,
    Nat.add_sub_cancel_left, firstRow, severalRows]
  simp only [Reflow.pieceRow, stampedLength_eq columnsPositive told]
  exact holds.foldl_modifyComposed_eq _

/-- A row that says nothing is stamped as it is. -/
theorem stamp_filled
    {before after : List Row}
    (holds : buffer.Holds (before ++ Row.filled buffer.columns {} :: after))
    (columnsPositive : 0 < buffer.columns)
    (ended : ∀ next ∈ after.head?, next.wrap.continues = false) :
    buffer.stamp before.length 0 = buffer := by
  have oneRow : Reflow.rowCount buffer.columns 0 = 1 :=
    Reflow.rowCount_eq_one (Nat.zero_le _)
  have asLine :
      buffer.Holds
        (before ++ Reflow.stampedRows buffer.columns [] Reflow.openStamp ++ after) := by
    rw [← Reflow.openRows, Reflow.openRows_nil, List.append_assoc, List.singleton_append]
    exact holds
  have told :
      max (Reflow.openStamp 0).length
          ((Reflow.rowCount buffer.columns ([] : List Cell).length - 1) * buffer.columns + 0) =
        ([] : List Cell).length := by
    rw [List.length_nil, oneRow, Nat.sub_self, Nat.zero_mul]
    rfl
  have stamped := asLine.stamp_eq columnsPositive (fun _ => rfl) ended told
  rw [List.length_nil, oneRow, Nat.sub_self, Nat.add_zero, Reflow.slice_nil, List.append_assoc,
    List.singleton_append, ← holds.2] at stamped
  exact stamped

end Holds

end ScreenBuffer

/-! ## What a terminal shows -/

/-- Rows, and blank rows below them as far as the screen reaches. -/
def padded (lines columns : Nat) (rows : List Row) : List Row :=
  rows ++ List.replicate (lines - rows.length) (Row.filled columns {})

theorem length_padded (lines columns : Nat) (rows : List Row) :
    (padded lines columns rows).length = max lines rows.length := by
  simp [padded]
  omega

/-- One row more takes the place of a blank one, or lengthens the rows. -/
theorem padded_append_blank (lines columns : Nat) (rows : List Row) :
    padded lines columns (rows ++ [Row.filled columns {}]) =
      if rows.length < lines then padded lines columns rows
      else padded lines columns rows ++ [Row.filled columns {}] := by
  unfold padded
  rw [List.length_append, List.length_singleton]
  split
  · next room =>
      rw [show lines - rows.length = lines - (rows.length + 1) + 1 by omega,
        List.replicate_succ]
      simp
  · next full =>
      rw [show lines - rows.length = 0 by omega, show lines - (rows.length + 1) = 0 by omega]
      simp

namespace Terminal

/-- The terminal has been written to from its first row on: it shows these
rows, with the cursor on the last one, and nothing of it is set. -/
structure Shows (lines columns limit : Nat) (rows : List Row) (terminal : Terminal) :
    Prop where
  lines_eq : terminal.lines = lines
  columns_eq : terminal.columns = columns
  buffer_lines : terminal.buffer.lines = lines
  buffer_columns : terminal.buffer.columns = columns
  limit_eq : terminal.buffer.historyLimit = limit
  holds : terminal.buffer.Holds (padded lines columns rows)
  cursor_row : terminal.cursor.y + (rows.length - lines) + 1 = rows.length
  pen_eq : terminal.pen = {}
  modes_eq : terminal.modes = {}
  margins_eq : terminal.margins = { bottom := lines - 1 }

namespace Shows

variable {lines columns limit : Nat} {rows : List Row} {terminal : Terminal}

theorem blank
    (linesPositive : 0 < lines) (columns limit : Nat) :
    (Terminal.blank lines columns limit).Shows lines columns limit
      [Row.filled columns {}] where
  lines_eq := rfl
  columns_eq := rfl
  buffer_lines := rfl
  buffer_columns := rfl
  limit_eq := rfl
  holds := by
    have split : lines = lines - 1 + 1 := by omega
    refine ⟨rfl, congrArg Ring.ofList ?_⟩
    conv_lhs => rw [split, List.replicate_succ]
    rfl
  cursor_row := by
    rw [List.length_singleton, Nat.sub_eq_zero_of_le linesPositive]
    rfl
  pen_eq := rfl
  modes_eq := rfl
  margins_eq := rfl

theorem screenBase_add_row (shows : terminal.Shows lines columns limit rows) :
    terminal.buffer.screenBase + terminal.cursor.y = rows.length - 1 := by
  have row := shows.cursor_row
  rw [ScreenBuffer.screenBase, shows.holds.composedSize_eq, shows.buffer_lines, length_padded]
  omega

theorem withCursorColumn
    (shows : terminal.Shows lines columns limit rows) (x : Nat) :
    { terminal with cursor := { terminal.cursor with x } }.Shows lines columns limit rows :=
  { shows with }

theorem withBuffer
    (shows : terminal.Shows lines columns limit rows)
    {others : List Row}
    (sameLength : others.length = rows.length)
    {buffer : ScreenBuffer}
    (bufferEq :
      buffer =
        { terminal.buffer with ring := Ring.ofList (padded lines columns others) }) :
    { terminal with buffer }.Shows lines columns limit others := by
  subst bufferEq
  exact
    { shows with
      holds := ⟨shows.holds.1, rfl⟩
      cursor_row := by
        rw [sameLength]
        exact shows.cursor_row }

/-- A change of the last row. -/
theorem modifyScreen_eq
    {before : List Row} {row : Row}
    (shows : terminal.Shows lines columns limit (before ++ [row]))
    (change : Row → Row) :
    terminal.buffer.modifyScreen terminal.cursor.y change =
      { terminal.buffer with
        ring := Ring.ofList (padded lines columns (before ++ [change row])) } := by
  have place := shows.screenBase_add_row
  have holds := shows.holds
  rw [List.length_append, List.length_singleton, Nat.add_sub_cancel] at place
  rw [padded, List.append_assoc, List.singleton_append] at holds
  rw [ScreenBuffer.modifyScreen, place, holds.modifyComposed_eq]
  simp [padded]

theorem modifyRow
    {before : List Row} {row : Row}
    (shows : terminal.Shows lines columns limit (before ++ [row]))
    (change : Row → Row) :
    (terminal.modifyRow terminal.cursor.y change).Shows lines columns limit
      (before ++ [change row]) :=
  shows.withBuffer (by simp) (shows.modifyScreen_eq change)

theorem markDamage
    (shows : terminal.Shows lines columns limit rows) (y start stop : Nat) :
    (terminal.markDamage y start stop).Shows lines columns limit rows :=
  { shows with }

theorem modifyBlink
    (shows : terminal.Shows lines columns limit rows) (change : BlinkMarks → BlinkMarks) :
    (terminal.modifyBlink change).Shows lines columns limit rows := by
  rw [modifyBlink_frame]
  exact { shows with }

/-! ## A row more -/

/-- The whole main screen, scrolled up by a row. -/
theorem buffer_scroll
    (main : terminal.onAlternate = false)
    (linesPositive : 0 < terminal.lines) :
    (terminal.scroll 0 (terminal.lines - 1) 1).buffer =
      (terminal.buffer.advance terminal.fill).1 := by
  have valid :
      ¬ ((1 : Int) = 0 ∨ 0 > terminal.lines - 1 ∨ terminal.lines - 1 ≥ terminal.lines) := by
    omega
  have height : terminal.lines - 1 - 0 + 1 = terminal.lines := by omega
  have amount : max (-(terminal.lines : Int)) (min 1 (terminal.lines : Int)) = 1 := by omega
  have whole :
      (!terminal.onAlternate && 0 == 0 && terminal.lines - 1 == terminal.lines - 1) = true ∧
        (1 : Int) > 0 := by
    simp [main]
  unfold scroll
  rw [if_neg valid]
  dsimp only
  rw [modifyBlink_frame, height, amount, if_pos whole]
  rfl

/-- The cursor goes down to a row that is blank. -/
theorem index_of_lt
    (shows : terminal.Shows lines columns limit rows)
    (below : rows.length < lines) :
    terminal.index =
        ({ terminal with cursor := { terminal.cursor with y := terminal.cursor.y + 1 } },
          true) ∧
      terminal.index.1.Shows lines columns limit (rows ++ [Row.filled columns {}]) := by
  have row := shows.cursor_row
  have linesEq := shows.lines_eq
  have holds := shows.holds
  have more := padded_append_blank lines columns rows
  rw [if_pos below] at more
  have notLast : ¬ terminal.cursor.y = terminal.margins.bottom := by
    rw [shows.margins_eq]
    dsimp only
    omega
  have inside : terminal.cursor.y + 1 < terminal.lines := by omega
  have moved :
      terminal.index =
        ({ terminal with cursor := { terminal.cursor with y := terminal.cursor.y + 1 } },
          true) := by
    unfold Terminal.index
    rw [if_neg notLast, if_pos inside]
  refine ⟨moved, ?_⟩
  rw [moved]
  exact
    { shows with
      holds := more ▸ holds
      cursor_row := by
        rw [List.length_append, List.length_singleton]
        dsimp only
        omega }

/-- On the last row of the screen, the screen is scrolled. -/
theorem index_of_le
    (shows : terminal.Shows lines columns limit rows)
    (full : lines ≤ rows.length)
    (room : rows.length < limit + lines) :
    terminal.index =
        (terminal.scroll terminal.margins.top terminal.margins.bottom 1, true) ∧
      terminal.cursor.y = terminal.margins.bottom ∧
      terminal.index.1.Shows lines columns limit (rows ++ [Row.filled columns {}]) := by
  have row := shows.cursor_row
  have linesEq := shows.lines_eq
  have holds := shows.holds
  have more := padded_append_blank lines columns rows
  rw [if_neg (Nat.not_lt.mpr full)] at more
  have last : terminal.cursor.y = terminal.margins.bottom := by
    rw [shows.margins_eq]
    dsimp only
    omega
  have scrolled :
      terminal.index =
        (terminal.scroll terminal.margins.top terminal.margins.bottom 1, true) := by
    unfold Terminal.index
    rw [if_pos last]
  have linesPositive : 0 < terminal.lines := by omega
  have roomEnough : terminal.buffer.ring.size < terminal.buffer.capacity := by
    rw [ScreenBuffer.capacity, shows.limit_eq, shows.buffer_lines, holds.2,
      Ring.size_ofList, length_padded]
    omega
  have newRow :
      Row.filled terminal.buffer.columns terminal.fill = Row.filled columns {} := by
    rw [shows.buffer_columns, fill, shows.pen_eq]
    rfl
  have advanced :
      (terminal.scroll terminal.margins.top terminal.margins.bottom 1).buffer =
        { terminal.buffer with
          ring := Ring.ofList (padded lines columns (rows ++ [Row.filled columns {}])) } := by
    rw [shows.margins_eq, ← linesEq, buffer_scroll holds.1 linesPositive,
      ScreenBuffer.advance, if_pos roomEnough, holds.2, Ring.push_ofList, newRow, linesEq, more]
  refine ⟨scrolled, last, ?_⟩
  rw [scrolled]
  dsimp only
  rw [scroll_frame, advanced]
  exact
    { shows with
      holds := ⟨holds.1, rfl⟩
      cursor_row := by
        rw [List.length_append, List.length_singleton]
        dsimp only
        omega }

theorem index
    (shows : terminal.Shows lines columns limit rows)
    (room : rows.length < limit + lines) :
    terminal.index.1.Shows lines columns limit (rows ++ [Row.filled columns {}]) ∧
      terminal.index.2 = true ∧
      (terminal.index.1.cursor.y ≠ terminal.cursor.y ∨
        terminal.index.1.margins.bottom = terminal.cursor.y) := by
  by_cases below : rows.length < lines
  · obtain ⟨moved, after⟩ := shows.index_of_lt below
    refine ⟨after, by rw [moved], Or.inl ?_⟩
    rw [moved]
    exact Nat.succ_ne_self _
  · obtain ⟨scrolled, last, after⟩ := shows.index_of_le (Nat.not_lt.mp below) room
    refine ⟨after, by rw [scrolled], Or.inr ?_⟩
    rw [scrolled]
    dsimp only
    rw [scroll_frame, last]

/-! ## Printing -/

/-- A full last row is followed by one that continues it. -/
theorem wrap
    (shows : terminal.Shows lines columns limit rows)
    (pending : terminal.cursor.x = columns)
    (room : rows.length < limit + lines) :
    terminal.wrap.Shows lines columns limit
        (rows ++ [{ Row.filled columns {} with wrap := { continues := true } }]) ∧
      terminal.wrap.cursor.x = 0 := by
  have notInside : ¬ terminal.cursor.x < terminal.columns := by
    rw [pending, shows.columns_eq]
    exact Nat.lt_irrefl columns
  have wraps : terminal.modes.autoWrap = true := by
    rw [shows.modes_eq]
  obtain ⟨moved, -, goes⟩ := (shows.withCursorColumn 0).index room
  have wrapped :
      terminal.wrap =
        { (Terminal.index { terminal with cursor := { terminal.cursor with x := 0 } }).1 with
          buffer :=
            (Terminal.index
                { terminal with cursor := { terminal.cursor with x := 0 } }).1.buffer.continueLine
              (Terminal.index
                { terminal with cursor := { terminal.cursor with x := 0 } }).1.cursor.y } := by
    unfold Terminal.wrap
    rw [if_neg notInside, if_pos wraps]
    dsimp only
    rw [if_pos goes]
  rw [wrapped]
  refine ⟨moved.withBuffer (by simp) (moved.modifyScreen_eq _), ?_⟩
  dsimp only
  rw [index_cursor_x]

theorem putCell
    {before : List Row} {row : Row}
    (shows : terminal.Shows lines columns limit (before ++ [row]))
    (cell : Cell) :
    (terminal.putCell cell).Shows lines columns limit
      (before ++ [row.put terminal.cursor.x cell]) := by
  have replaces : ¬ terminal.modes.insert = true := by
    rw [shows.modes_eq]
    decide
  unfold Terminal.putCell
  dsimp only
  rw [if_neg replaces]
  exact ((shows.modifyRow fun row => row.put terminal.cursor.x cell).markDamage _ _ _).modifyBlink
    _

/-- A character goes to the place of the cursor after a wrap. -/
theorem print_of_wrap
    {before : List Row} {row : Row}
    (wrapped : terminal.wrap.Shows lines columns limit (before ++ [row]))
    (char : Char) :
    (terminal.print char).Shows lines columns limit
        (before ++ [row.put terminal.wrap.cursor.x ⟨char, {}⟩]) ∧
      (terminal.print char).cursor.x = terminal.wrap.cursor.x + 1 := by
  have written := wrapped.putCell ⟨char, {}⟩
  have plain : (⟨char, terminal.wrap.pen⟩ : Cell) = ⟨char, {}⟩ := by
    rw [wrapped.pen_eq]
  unfold Terminal.print
  dsimp only
  rw [plain]
  exact ⟨written.withCursorColumn _, by rw [putCell_cursor]⟩

/-- A character that is printed is one cell more of the line that is written. -/
theorem print
    {before : List Row} {cells : List Cell}
    (columnsPositive : 0 < columns)
    (shows : terminal.Shows lines columns limit (before ++ Reflow.openRows columns cells))
    (column : terminal.cursor.x = Reflow.endColumn columns cells.length)
    (char : Char)
    (room :
      (before ++ Reflow.openRows columns (cells ++ [⟨char, {}⟩])).length ≤ limit + lines) :
    (terminal.print char).Shows lines columns limit
        (before ++ Reflow.openRows columns (cells ++ [⟨char, {}⟩])) ∧
      (terminal.print char).cursor.x = Reflow.endColumn columns (cells.length + 1) := by
  by_cases inside : Reflow.endColumn columns cells.length < columns
  · obtain ⟨initial, row, rowsEq, rowsAfter, columnAfter⟩ :=
      Reflow.openRows_append_of_lt columnsPositive inside ⟨char, {}⟩
    have stays : terminal.wrap = terminal := by
      unfold Terminal.wrap
      rw [if_pos (by rw [column, shows.columns_eq]; exact inside)]
    have wrapped : terminal.wrap.Shows lines columns limit (before ++ initial ++ [row]) := by
      rw [stays, List.append_assoc, ← rowsEq]
      exact shows
    have printed := print_of_wrap wrapped char
    rw [stays, column, List.append_assoc, ← rowsAfter, ← columnAfter] at printed
    exact printed
  · have full : Reflow.endColumn columns cells.length = columns :=
      Nat.le_antisymm (Reflow.endColumn_le columnsPositive _) (Nat.not_lt.mp inside)
    obtain ⟨rowsAfter, columnAfter⟩ :=
      Reflow.openRows_append_of_full columnsPositive full ⟨char, {}⟩
    have roomBefore : (before ++ Reflow.openRows columns cells).length < limit + lines := by
      rw [rowsAfter, ← List.append_assoc, List.length_append, List.length_singleton] at room
      exact room
    obtain ⟨wrapped, firstColumn⟩ := shows.wrap (column.trans full) roomBefore
    have printed := print_of_wrap wrapped char
    rw [firstColumn, List.append_assoc, ← rowsAfter, Nat.zero_add, ← columnAfter] at printed
    exact printed

theorem length_openRows_append_le (columns : Nat) (cells more : List Cell) :
    (Reflow.openRows columns cells).length ≤ (Reflow.openRows columns (cells ++ more)).length := by
  rw [Reflow.length_openRows, Reflow.length_openRows]
  apply Reflow.rowCount_mono
  simp

/-- Printed characters are cells more of the line that is written. -/
theorem printAll
    {before : List Row} {cells : List Cell}
    (columnsPositive : 0 < columns)
    (shows : terminal.Shows lines columns limit (before ++ Reflow.openRows columns cells))
    (column : terminal.cursor.x = Reflow.endColumn columns cells.length)
    (chars : List Char)
    (room :
      (before ++
        Reflow.openRows columns (cells ++ chars.map fun char => ⟨char, {}⟩)).length ≤
          limit + lines) :
    (terminal.printAll chars).Shows lines columns limit
        (before ++ Reflow.openRows columns (cells ++ chars.map fun char => ⟨char, {}⟩)) ∧
      (terminal.printAll chars).cursor.x =
        Reflow.endColumn columns (cells.length + chars.length) := by
  induction chars generalizing terminal cells with
  | nil =>
      simpa [Terminal.printAll] using And.intro shows column
  | cons char rest inductionHypothesis =>
      have regrouped :
          cells ++ (char :: rest).map (fun char => (⟨char, {}⟩ : Cell)) =
            cells ++ [⟨char, {}⟩] ++ rest.map fun char => ⟨char, {}⟩ := by
        simp
      rw [regrouped] at room ⊢
      have roomFirst :
          (before ++ Reflow.openRows columns (cells ++ [⟨char, {}⟩])).length ≤ limit + lines := by
        have fewer := length_openRows_append_le columns (cells ++ [⟨char, {}⟩])
          (rest.map fun char => ⟨char, {}⟩)
        rw [List.length_append] at room ⊢
        omega
      obtain ⟨printed, nextColumn⟩ := shows.print columnsPositive column char roomFirst
      have later := inductionHypothesis printed (by simpa using nextColumn) room
      simpa [Terminal.printAll, Nat.add_assoc, Nat.add_comm 1] using later

/-! ## The end of a line -/

/-- A line that ends before the cursor is complete. -/
theorem completeLine
    {before : List Row} {cells : List Cell} {stamp : Nat → Wrap}
    (columnsPositive : 0 < columns)
    (shows :
      terminal.Shows lines columns limit (before ++ Reflow.stampedRows columns cells stamp))
    (stamped : ∀ k, (stamp k).continues = (k != 0))
    (told :
      max (stamp 0).length
          ((Reflow.rowCount columns cells.length - 1) * columns + terminal.cursor.x) =
        cells.length) :
    terminal.completeLine.Shows lines columns limit (before ++ Reflow.slice columns cells) := by
  obtain rfl := shows.buffer_columns
  have someRows := Reflow.rowCount_pos terminal.buffer.columns cells.length
  have place := shows.screenBase_add_row
  rw [List.length_append, Reflow.length_stampedRows, Nat.add_sub_assoc someRows] at place
  refine shows.withBuffer (by simp) ?_
  rw [ScreenBuffer.completeLine, place,
    ScreenBuffer.Holds.stamp_eq shows.holds columnsPositive stamped
      (fun _ => Reflow.head?_replicate) told]
  simp [padded]

theorem carriageReturn
    {before : List Row} {cells : List Cell}
    (columnsPositive : 0 < columns)
    (shows : terminal.Shows lines columns limit (before ++ Reflow.openRows columns cells))
    (column : terminal.cursor.x = Reflow.endColumn columns cells.length) :
    terminal.carriageReturn.Shows lines columns limit (before ++ Reflow.slice columns cells) ∧
      terminal.carriageReturn.cursor.x = 0 := by
  have begun := Reflow.rowCount_sub_one_mul_le columnsPositive cells.length
  have completed : terminal.completeLine.Shows lines columns limit
      (before ++ Reflow.slice columns cells) := by
    apply shows.completeLine columnsPositive fun _ => rfl
    rw [column, Reflow.endColumn, Nat.add_sub_cancel' begun]
    exact Nat.zero_max _
  exact ⟨completed.withCursorColumn 0, rfl⟩

/-- A row that says nothing begins a logical line already. -/
theorem beginLine_eq
    (columnsPositive : 0 < columns)
    (shows : terminal.Shows lines columns limit (rows ++ [Row.filled columns {}])) :
    terminal.buffer.beginLine terminal.cursor.y = terminal.buffer := by
  obtain rfl := shows.buffer_columns
  have place := shows.screenBase_add_row
  rw [List.length_append, List.length_singleton, Nat.add_sub_cancel] at place
  have holds := shows.holds
  rw [padded, List.append_assoc, List.singleton_append] at holds
  have lastRow : terminal.buffer.composedRow rows.length =
      Row.filled terminal.buffer.columns {} :=
    holds.composedRow_eq (by simp)
  have unchanged :
      terminal.buffer.modifyComposed rows.length (fun row =>
        { row with
          wrap :=
            { row.wrap with
              continues := false
              length := if row.isEmpty then 0 else row.wrap.length } }) =
        terminal.buffer := by
    apply holds.modifyComposed_eq_self
    unfold Row.filled
    split <;> rfl
  have separate :
      ¬ ((Row.filled terminal.buffer.columns {}).wrap.continues = true ∧ rows.length > 0) := by
    simp [Row.filled]
  unfold ScreenBuffer.beginLine
  dsimp only
  rw [place, unchanged, lastRow, if_neg separate]
  exact holds.stamp_filled columnsPositive fun _ => Reflow.head?_replicate

theorem beginNextLine
    (columnsPositive : 0 < columns)
    (shows : terminal.Shows lines columns limit rows)
    (room : rows.length < limit + lines) :
    terminal.beginNextLine.Shows lines columns limit (rows ++ [Row.filled columns {}]) ∧
      terminal.beginNextLine.cursor.x = terminal.cursor.x := by
  obtain ⟨moved, changed, -⟩ := shows.index room
  have next : terminal.beginNextLine = terminal.index.1 := by
    unfold Terminal.beginNextLine
    dsimp only
    rw [if_pos changed, moved.beginLine_eq columnsPositive]
  rw [next]
  exact ⟨moved, index_cursor_x terminal⟩

/-- A line feed after a carriage return begins a line on the next row. -/
theorem lineFeed
    {before : List Row} {cells : List Cell}
    (columnsPositive : 0 < columns)
    (shows : terminal.Shows lines columns limit (before ++ Reflow.slice columns cells))
    (column : terminal.cursor.x = 0)
    (room : (before ++ Reflow.slice columns cells).length < limit + lines) :
    terminal.lineFeed.Shows lines columns limit
        (before ++ Reflow.slice columns cells ++ [Row.filled columns {}]) ∧
      terminal.lineFeed.cursor.x = 0 := by
  have begun := Reflow.rowCount_sub_one_mul_le columnsPositive cells.length
  have completed : terminal.completeLine.Shows lines columns limit
      (before ++ Reflow.slice columns cells) := by
    rw [Reflow.slice_eq_stampedRows] at shows
    apply shows.completeLine columnsPositive fun _ => rfl
    rw [column, Reflow.completeStamp]
    dsimp only
    omega
  have firstColumn : terminal.completeLine.cursorColumn = 0 := by
    have sameCursor : terminal.completeLine.cursor = terminal.cursor := rfl
    rw [cursorColumn, sameCursor, column]
    exact Nat.zero_min _
  have noNewLine : ¬ terminal.completeLine.modes.newLine = true := by
    rw [completed.modes_eq]
    decide
  unfold Terminal.lineFeed
  dsimp only
  rw [if_neg noNewLine, firstColumn]
  exact (completed.withCursorColumn 0).beginNextLine columnsPositive room

end Shows

end Terminal

end VideoTerminal
