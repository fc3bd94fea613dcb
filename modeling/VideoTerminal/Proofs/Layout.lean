import VideoTerminal.Proofs.Resizing

/-!
Text laid out in rows. The lines before the last one are complete and their
rows stamped; the last one is still written, and its rows say no more than that
they continue it. Reflow takes one layout to another.
-/

namespace VideoTerminal

namespace Reflow

variable {columns : Nat} {cells : List Cell} {stamp : Nat → Wrap}

/-! ## Stamped rows -/

/-- Row `k` of the rows cut from a line, with a stamp. -/
def pieceRow (columns : Nat) (cells : List Cell) (k : Nat) (wrap : Wrap) : Row :=
  { Row.fit columns { cells := (cells.drop (k * columns)).take columns } with wrap }

/-- The rows cut from a line, stamped one by one. -/
def stampedRows (columns : Nat) (cells : List Cell) (stamp : Nat → Wrap) : List Row :=
  (List.range (rowCount columns cells.length)).map fun k => pieceRow columns cells k (stamp k)

/-- The stamps of a complete line. -/
def completeStamp (columns length k : Nat) : Wrap :=
  ⟨rowCount columns length - 1 - k, length - k * columns, k != 0⟩

/-- The stamps of a line that is still written. -/
def openStamp (k : Nat) : Wrap :=
  { continues := k != 0 }

/-- The rows of a line that is still written. -/
def openRows (columns : Nat) (cells : List Cell) : List Row :=
  stampedRows columns cells openStamp

theorem slice_eq_stampedRows (columns : Nat) (cells : List Cell) :
    slice columns cells =
      stampedRows columns cells (completeStamp columns cells.length) := rfl

@[simp]
theorem length_stampedRows :
    (stampedRows columns cells stamp).length = rowCount columns cells.length := by
  simp [stampedRows]

@[simp]
theorem length_openRows :
    (openRows columns cells).length = rowCount columns cells.length :=
  length_stampedRows

theorem map_cells_stampedRows :
    (stampedRows columns cells stamp).map Row.cells =
      (slice columns cells).map Row.cells := by
  simp [slice_eq_stampedRows, stampedRows, pieceRow]

theorem joined_stampedRows :
    joined (stampedRows columns cells stamp) = joined (slice columns cells) := by
  simp only [joined, List.flatMap_def, map_cells_stampedRows]

/-- The first of the rows, and the ones that continue it. -/
theorem stampedRows_eq_cons (columns : Nat) (cells : List Cell) (stamp : Nat → Wrap) :
    stampedRows columns cells stamp =
      pieceRow columns cells 0 (stamp 0) ::
        (List.range (rowCount columns cells.length - 1)).map
          fun k => pieceRow columns cells (k + 1) (stamp (k + 1)) := by
  have someRows := rowCount_pos columns cells.length
  have split : rowCount columns cells.length = rowCount columns cells.length - 1 + 1 := by omega
  rw [stampedRows, split, List.range_succ_eq_map]
  simp

/-- The rows before the last one, and the last one. -/
theorem stampedRows_eq_append (columns : Nat) (cells : List Cell) (stamp : Nat → Wrap) :
    stampedRows columns cells stamp =
      ((List.range (rowCount columns cells.length - 1)).map
          fun k => pieceRow columns cells k (stamp k)) ++
        [pieceRow columns cells (rowCount columns cells.length - 1)
          (stamp (rowCount columns cells.length - 1))] := by
  have someRows := rowCount_pos columns cells.length
  have split : rowCount columns cells.length = rowCount columns cells.length - 1 + 1 := by omega
  conv_lhs => rw [stampedRows, split, List.range_succ, List.map_append]
  rfl

/-! ## Writing a cell -/

theorem openRows_nil (columns : Nat) :
    openRows columns [] = [Row.filled columns {}] := by
  have one : rowCount columns 0 = 1 := rowCount_eq_one (Nat.zero_le columns)
  simp [openRows, stampedRows, one, pieceRow, openStamp, Row.fit, Row.filled]

theorem slice_nil (columns : Nat) :
    slice columns [] = [Row.filled columns {}] := by
  have one : rowCount columns 0 = 1 := rowCount_eq_one (Nat.zero_le columns)
  simp [slice, one, Row.fit, Row.filled]

/-- A cell after the cells of a row that has room for it. -/
theorem put_pieceRow
    {k : Nat} {wrap : Wrap}
    (begun : k * columns ≤ cells.length)
    (room : cells.length < (k + 1) * columns)
    (cell : Cell) :
    (pieceRow columns cells k wrap).put (cells.length - k * columns) cell =
      pieceRow columns (cells ++ [cell]) k wrap := by
  rw [Nat.add_mul, Nat.one_mul] at room
  have piece :
      (cells.drop (k * columns)).take columns = cells.drop (k * columns) :=
    List.take_of_length_le (by rw [List.length_drop]; omega)
  have longer :
      ((cells ++ [cell]).drop (k * columns)).take columns =
        cells.drop (k * columns) ++ [cell] := by
    rw [List.drop_append_of_le_length begun]
    exact List.take_of_length_le (by simp; omega)
  have wholeLonger :
      (cells.drop (k * columns) ++ [cell]).take columns = cells.drop (k * columns) ++ [cell] :=
    List.take_of_length_le (by simp; omega)
  have fill :
      columns - (cells.drop (k * columns)).length =
        columns - (cells.drop (k * columns) ++ [cell]).length + 1 := by
    simp
    omega
  have place : cells.length - k * columns = (cells.drop (k * columns)).length := by simp
  simp only [pieceRow, Row.put, Row.fit, piece, longer, wholeLonger, fill, place]
  simp [List.replicate_succ]

/-- The rows that a longer line has too. -/
theorem pieceRow_append_of_le
    {k : Nat} {wrap : Wrap}
    (full : (k + 1) * columns ≤ cells.length)
    (more : List Cell) :
    pieceRow columns (cells ++ more) k wrap = pieceRow columns cells k wrap := by
  rw [Nat.add_mul, Nat.one_mul] at full
  have same :
      ((cells ++ more).drop (k * columns)).take columns =
        (cells.drop (k * columns)).take columns := by
    rw [List.drop_append_of_le_length (by omega), List.take_append_of_le_length]
    rw [List.length_drop]
    omega
  simp only [pieceRow, same]

theorem map_pieceRow_append
    {count : Nat}
    (full : count * columns ≤ cells.length)
    (more : List Cell) :
    ((List.range count).map fun k => pieceRow columns (cells ++ more) k (stamp k)) =
      (List.range count).map fun k => pieceRow columns cells k (stamp k) := by
  apply List.map_congr_left
  intro k member
  apply pieceRow_append_of_le
  exact Nat.le_trans (Nat.mul_le_mul_right _ (List.mem_range.mp member)) full

/-- The column after the cells of a line, on its last row. -/
def endColumn (columns length : Nat) : Nat :=
  length - (rowCount columns length - 1) * columns

theorem rowCount_sub_one_mul_le
    (columnsPositive : 0 < columns) (length : Nat) :
    (rowCount columns length - 1) * columns ≤ length :=
  mul_le_of_lt_rowCount columnsPositive (Nat.sub_lt (rowCount_pos _ _) Nat.one_pos)

theorem endColumn_le
    (columnsPositive : 0 < columns) (length : Nat) :
    endColumn columns length ≤ columns := by
  have room := le_rowCount_mul columnsPositive length
  have split := rowCount_mul columns length
  unfold endColumn
  omega

/-- The last row has room for one cell more. -/
theorem openRows_append_of_lt
    (columnsPositive : 0 < columns)
    (room : endColumn columns cells.length < columns)
    (cell : Cell) :
    ∃ before row,
      openRows columns cells = before ++ [row] ∧
        openRows columns (cells ++ [cell]) =
          before ++ [row.put (endColumn columns cells.length) cell] ∧
        endColumn columns (cells.length + 1) = endColumn columns cells.length + 1 := by
  have begun := rowCount_sub_one_mul_le columnsPositive cells.length
  have fits : cells.length < (rowCount columns cells.length - 1 + 1) * columns := by
    rw [Nat.add_mul, Nat.one_mul]
    unfold endColumn at room
    omega
  have sameCount : rowCount columns (cells.length + 1) = rowCount columns cells.length := by
    have someRows := rowCount_pos columns cells.length
    have lower : (rowCount columns cells.length - 1) * columns < cells.length + 1 := by omega
    rw [rowCount_eq_of_bounds lower fits]
    omega
  refine ⟨_, _, stampedRows_eq_append columns cells openStamp, ?_, ?_⟩
  · rw [openRows, stampedRows_eq_append, List.length_append, List.length_singleton, sameCount,
      map_pieceRow_append begun, endColumn, put_pieceRow begun fits]
  · unfold endColumn
    rw [sameCount]
    omega

/-- The last row is full; one cell more begins another. -/
theorem openRows_append_of_full
    (columnsPositive : 0 < columns)
    (full : endColumn columns cells.length = columns)
    (cell : Cell) :
    openRows columns (cells ++ [cell]) =
        openRows columns cells ++
          [Row.put { Row.filled columns {} with wrap := { continues := true } } 0 cell] ∧
      endColumn columns (cells.length + 1) = 1 := by
  have someRows := rowCount_pos columns cells.length
  have allFull : cells.length = rowCount columns cells.length * columns := by
    have split := rowCount_mul columns cells.length
    unfold endColumn at full
    omega
  have fits : cells.length < (rowCount columns cells.length + 1) * columns := by
    rw [Nat.add_mul, Nat.one_mul]
    omega
  have nextCount :
      rowCount columns (cells.length + 1) = rowCount columns cells.length + 1 := by
    have lower : rowCount columns cells.length * columns < cells.length + 1 := by omega
    exact rowCount_eq_of_bounds lower fits
  have begun : rowCount columns cells.length * columns ≤ cells.length := by omega
  have emptyRow :
      pieceRow columns cells (rowCount columns cells.length)
          (openStamp (rowCount columns cells.length)) =
        { Row.filled columns {} with wrap := { continues := true } } := by
    have continues : (rowCount columns cells.length != 0) = true := by
      simpa using Nat.ne_of_gt someRows
    have nothing : cells.drop (rowCount columns cells.length * columns) = [] :=
      List.drop_eq_nil_of_le (Nat.le_of_eq allFull)
    simp [pieceRow, openStamp, continues, nothing, Row.fit, Row.filled]
  have firstColumn :
      cells.length - rowCount columns cells.length * columns = 0 := by omega
  constructor
  · rw [openRows, stampedRows_eq_append, List.length_append, List.length_singleton, nextCount,
      Nat.add_sub_cancel, map_pieceRow_append begun, ← put_pieceRow begun fits, firstColumn,
      emptyRow]
    rfl
  · unfold endColumn
    rw [nextCount, Nat.add_sub_cancel]
    omega

/-! ## The lines of a layout -/

/-- The rows after the first continue it, as their stamps say. -/
theorem lines_stampedRows_append
    (stamped : ∀ k, (stamp k).continues = (k != 0))
    {rest : List Row}
    (ended : ∀ next ∈ rest.head?, next.wrap.continues = false) :
    lines (stampedRows columns cells stamp ++ rest) =
      stampedRows columns cells stamp :: lines rest := by
  rw [stampedRows_eq_cons]
  apply lines_append _ ended
  intro next member
  obtain ⟨k, -, rfl⟩ := List.mem_map.mp member
  simp [pieceRow, stamped]

theorem head?_stampedRows_append
    (stamped : ∀ k, (stamp k).continues = (k != 0))
    {rest : List Row} {next : Row}
    (found : next ∈ (stampedRows columns cells stamp ++ rest).head?) :
    next.wrap.continues = false := by
  rw [stampedRows_eq_cons] at found
  simp only [List.cons_append, List.head?_cons, Option.mem_def, Option.some.injEq] at found
  simp [← found, pieceRow, stamped]

theorem head?_replicate
    {columns count : Nat} {next : Row}
    (found : next ∈ (List.replicate count (Row.filled columns {})).head?) :
    next.wrap.continues = false := by
  rw [List.eq_of_mem_replicate (List.mem_of_mem_head? found)]
  rfl

/-- Rows that say nothing are lines of their own. -/
theorem lines_replicate (columns count : Nat) :
    lines (List.replicate count (Row.filled columns {})) =
      List.replicate count [Row.filled columns {}] := by
  induction count with
  | zero => rfl
  | succ count inductionHypothesis =>
      have alone : ∀ next ∈ ([] : List Row), next.wrap.continues = true := by simp
      rw [List.replicate_succ, List.replicate_succ, ← inductionHypothesis]
      exact lines_append alone fun _ => head?_replicate

/-- Complete lines, and one that is still written. -/
def layout (columns : Nat) (complete : List (List Cell)) (current : List Cell) : List Row :=
  complete.flatMap (slice columns) ++ openRows columns current

theorem layout_cons
    (columns : Nat) (line : List Cell) (rest : List (List Cell)) (current : List Cell) :
    layout columns (line :: rest) current = slice columns line ++ layout columns rest current := by
  simp [layout]

theorem length_layout_pos
    (columns : Nat) (complete : List (List Cell)) (current : List Cell) :
    0 < (layout columns complete current).length := by
  have someRows := rowCount_pos columns current.length
  rw [layout, List.length_append, length_openRows]
  omega

theorem lines_layout
    (columns : Nat) (complete : List (List Cell)) (current : List Cell) (count : Nat) :
    lines (layout columns complete current ++ List.replicate count (Row.filled columns {})) =
      complete.map (slice columns) ++ openRows columns current ::
        List.replicate count [Row.filled columns {}] := by
  induction complete with
  | nil =>
      rw [layout, List.flatMap_nil, List.nil_append, openRows,
        lines_stampedRows_append (fun _ => rfl) fun _ => head?_replicate, lines_replicate]
      rfl
  | cons line rest inductionHypothesis =>
      have later :
          layout columns (line :: rest) current ++
              List.replicate count (Row.filled columns {}) =
            stampedRows columns line (completeStamp columns line.length) ++
              (layout columns rest current ++
                List.replicate count (Row.filled columns {})) := by
        simp [layout, slice_eq_stampedRows]
      rw [later, lines_stampedRows_append fun _ => rfl, inductionHypothesis]
      · rfl
      · intro next found
        cases rest with
        | nil =>
            rw [layout, List.flatMap_nil, List.nil_append] at found
            exact head?_stampedRows_append (fun _ => rfl) found
        | cons second others =>
            rw [layout, List.flatMap_cons, List.append_assoc, List.append_assoc,
              slice_eq_stampedRows] at found
            exact head?_stampedRows_append (fun _ => rfl) found

/-! ## Reflow of a layout -/

/-- The blank cells that fill up the last row are not content. -/
theorem trimEnd_joined_slice (columnsPositive : 0 < columns) (cells : List Cell) :
    Text.trimEnd Cell.isBlank (joined (slice columns cells)) =
      Text.trimEnd Cell.isBlank cells := by
  rw [joined_slice columnsPositive]
  apply Text.trimEnd_append_of_all
  intro cell member
  rw [List.eq_of_mem_replicate member]
  rfl

/-- The rows of a line hold all of its cells, when its stamp or the cursor says
how many there are. -/
theorem take_lineLength_stampedRows
    (columnsPositive : 0 < columns)
    {offset : Option Nat}
    (told : max (stamp 0).length (offset.getD 0) = cells.length) :
    (joined (stampedRows columns cells stamp)).take
        (lineLength (stampedRows columns cells stamp) offset) =
      cells := by
  have stated :
      ((stampedRows columns cells stamp).head?.map fun row => row.wrap.length).getD 0 =
        (stamp 0).length := by
    rw [stampedRows_eq_cons]
    rfl
  have content :
      (Text.trimEnd Cell.isBlank (joined (slice columns cells))).length ≤ cells.length := by
    rw [trimEnd_joined_slice columnsPositive]
    exact Text.length_trimEnd_le
  have cellsFit :
      cells.length ≤ (joined (slice columns cells)).length := by
    rw [joined_slice columnsPositive, List.length_append]
    omega
  have lengthEq :
      lineLength (stampedRows columns cells stamp) offset = cells.length := by
    rw [lineLength, stated, joined_stampedRows]
    omega
  rw [lengthEq, joined_stampedRows, joined_slice columnsPositive, List.take_left']
  rfl

theorem rewrapLine_stampedRows
    (columnsPositive : 0 < columns)
    {newColumns start : Nat} {cursor : Option (Nat × Nat)}
    (told :
      max (stamp 0).length
          ((cursorOffset? columns start (stampedRows columns cells stamp) cursor).getD 0) =
        cells.length) :
    rewrapLine columns newColumns start cursor (stampedRows columns cells stamp) =
      slice newColumns cells := by
  rw [rewrapLine, take_lineLength_stampedRows columnsPositive told]

/-- Blank rows below the cursor stay blank rows. -/
theorem rewrapFrom_replicate
    (columnsPositive : 0 < columns)
    {newColumns start first x y : Nat}
    (above : y < start)
    (count : Nat) :
    (rewrapFrom columns newColumns (some (x, y)) start first
        (List.replicate count [Row.filled columns {}])).1 =
      List.replicate count (Row.filled newColumns {}) := by
  induction count generalizing start first with
  | zero => rfl
  | succ count inductionHypothesis =>
      have elsewhere :
          cursorOffset? columns start (openRows columns []) (some (x, y)) = none :=
        cursorOffset?_of_not_mem (by omega)
      have cut :
          rewrapLine columns newColumns start (some (x, y)) (openRows columns []) =
            [Row.filled newColumns {}] := by
        rw [openRows, rewrapLine_stampedRows columnsPositive, slice_nil]
        rw [← openRows, elsewhere]
        rfl
      rw [openRows_nil] at cut
      rw [List.replicate_succ, rewrapFrom_cons, cut, inductionHypothesis (by simp; omega)]
      rfl

/-- The end of a line is found at the end of the rows cut from it. -/
theorem place_end
    (columnsPositive : 0 < columns) (length : Nat) :
    place columns (rowCount columns length) length =
      (endColumn columns length, rowCount columns length - 1) := by
  have room := le_rowCount_mul columnsPositive length
  have begun := rowCount_sub_one_mul_le columnsPositive length
  have split := rowCount_mul columns length
  unfold place endColumn
  by_cases full : length > 0 ∧ length = rowCount columns length * columns
  · rw [if_pos full]
    congr 1
    omega
  · rw [if_neg full]
    have quotient : length / columns = rowCount columns length - 1 := by
      have notFull : length ≠ rowCount columns length * columns := by
        rcases Nat.eq_zero_or_pos length with rfl | positive
        · have := Nat.mul_pos (rowCount_pos columns 0) columnsPositive
          omega
        · exact fun same => full ⟨positive, same⟩
      rw [Nat.div_eq_iff columnsPositive]
      omega
    have remainder := Nat.div_add_mod length columns
    rw [quotient, Nat.mul_comm] at remainder
    rw [quotient]
    congr 1
    omega

/-- A line that is still written, with the cursor at its end, is cut anew into
the same line, and the cursor is at its end again. -/
theorem rewrapFrom_openRows
    (columnsPositive : 0 < columns)
    {newColumns : Nat}
    (newColumnsPositive : 0 < newColumns)
    (current : List Cell) (count start first : Nat) :
    rewrapFrom columns newColumns
        (some (endColumn columns current.length, start + (openRows columns current).length - 1))
        start first
        (openRows columns current :: List.replicate count [Row.filled columns {}]) =
      (slice newColumns current ++ List.replicate count (Row.filled newColumns {}),
        some
          (endColumn newColumns current.length,
            first + (openRows newColumns current).length - 1)) := by
  have someRows := rowCount_pos columns current.length
  have newSome := rowCount_pos newColumns current.length
  have begun := rowCount_sub_one_mul_le columnsPositive current.length
  have lastRow :
      start + rowCount columns current.length - 1 - start =
        rowCount columns current.length - 1 := by omega
  have here :
      cursorOffset? columns start (openRows columns current)
          (some
            (endColumn columns current.length,
              start + (openRows columns current).length - 1)) =
        some current.length := by
    rw [cursorOffset?_of_mem (by simp; omega) (by simp; omega), length_openRows, endColumn,
      lastRow, Nat.add_sub_cancel' begun]
  have cut :
      rewrapLine columns newColumns start
          (some
            (endColumn columns current.length,
              start + (openRows columns current).length - 1))
          (openRows columns current) =
        slice newColumns current := by
    apply rewrapLine_stampedRows columnsPositive
    rw [← openRows, here]
    exact Nat.zero_max _
  apply Prod.ext
  · rw [rewrapFrom_cons, cut, rewrapFrom_replicate columnsPositive (by simp; omega)]
  · rw [rewrapFrom_cursor_of_some here, cut, length_slice, place_end newColumnsPositive]
    dsimp only
    rw [length_openRows, Nat.add_sub_assoc newSome]

/-- Complete lines, a line that is still written with the cursor at its end,
and blank rows are cut anew into the same. -/
theorem rewrapFrom_layout
    (columnsPositive : 0 < columns)
    {newColumns : Nat}
    (newColumnsPositive : 0 < newColumns)
    (complete : List (List Cell)) (current : List Cell) (count : Nat)
    (start first : Nat) :
    rewrapFrom columns newColumns
        (some
          (endColumn columns current.length,
            start + (layout columns complete current).length - 1))
        start first
        (complete.map (slice columns) ++ openRows columns current ::
          List.replicate count [Row.filled columns {}]) =
      (complete.flatMap (slice newColumns) ++ slice newColumns current ++
          List.replicate count (Row.filled newColumns {}),
        some
          (endColumn newColumns current.length,
            first + (layout newColumns complete current).length - 1)) := by
  induction complete generalizing start first with
  | nil => exact rewrapFrom_openRows columnsPositive newColumnsPositive current count start first
  | cons line rest inductionHypothesis =>
      -- the cursor is below this line, so that its stamp alone says how long it is
      have someRows := length_layout_pos columns rest current
      have elsewhere :
          cursorOffset? columns start (slice columns line)
              (some
                (endColumn columns current.length,
                  start + (layout columns (line :: rest) current).length - 1)) =
            none := by
        apply cursorOffset?_of_not_mem
        rw [layout_cons, List.length_append]
        omega
      have cut :
          rewrapLine columns newColumns start
              (some
                (endColumn columns current.length,
                  start + (layout columns (line :: rest) current).length - 1))
              (slice columns line) =
            slice newColumns line := by
        rw [slice_eq_stampedRows columns line] at elsewhere ⊢
        apply rewrapLine_stampedRows columnsPositive
        rw [elsewhere]
        simp [completeStamp]
      have samePlace :
          start + (layout columns (line :: rest) current).length - 1 =
            start + (slice columns line).length + (layout columns rest current).length - 1 := by
        rw [layout_cons, List.length_append, Nat.add_assoc]
      have samePlaceAnew :
          first + (layout newColumns (line :: rest) current).length - 1 =
            first + (slice newColumns line).length +
              (layout newColumns rest current).length - 1 := by
        rw [layout_cons, List.length_append, Nat.add_assoc]
      apply Prod.ext
      · rw [List.map_cons, List.cons_append, rewrapFrom_cons, cut, samePlace,
          inductionHypothesis]
        simp
      · rw [List.map_cons, List.cons_append, rewrapFrom_cursor_of_none elsewhere, cut, samePlace,
          inductionHypothesis, samePlaceAnew]

end Reflow

end VideoTerminal
