import VideoTerminal.Proofs.LogicalLines

/-!
Reflow line by line. The rows cut from a logical line are a logical line again
and tell the places they have in it, whatever was stamped on the old rows; the
cursor stays in its line, as far from its beginning as before.
-/

namespace VideoTerminal.Reflow

variable {oldColumns columns : Nat}

/-! ## The lines cut anew -/

/-- The rows cut from each of some lines, which begin at row `start`. -/
def rewrapLines (oldColumns columns : Nat) (cursor : Option (Nat × Nat)) (start : Nat) :
    List (List Row) → List (List Row)
  | [] => []
  | line :: others =>
      rewrapLine oldColumns columns start cursor line ::
        rewrapLines oldColumns columns cursor (start + line.length) others

/-- No line is joined with another one, and none is broken. -/
theorem lines_rewrapFrom
    (oldColumns columns start first : Nat) (cursor : Option (Nat × Nat))
    (groups : List (List Row)) :
    lines (rewrapFrom oldColumns columns cursor start first groups).1 =
      rewrapLines oldColumns columns cursor start groups := by
  induction groups generalizing start first with
  | nil => rfl
  | cons line others inductionHypothesis =>
      rw [rewrapFrom_cons, rewrapLines, ← inductionHypothesis]
      exact lines_stampedRows_append (fun _ => rfl) fun _ => head?_rewrapFrom

theorem lines_rewrap
    (rows : List Row) (oldColumns columns : Nat) (cursor : Option (Nat × Nat)) :
    lines (rewrap rows oldColumns columns cursor).1 =
      rewrapLines oldColumns columns cursor 0 (lines rows) :=
  lines_rewrapFrom oldColumns columns 0 0 cursor (lines rows)

theorem exists_slice_of_mem_rewrapLines
    {cursor : Option (Nat × Nat)} {start : Nat} {groups : List (List Row)} {line : List Row}
    (member : line ∈ rewrapLines oldColumns columns cursor start groups) :
    ∃ cells, line = slice columns cells := by
  induction groups generalizing start with
  | nil => cases member
  | cons first others inductionHypothesis =>
      rcases List.mem_cons.mp member with rfl | later
      · exact ⟨_, rfl⟩
      · exact inductionHypothesis later

/-! ## Stamps -/

/-- The rows of a line say where they are in it: `following` rows come after
the first one, and the `length` cells of the line end in the last row. -/
def Stamped (columns : Nat) (rows : List Row) : Prop :=
  ∃ following length,
    rows.length = following + 1 ∧
      (∀ (k : Nat) (row : Row), rows[k]? = some row →
        row.wrap = ⟨following - k, length - k * columns, decide (0 < k)⟩) ∧
      (0 < following → following * columns < length) ∧
      length ≤ (following + 1) * columns

theorem wrap_of_getElem?_slice
    {cells : List Cell} {k : Nat} {row : Row}
    (found : (slice columns cells)[k]? = some row) :
    row.wrap =
      ⟨rowCount columns cells.length - 1 - k, cells.length - k * columns, decide (0 < k)⟩ := by
  rw [slice, List.getElem?_map] at found
  obtain ⟨place, here, rfl⟩ := Option.map_eq_some_iff.mp found
  obtain ⟨inside, rfl⟩ := List.getElem?_eq_some_iff.mp here
  rw [List.getElem_range]
  cases k <;> rfl

theorem stamped_slice (columnsPositive : 0 < columns) (cells : List Cell) :
    Stamped columns (slice columns cells) := by
  have someRows := rowCount_pos columns cells.length
  have count : rowCount columns cells.length - 1 + 1 = rowCount columns cells.length :=
    Nat.sub_add_cancel someRows
  refine ⟨rowCount columns cells.length - 1, cells.length, ?_, ?_, ?_, ?_⟩
  · rw [length_slice, count]
  · exact fun k row found => wrap_of_getElem?_slice found
  · exact fun more => mul_lt_of_lt_rowCount columnsPositive more (by omega)
  · rw [count]
    exact le_rowCount_mul columnsPositive cells.length

/-! ## The cursor in its line -/

/-- The cursor is on a row of line `index`, and `offset` cells after the
beginning of the line. -/
def Located (columns : Nat) (groups : List (List Row)) (cursor : Nat × Nat)
    (index offset : Nat) : Prop :=
  ∃ before line after,
    groups = before ++ line :: after ∧ before.length = index ∧
      before.flatten.length ≤ cursor.2 ∧
      cursor.2 < before.flatten.length + line.length ∧
      offset = (cursor.2 - before.flatten.length) * columns + cursor.1

/-- The cursor is after the last cell of a full row, the last one of its line,
with which the cells before `offset` end. -/
def AfterFullRow (columns : Nat) (groups : List (List Row)) (cursor : Nat × Nat)
    (index offset : Nat) : Prop :=
  ∃ line row,
    groups[index]? = some line ∧ offset = line.length * columns ∧
      groups.flatten[cursor.2]? = some row ∧ row.wrap.following = 0 ∧
      row.wrap.length = columns

theorem located_head
    {line : List Row} {x y : Nat}
    (here : y < line.length)
    (others : List (List Row)) :
    Located columns (line :: others) (x, y) 0 (y * columns + x) :=
  ⟨[], line, others, rfl, rfl, Nat.zero_le y, by simpa using here, by simp⟩

theorem Located.cons
    {groups : List (List Row)} {x y index offset : Nat}
    (located : Located columns groups (x, y) index offset)
    (line : List Row) :
    Located columns (line :: groups) (x, line.length + y) (index + 1) offset := by
  obtain ⟨before, here, after, rfl, rfl, lower, upper, offsetEq⟩ := located
  dsimp only at lower upper offsetEq
  refine ⟨line :: before, here, after, rfl, rfl, ?_, ?_, ?_⟩
  all_goals rw [List.flatten_cons, List.length_append]
  · exact Nat.add_le_add_left lower _
  · omega
  · rw [offsetEq, Nat.add_sub_add_left]

theorem AfterFullRow.cons
    {groups : List (List Row)} {x y index offset : Nat}
    (full : AfterFullRow columns groups (x, y) index offset)
    (line : List Row) :
    AfterFullRow columns (line :: groups) (x, line.length + y) (index + 1) offset := by
  obtain ⟨here, row, found, offsetEq, rowFound, last, width⟩ := full
  refine ⟨here, row, found, offsetEq, ?_, last, width⟩
  rw [List.flatten_cons, List.getElem?_append_right (Nat.le_add_right _ _),
    Nat.add_sub_cancel_left]
  exact rowFound

/-- A place in a line of some rows is as far from the beginning of the line as
the offset says, and in the column after the last one just at the very end. -/
theorem place_spec
    {length offset : Nat}
    (columnsPositive : 0 < columns)
    (inside : offset ≤ length) :
    let place := place columns (rowCount columns length) offset
    place.1 ≤ columns ∧ place.2 < rowCount columns length ∧
      place.2 * columns + place.1 = offset ∧
      (place.1 = columns →
        offset = rowCount columns length * columns ∧
          place.2 = rowCount columns length - 1) := by
  intro found
  obtain ⟨xBound, yBound⟩ := place_bounds columnsPositive inside
  refine ⟨xBound, yBound, ?_, ?_⟩
  all_goals
    simp only [found, place]
    split
  · next full =>
      rw [full.2, rowCount_mul]
  · rw [Nat.mul_comm]
    exact Nat.div_add_mod offset columns
  · next full => exact fun _ => ⟨full.2, rfl⟩
  · intro same
    exact absurd same (Nat.ne_of_lt (Nat.mod_lt offset columnsPositive))

/-- The rows cut from the line of the cursor have it at the same offset. -/
theorem located_rewrapLine
    {start offset : Nat} {cursor : Option (Nat × Nat)} {line : List Row}
    (columnsPositive : 0 < columns)
    (here : cursorOffset? oldColumns start line cursor = some offset)
    (inside : offset ≤ (joined line).length)
    (others : List (List Row)) :
    let rows := rewrapLine oldColumns columns start cursor line
    let found := place columns rows.length offset
    found.1 ≤ columns ∧ Located columns (rows :: others) found 0 offset ∧
      (found.1 = columns → AfterFullRow columns (rows :: others) found 0 offset) := by
  intro rows found
  let cells := (joined line).take (lineLength line (some offset))
  have rowsEq : rows = slice columns cells := by
    simp only [rows, rewrapLine, here, cells]
  have reached : offset ≤ cells.length := by
    rw [List.length_take, Nat.min_eq_left (lineLength_le _ _)]
    exact le_lineLength inside
  have count : rows.length = rowCount columns cells.length := by
    rw [rowsEq, length_slice]
  have foundEq : found = place columns (rowCount columns cells.length) offset := by
    rw [← count]
  obtain ⟨xBound, yBound, offsetEq, atEnd⟩ := place_spec columnsPositive reached
  rw [← foundEq] at xBound yBound offsetEq atEnd
  rw [← count] at yBound atEnd
  refine ⟨xBound, ?_, ?_⟩
  · have located : Located columns (rows :: others) found 0 (found.2 * columns + found.1) :=
      located_head yBound others
    rwa [offsetEq] at located
  · intro last
    obtain ⟨full, lastRow⟩ := atEnd last
    have room : cells.length ≤ rows.length * columns := by
      rw [count]
      exact le_rowCount_mul columnsPositive cells.length
    have rowFound : rows[found.2]? = some rows[found.2] := List.getElem?_eq_getElem yBound
    have wrapEq :
        rows[found.2].wrap =
          ⟨rowCount columns cells.length - 1 - found.2, cells.length - found.2 * columns,
            decide (0 < found.2)⟩ :=
      wrap_of_getElem?_slice (by rw [← rowsEq]; exact rowFound)
    refine ⟨rows, rows[found.2], rfl, full, ?_, ?_, ?_⟩
    · rw [List.flatten_cons, List.getElem?_append_left yBound]
      exact rowFound
    · rw [wrapEq, ← count]
      exact Nat.sub_eq_zero_of_le (by omega)
    · rw [wrapEq, lastRow]
      have split := rowCount_mul columns cells.length
      rw [← count] at split
      dsimp only
      omega

/-- The cursor stays in its line, at the same offset. -/
theorem located_rewrapFrom
    {x y : Nat} {groups : List (List Row)}
    (columnsPositive : 0 < columns)
    (width : ∀ row ∈ groups.flatten, row.cells.length = oldColumns)
    (xInside : x ≤ oldColumns)
    (yInside : y < groups.flatten.length)
    (start first : Nat) :
    ∃ newX newY index offset,
      (rewrapFrom oldColumns columns (some (x, start + y)) start first groups).2 =
          some (newX, first + newY) ∧
        Located oldColumns groups (x, y) index offset ∧
        newX ≤ columns ∧
        Located columns (rewrapLines oldColumns columns (some (x, start + y)) start groups)
          (newX, newY) index offset ∧
        (newX = columns →
          AfterFullRow columns
            (rewrapLines oldColumns columns (some (x, start + y)) start groups)
            (newX, newY) index offset) := by
  induction groups generalizing start first y with
  | nil => exact absurd yInside (Nat.not_lt_zero y)
  | cons line others inductionHypothesis =>
      rw [List.flatten_cons, List.length_append] at yInside
      have lineWidth : ∀ row ∈ line, row.cells.length = oldColumns := fun row member =>
        width row (by simp [member])
      have othersWidth : ∀ row ∈ others.flatten, row.cells.length = oldColumns :=
        fun row member => width row (by
          rw [List.flatten_cons]
          exact List.mem_append_right _ member)
      by_cases here : y < line.length
      · have lower : start ≤ start + y := Nat.le_add_right start y
        have upper : start + y < start + line.length := Nat.add_lt_add_left here start
        have offsetEq :
            cursorOffset? oldColumns start line (some (x, start + y)) =
              some (y * oldColumns + x) := by
          rw [cursorOffset?_of_mem lower upper, Nat.add_sub_cancel_left]
        have inside : y * oldColumns + x ≤ (joined line).length := by
          have bound := offset_le_length_joined lineWidth xInside lower upper
          rwa [Nat.add_sub_cancel_left] at bound
        obtain ⟨xBound, located, full⟩ :=
          located_rewrapLine columnsPositive offsetEq inside
            (rewrapLines oldColumns columns (some (x, start + y)) (start + line.length) others)
        exact ⟨_, _, 0, _, rewrapFrom_cursor_of_some offsetEq first others,
          located_head here others, xBound, located, full⟩
      · -- the cursor is in a later line
        obtain ⟨below, rfl⟩ := Nat.exists_eq_add_of_le (Nat.le_of_not_lt here)
        have elsewhere :
            cursorOffset? oldColumns start line (some (x, start + (line.length + below))) =
              none :=
          cursorOffset?_of_not_mem (by omega)
        have belowInside : below < others.flatten.length := by omega
        obtain ⟨newX, newY, index, offset, found, located, xBound, newLocated, full⟩ :=
          inductionHypothesis othersWidth belowInside (start + line.length)
            (first +
              (rewrapLine oldColumns columns start (some (x, start + (line.length + below)))
                line).length)
        rw [Nat.add_assoc] at found newLocated full
        refine ⟨newX, _, index + 1, offset, ?_, located.cons line, xBound,
          newLocated.cons _, fun last => (full last).cons _⟩
        rw [rewrapFrom_cursor_of_none elsewhere, found, Nat.add_assoc]

/-- Reflow keeps the logical lines, with their cells but for blank ones at the
end, whatever is stamped on the rows; the new rows have the new width and are
stamped anew; and the cursor, if there is one, is as far from the beginning of
its line as it was, after the last column only where the line fills its last
row. -/
theorem rewrap_preserves_lines_and_cursor
    {rows : List Row} {cursor : Option (Nat × Nat)}
    (columnsPositive : 0 < columns)
    (width : ∀ row ∈ rows, row.cells.length = oldColumns)
    (inside : ∀ place ∈ cursor, place.1 ≤ oldColumns ∧ place.2 < rows.length) :
    let result := rewrap rows oldColumns columns cursor
    (lines result.1).map content = (lines rows).map content ∧
      (∀ row ∈ result.1, row.cells.length = columns) ∧
      (∀ line ∈ lines result.1, Stamped columns line) ∧
      (cursor = none → result.2 = none) ∧
      ∀ place ∈ cursor, ∃ found index offset,
        result.2 = some found ∧
          Located oldColumns (lines rows) place index offset ∧
          Located columns (lines result.1) found index offset ∧
          found.1 ≤ columns ∧
          (found.1 = columns → AfterFullRow columns (lines result.1) found index offset) := by
  intro result
  refine ⟨?_, fun _ => rewrap_width, ?_, ?_, ?_⟩
  · exact map_content_lines_rewrapFrom columnsPositive oldColumns 0 0 cursor (lines rows)
  · intro line member
    rw [lines_rewrap] at member
    obtain ⟨cells, rfl⟩ := exists_slice_of_mem_rewrapLines member
    exact stamped_slice columnsPositive cells
  · rintro rfl
    exact rewrap_without_cursor rows oldColumns columns
  · rintro ⟨x, y⟩ given
    obtain ⟨xInside, yInside⟩ := inside _ given
    obtain rfl : cursor = some (x, y) := given
    have flattened := flatten_lines rows
    obtain ⟨newX, newY, index, offset, found, located, xBound, newLocated, full⟩ :=
      located_rewrapFrom columnsPositive (by rwa [flattened]) xInside (by rwa [flattened]) 0 0
    rw [Nat.zero_add, Nat.zero_add] at found
    rw [Nat.zero_add, ← lines_rewrap] at newLocated full
    exact ⟨(newX, newY), index, offset, found, located, newLocated, xBound, full⟩

/-- Rows with stamps that say nothing true, the first of them that it continues
a line; the cursor is after the last cell of the last one. -/
theorem rewrap_preserves_lines_and_cursor_stale :
    let cells := fun text : String => text.toList.map fun char => ({ char } : Cell)
    let rows : List Row :=
      [⟨cells "abc", ⟨7, 99, true⟩⟩, ⟨cells "de ", ⟨0, 0, true⟩⟩, ⟨cells "fgh", ⟨3, 1, false⟩⟩]
    let result := rewrap rows 3 1 (some (3, 2))
    (∀ row ∈ rows, row.cells.length = 3) ∧
      (lines result.1).map content = (lines rows).map content ∧
      (∀ row ∈ result.1, row.cells.length = 1) ∧
      (∀ line ∈ lines result.1, Stamped 1 line) ∧
      result.2 = some (1, 8) ∧
      ∃ index offset,
        Located 3 (lines rows) (3, 2) index offset ∧
          Located 1 (lines result.1) (1, 8) index offset ∧
          AfterFullRow 1 (lines result.1) (1, 8) index offset := by
  intro cells rows result
  have width : ∀ row ∈ rows, row.cells.length = 3 := by decide
  have inside : ∀ place ∈ some (3, 2), place.1 ≤ 3 ∧ place.2 < rows.length := by decide
  obtain ⟨sameLines, newWidth, stamped, -, cursor⟩ :=
    rewrap_preserves_lines_and_cursor Nat.one_pos width inside
  obtain ⟨found, index, offset, foundEq, located, newLocated, -, full⟩ := cursor (3, 2) rfl
  have moved : result.2 = some (1, 8) := by decide
  obtain rfl : found = (1, 8) := Option.some.inj (foundEq.symm.trans moved)
  exact ⟨width, sameLines, newWidth, stamped, moved, index, offset, located, newLocated, full rfl⟩

end VideoTerminal.Reflow
