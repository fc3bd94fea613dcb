import VideoTerminal.Proofs.History
import VideoTerminal.Proofs.Steps

/-!
The cells of the screen after an edit and after a scroll: each was elsewhere on
the screen before, or was put there.
-/

namespace VideoTerminal

/-! ## Edits of a row -/

namespace Row

variable {row : Row} {column count start stop x : Nat}

theorem getElem?_fillSpan
    (ordered : start ≤ stop)
    (stopInside : stop ≤ row.cells.length)
    (fill : Cell) :
    (row.fillSpan start stop fill).cells[x]? =
      if start ≤ x ∧ x < stop then some fill else row.cells[x]? := by
  rw [fillSpan]
  grind

theorem getElem?_insert
    (columnInside : column < row.cells.length)
    (inside : x < row.cells.length)
    (cell : Cell) :
    (row.insert column cell).cells[x]? =
      if x < column then row.cells[x]?
      else if x = column then some cell
      else row.cells[x - 1]? := by
  rw [insert]
  grind

theorem getElem?_openGap
    (fits : column + count ≤ row.cells.length)
    (inside : x < row.cells.length)
    (fill : Cell) :
    (row.openGap column count fill).cells[x]? =
      if x < column then row.cells[x]?
      else if x < column + count then some fill
      else row.cells[x - count]? := by
  rw [openGap]
  grind

theorem getElem?_closeGap
    (fits : column + count ≤ row.cells.length)
    (inside : x < row.cells.length)
    (fill : Cell) :
    (row.closeGap column count fill).cells[x]? =
      if x < column then row.cells[x]?
      else if x + count < row.cells.length then row.cells[x + count]?
      else some fill := by
  rw [closeGap]
  grind

end Row

namespace RowEdit

variable {edit : RowEdit} {row : Row} {x : Nat}

/-- What an edit of a row of `columns` cells leaves in column `x`. -/
def cellAt (fill : Cell) (columns : Nat) (old : Nat → Cell) (x : Nat) : RowEdit → Cell
  | clear => fill
  | erase start stop => if start ≤ x ∧ x < stop then fill else old x
  | put column cell => if x = column then cell else old x
  | insert column cell =>
      if x < column then old x else if x = column then cell else old (x - 1)
  | openGap column count =>
      if x < column then old x else if x < column + count then fill else old (x - count)
  | closeGap column count =>
      if x < column then old x else if x + count < columns then old (x + count) else fill

theorem length_change (fits : edit.Fits row.cells.length) (fill : Cell) :
    (edit.change fill row).cells.length = row.cells.length := by
  cases edit with
  | clear => exact row.length_clear fill
  | erase start stop =>
      rw [change]
      split
      · exact row.length_clear fill
      · exact row.length_fillSpan fits.1 fits.2 fill
  | put column cell => exact row.length_put column cell
  | insert column cell => exact row.length_insert column cell
  | openGap column count => exact row.length_openGap column count fill
  | closeGap column count => exact row.length_closeGap fits fill

theorem getD_clear (inside : x < row.cells.length) (fill : Cell) :
    (row.clear fill).cells[x]?.getD {} = fill := by
  simp [Row.clear, Row.filled, inside]

theorem getD_change
    (fits : edit.Fits row.cells.length)
    (inside : x < row.cells.length)
    (fill : Cell) :
    (edit.change fill row).cells[x]?.getD {} =
      edit.cellAt fill row.cells.length (fun column => row.cells[column]?.getD {}) x := by
  cases edit with
  | clear => exact getD_clear inside fill
  | erase start stop =>
      rw [change, cellAt]
      by_cases whole : start = 0 ∧ stop = row.cells.length
      · rw [if_pos whole, if_pos (by omega)]
        exact getD_clear inside fill
      · rw [if_neg whole, Row.getElem?_fillSpan fits.1 fits.2]
        split <;> rfl
  | put column cell =>
      rw [change, cellAt]
      by_cases here : x = column
      · subst here
        simp [Row.put, inside]
      · rw [if_neg here, Row.getElem?_put_of_ne here]
  | insert column cell =>
      rw [change, cellAt, Row.getElem?_insert fits inside]
      split
      · rfl
      · split <;> rfl
  | openGap column count =>
      rw [change, cellAt, Row.getElem?_openGap fits inside]
      split
      · rfl
      · split <;> rfl
  | closeGap column count =>
      rw [change, cellAt, Row.getElem?_closeGap fits inside]
      split
      · rfl
      · split <;> rfl

end RowEdit

theorem RowLists.getElem?_shifted
    {rows : List Row} {columns index : Nat} {amount : Int}
    (atMost : amount.natAbs ≤ rows.length)
    (inside : index < rows.length)
    (fill : Cell) :
    (shifted columns amount fill rows)[index]? =
      if (0 : Int) ≤ index + amount ∧ index + amount < rows.length then
        rows[(index + amount).toNat]?
      else some (Row.filled columns fill) := by
  rw [shifted, Nat.min_eq_left atMost]
  by_cases up : amount > 0
  · obtain ⟨count, rfl⟩ := Int.eq_ofNat_of_zero_le (Int.le_of_lt up)
    rw [if_pos up]
    grind
  · obtain ⟨count, rfl⟩ : ∃ count : Nat, amount = -(count : Int) :=
      ⟨amount.natAbs, by omega⟩
    rw [if_neg up]
    grind

theorem RowLists.length_foldl_modify
    (change : Row → Row) (first count : Nat) (rows : List Row) :
    ((List.range count).foldl
      (fun current k => current.modify (first + k) change) rows).length = rows.length :=
  List.foldlRecOn _ _ (motive := fun current : List Row => current.length = rows.length) rfl
    fun _ same _ _ => (List.length_modify _ _ _).trans same

/-- A scroll neither adds nor takes away rows. -/
theorem ScreenBuffer.composedSize_scrollRows
    (buffer : ScreenBuffer) (top bottom : Nat) (amount : Int) (fill : Cell) :
    (buffer.scrollRows top bottom amount fill).composedSize = buffer.composedSize := by
  have swapped : ∀ (current : ScreenBuffer) (first second : Nat),
      (current.swapScreen first second).composedSize = current.composedSize := by
    intro current first second
    unfold swapScreen composedSize
    by_cases onAlternate : current.onAlternate <;> simp [onAlternate]
  have cleared : ∀ (current : ScreenBuffer) (first count : Nat),
      (current.clearScreenRows first count fill).composedSize = current.composedSize :=
    fun current first count =>
      composedSize_foldl (fun _ _ => composedSize_modifyComposed _ _ _) current _
  unfold scrollRows
  split
  · rfl
  · dsimp only
    split
    · rw [shiftUp, cleared, composedSize_foldl fun _ _ => swapped _ _ _]
    · rw [shiftDown, cleared, composedSize_foldl fun _ _ => swapped _ _ _]

namespace ScreenBuffer.Shaped

variable {lines columns limit top bottom y : Nat} {amount : Int} {buffer : ScreenBuffer}

/-! ## Rows that move -/

/-- A scroll moves the rows of its region as far as they stay inside it, and
leaves the others. -/
theorem composedRow_scrollRows
    (shaped : buffer.Shaped lines columns limit)
    (ordered : top ≤ bottom)
    (bottomInside : bottom < lines)
    (some : amount ≠ 0)
    (atMost : amount.natAbs ≤ bottom + 1 - top)
    (fill : Cell)
    {index : Nat}
    (inside : index < buffer.composedSize) :
    (buffer.scrollRows top bottom amount fill).composedRow index =
      if buffer.screenBase + top ≤ index ∧ index ≤ buffer.screenBase + bottom then
        if ((buffer.screenBase + top : Nat) : Int) ≤ index + amount ∧
            index + amount ≤ ((buffer.screenBase + bottom : Nat) : Int) then
          buffer.composedRow (index + amount).toNat
        else Row.filled columns fill
      else buffer.composedRow index := by
  have changed := shaped.rowLists_scrollRows top bottom amount fill
  have columnsEq : buffer.rowLists.columns = columns := shaped.columns_eq
  have linesEq : buffer.rowLists.lines = lines := shaped.lines_eq
  rw [RowLists.scrollRows, linesEq, if_neg (by omega), shaped.place_eq, columnsEq] at changed
  have fits := shaped.screenBase_add_lines
  have lengthEq := shaped.length_shown
  have regionInside :
      buffer.screenBase + top + (bottom + 1 - top) ≤ buffer.rowLists.shown.length := by
    omega
  have regionLength :
      ((buffer.rowLists.shown.drop (buffer.screenBase + top)).take (bottom + 1 - top)).length =
        bottom + 1 - top := by
    rw [List.length_take, List.length_drop]
    omega
  have shiftedLength :
      (RowLists.shifted columns amount fill
        ((buffer.rowLists.shown.drop (buffer.screenBase + top)).take
          (bottom + 1 - top))).length = bottom + 1 - top :=
    (RowLists.length_shifted _ _ _ _).trans regionLength
  have sameLength :
      (RowLists.onRegion (buffer.screenBase + top) (bottom + 1 - top)
        (RowLists.shifted columns amount fill) buffer.rowLists.shown).length =
        buffer.rowLists.shown.length := by
    rw [RowLists.onRegion, List.length_append, List.length_append, shiftedLength,
      List.length_take, List.length_drop]
    omega
  rw [shaped.composedRow_of_modifyShown (shaped.scrollRows _ _ _ _) changed sameLength inside,
    RowLists.getElem?_onRegion regionInside shiftedLength]
  by_cases region : buffer.screenBase + top ≤ index ∧ index ≤ buffer.screenBase + bottom
  · rw [if_pos region, if_pos (by omega), RowLists.getElem?_shifted (by omega) (by omega),
      regionLength]
    by_cases stays :
        ((buffer.screenBase + top : Nat) : Int) ≤ index + amount ∧
          index + amount ≤ ((buffer.screenBase + bottom : Nat) : Int)
    · rw [if_pos stays, if_pos (by omega), shaped.composedRow_eq (by omega),
        List.getElem?_take_of_lt (by omega), List.getElem?_drop]
      congr 2
      omega
    · rw [if_neg stays, if_neg (by omega), Option.getD_some]
  · rw [if_neg region, if_neg (by omega), shaped.composedRow_eq inside]

theorem screenRow_scrollRows
    (shaped : buffer.Shaped lines columns limit)
    (bottomInside : bottom < lines)
    (some : amount ≠ 0)
    (atMost : amount.natAbs ≤ bottom + 1 - top)
    (fill : Cell)
    (above : top ≤ y)
    (below : y ≤ bottom) :
    (buffer.scrollRows top bottom amount fill).screenRow y =
      if (top : Int) ≤ y + amount ∧ y + amount ≤ bottom then
        buffer.screenRow (y + amount).toNat
      else Row.filled columns fill := by
  have fits := shaped.screenBase_add_lines
  have base : (buffer.scrollRows top bottom amount fill).screenBase = buffer.screenBase := by
    rw [screenBase, screenBase, composedSize_scrollRows, shaped.lines_eq,
      (shaped.scrollRows _ _ _ _).lines_eq]
  rw [screenRow, base, shaped.composedRow_scrollRows (by omega) bottomInside some atMost fill
    (by omega), if_pos (by omega)]
  by_cases stays : (top : Int) ≤ y + amount ∧ y + amount ≤ bottom
  · rw [if_pos stays, if_pos (by omega), screenRow]
    congr 1
    omega
  · rw [if_neg stays, if_neg (by omega)]

theorem size_le (shaped : buffer.Shaped lines columns limit) :
    buffer.ring.size ≤ buffer.capacity := by
  rw [capacity, shaped.limit_eq, shaped.lines_eq]
  exact shaped.size_le_capacity

/-- The main screen scrolled up by a row: a row comes in at its end, and the
oldest one is lost when there is no room. -/
theorem toList_advance (shaped : buffer.Shaped lines columns limit) (fill : Cell) :
    (buffer.advance fill).1.ring.toList =
      (buffer.ring.toList ++ [Row.filled columns fill]).drop
        (buffer.ring.size + 1 - buffer.capacity) := by
  have atMost := shaped.size_le
  have listEq := congrArg (fun both => both.1.main) (shaped.rowLists_advance fill)
  change (buffer.advance fill).1.ring.toList = (buffer.rowLists.advance fill).1.main at listEq
  have columnsEq : buffer.rowLists.columns = columns := shaped.columns_eq
  have capacityEq : buffer.rowLists.historyLimit + buffer.rowLists.lines = buffer.capacity := rfl
  have mainEq : buffer.rowLists.main = buffer.ring.toList := rfl
  rw [listEq, RowLists.advance, columnsEq, capacityEq, mainEq]
  simp only [List.length_append, List.length_singleton, Ring.length_toList]
  by_cases full : buffer.ring.size + 1 > buffer.capacity
  · have one : buffer.ring.size + 1 - buffer.capacity = 1 := by omega
    rw [if_pos full, one]
  · rw [if_neg full, Nat.sub_eq_zero_of_le (by omega), List.drop_zero]

/-- The main screen scrolled up by a row. -/
theorem screenRow_advance
    (shaped : buffer.Shaped lines columns limit)
    (main : buffer.onAlternate = false)
    (fill : Cell)
    (inside : y < lines) :
    (buffer.advance fill).1.screenRow y =
      if y + 1 < lines then buffer.screenRow (y + 1) else Row.filled columns fill := by
  have enough := shaped.lines_le_size
  have atMost := shaped.size_le
  have lengthEq : buffer.ring.toList.length = buffer.ring.size := Ring.length_toList _
  have listAfter := shaped.toList_advance fill
  have sizeAfter := congrArg List.length listAfter
  rw [Ring.length_toList, List.length_drop, List.length_append, List.length_singleton,
    lengthEq] at sizeAfter
  have after := shaped.advance fill
  have mainAfter : (buffer.advance fill).1.onAlternate = false := by rwa [advance_frame]
  have base : buffer.screenBase = buffer.ring.size - lines := by
    rw [screenBase, composedSize, main, shaped.lines_eq]
    rfl
  have baseAfter :
      (buffer.advance fill).1.screenBase = (buffer.advance fill).1.ring.size - lines := by
    rw [screenBase, composedSize, mainAfter, after.lines_eq]
    rfl
  have positive := shaped.lines_pos
  -- The new row comes after all others, whether or not the oldest one is lost for it.
  have rowAfter :
      (buffer.advance fill).1.screenRow y =
        (buffer.ring.toList ++
          [Row.filled columns fill])[buffer.screenBase + (y + 1)]?.getD {} := by
    rw [after.screenRow_eq inside, shown_rowLists, mainAfter, if_neg Bool.false_ne_true,
      listAfter, List.getElem?_drop]
    congr 2
    rw [base, baseAfter, sizeAfter]
    have capacityEnough : lines ≤ buffer.capacity := by
      rw [capacity, shaped.lines_eq]
      omega
    omega
  rw [rowAfter]
  by_cases last : y + 1 < lines
  · rw [if_pos last, List.getElem?_append_left (by omega), shaped.screenRow_eq last,
      shown_rowLists, main, if_neg Bool.false_ne_true]
  · rw [if_neg last, List.getElem?_append_right (by omega), lengthEq, base]
    have here : buffer.ring.size - lines + (y + 1) - buffer.ring.size = 0 := by omega
    rw [here]
    rfl

/-- Rows of the screen that are cleared, all of them. -/
theorem screenRow_clearScreenRows
    (shaped : buffer.Shaped lines columns limit)
    (fill : Cell)
    (inside : y < lines) :
    (buffer.clearScreenRows 0 lines fill).screenRow y = Row.filled columns fill := by
  have fits := shaped.screenBase_add_lines
  have lengthEq := shaped.length_shown
  have changed := shaped.rowLists_clearScreenRows (Nat.le_of_eq (Nat.zero_add lines)) fill
  have cleared := RowLists.getElem?_foldl_clear shaped.width_shown
    (show buffer.screenBase + 0 + lines ≤ _ by omega) fill
  have sameLength := RowLists.length_foldl_modify (Row.clear fill) (buffer.screenBase + 0) lines
    buffer.rowLists.shown
  rw [shaped.screenRow_of_modifyShown (shaped.clearScreenRows _ _ _) changed sameLength inside,
    cleared, if_pos (by omega), Option.getD_some]

end ScreenBuffer.Shaped

namespace Terminal

variable {lines columns limit : Nat} {terminal : Terminal}

/-! ## Cells of the screen -/

theorem buffer_modifyBlink (terminal : Terminal) (change : BlinkMarks → BlinkMarks) :
    (terminal.modifyBlink change).buffer = terminal.buffer := by
  rw [modifyBlink_frame]

theorem cell_edit
    (wellFormed : terminal.WellFormed lines columns limit)
    {x y row : Nat} {edit : RowEdit}
    (fits : edit.Fits columns)
    (editInside : y < lines)
    (column : x < columns)
    (inside : row < lines) :
    (terminal.edit y edit).cell x row =
      if row = y then edit.cellAt terminal.fill columns (terminal.cell · y) x
      else terminal.cell x row := by
  have shaped := wellFormed.shaped
  have keeps : ∀ row : Row, row.cells.length = columns →
      (edit.change terminal.fill row).cells.length = columns := by
    intro row width
    subst width
    exact RowEdit.length_change fits _
  rw [cell, Terminal.edit, buffer_modifyBlink, modifyRow]
  by_cases here : row = y
  · subst here
    have width : (terminal.buffer.screenRow row).cells.length = columns :=
      shaped.composedRow_width (shaped.screenBase_add_lt inside)
    rw [if_pos rfl, shaped.screenRow_modifyScreen_self keeps inside]
    subst width
    exact RowEdit.getD_change fits column terminal.fill
  · rw [if_neg here, shaped.screenRow_modifyScreen_of_ne keeps editInside inside here]
    rfl

theorem getD_filled {x : Nat} (column : x < columns) (fill : Cell) :
    (Row.filled columns fill).cells[x]?.getD {} = fill := by
  simp [Row.filled, column]

theorem cell_advance
    (wellFormed : terminal.WellFormed lines columns limit)
    (main : terminal.onAlternate = false)
    {x y : Nat}
    (fill : Cell)
    (count : Nat)
    (column : x < columns)
    (inside : y < lines) :
    (terminal.advance fill count).cell x y =
      if y + count < lines then terminal.cell x (y + count) else fill := by
  induction count generalizing terminal with
  | zero =>
      rw [Nat.add_zero, if_pos inside]
      rfl
  | succ count inductionHypothesis =>
      have risen : ∀ row < lines,
          (terminal.advance fill 1).cell x row =
            if row + 1 < lines then terminal.cell x (row + 1) else fill := by
        intro row rowInside
        change ((terminal.buffer.advance fill).1.screenRow row).cells[x]?.getD {} = _
        rw [wellFormed.shaped.screenRow_advance main fill rowInside]
        split
        · rfl
        · exact getD_filled column fill
      have stillMain : (terminal.advance fill 1).onAlternate = false := by
        change (terminal.buffer.advance fill).1.onAlternate = false
        rwa [ScreenBuffer.advance_frame]
      change ((terminal.advance fill 1).advance fill count).cell x y = _
      rw [inductionHypothesis (wellFormed.advance fill 1) stillMain]
      by_cases reached : y + count < lines
      · rw [if_pos reached, risen _ reached]
        rfl
      · rw [if_neg reached, if_neg (by omega)]

/-- Rows that move take their cells with them. -/
theorem cell_moveRows
    (wellFormed : terminal.WellFormed lines columns limit)
    {x y top bottom : Nat} {amount : Int}
    (some : amount ≠ 0)
    (atMost : amount.natAbs ≤ bottom + 1 - top)
    (bottomInside : bottom < lines)
    (column : x < columns)
    (inside : y < lines) :
    (terminal.moveRows top bottom amount).cell x y =
      if top ≤ y ∧ y ≤ bottom then
        if (top : Int) ≤ y + amount ∧ y + amount ≤ bottom then
          terminal.cell x (y + amount).toNat
        else terminal.fill
      else terminal.cell x y := by
  have shaped := wellFormed.shaped
  rw [moveRows]
  split
  · next whole =>
      simp only [Bool.and_eq_true, Bool.not_eq_true', beq_iff_eq, wellFormed.lines_eq] at whole
      obtain ⟨⟨⟨main, rfl⟩, rfl⟩, up⟩ := whole
      obtain ⟨count, rfl⟩ := Int.eq_ofNat_of_zero_le (Int.le_of_lt up)
      have region : 0 ≤ y ∧ y ≤ lines - 1 := by omega
      rw [Int.toNat_natCast, cell_advance wellFormed main _ _ column inside, if_pos region]
      by_cases stays : y + count < lines
      · rw [if_pos stays, if_pos (by omega)]
        rfl
      · rw [if_neg stays, if_neg (by omega)]
  · by_cases region : top ≤ y ∧ y ≤ bottom
    · rw [if_pos region, cell,
        shaped.screenRow_scrollRows bottomInside some atMost _ region.1 region.2]
      split
      · rfl
      · exact getD_filled column _
    · rw [if_neg region, cell, shaped.screenRow_scrollRows_of_outside _ _ inside (by omega)]
      rfl

/-- A screen of other rows with the same cells. -/
theorem cell_of_sameCells
    (wellFormed : terminal.WellFormed lines columns limit)
    {buffer : ScreenBuffer}
    (shaped : buffer.Shaped lines columns limit)
    (same : terminal.buffer.SameCells buffer)
    {x y : Nat}
    (inside : y < lines) :
    { terminal with buffer }.cell x y = terminal.cell x y := by
  change (buffer.screenRow y).cells[x]?.getD {} = _
  rw [wellFormed.shaped.cells_screenRow_of_sameCells shaped same inside]
  rfl

theorem cell_fillScreen
    (wellFormed : terminal.WellFormed lines columns limit)
    {x y : Nat}
    (cell : Cell)
    (column : x < columns)
    (inside : y < lines) :
    (terminal.fillScreen cell).cell x y = cell := by
  rw [Terminal.cell, fillScreen, buffer_modifyBlink, wellFormed.lines_eq,
    wellFormed.shaped.screenRow_clearScreenRows cell inside]
  exact getD_filled column cell

theorem cell_clearHistory
    (wellFormed : terminal.WellFormed lines columns limit)
    {x y : Nat}
    (inside : y < lines) :
    terminal.clearHistory.cell x y = terminal.cell x y := by
  rw [clearHistory]
  split
  · rfl
  · next main =>
      change (terminal.buffer.clearHistory.screenRow y).cells[x]?.getD {} = _
      rw [wellFormed.shaped.screenRow_clearHistory (eq_false_of_ne_true main) inside]
      rfl

end Terminal

end VideoTerminal
