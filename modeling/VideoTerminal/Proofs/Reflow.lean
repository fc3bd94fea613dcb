import Mathlib.Data.List.Basic
import VideoTerminal.Grid.Reflow
import VideoTerminal.Proofs.ScreenShape

/-!
Reflow takes rows apart into logical lines and cuts the lines anew. The lines
are the rows in their order, the rows cut from a line hold its cells in their
order, and the cursor stays on the rows cut from its line.
-/

namespace VideoTerminal.Reflow

/-! ## Blank rows -/

theorem isBlank_filled (columns : Nat) :
    (Row.filled columns {}).isBlank = true := by
  simp [Row.isBlank, Row.isEmpty, Row.filled, Cell.isBlank]

theorem isEmpty_of_isBlank
    {row : Row}
    (blank : row.isBlank = true) :
    row.isEmpty = true := by
  rw [Row.isBlank, Bool.and_eq_true] at blank
  exact blank.2

/-! ## Logical lines -/

theorem lines_ne_nil (row : Row) (rest : List Row) :
    lines (row :: rest) ≠ [] := by
  unfold lines
  split
  · split <;> simp
  · simp

/-- A row before others joins their first line, or is a line of its own. -/
theorem lines_cons_cons (row next : Row) (others : List Row) :
    ∃ line more,
      lines (next :: others) = line :: more ∧
        lines (row :: next :: others) =
          if next.wrap.continues then (row :: line) :: more
          else [row] :: line :: more := by
  obtain ⟨line, more, restLines⟩ := List.exists_cons_of_ne_nil (lines_ne_nil next others)
  refine ⟨line, more, restLines, ?_⟩
  rw [lines.eq_def]
  simp only [restLines]

theorem flatten_lines (rows : List Row) :
    (lines rows).flatten = rows := by
  induction rows with
  | nil => rfl
  | cons row rest inductionHypothesis =>
      cases rest with
      | nil => rfl
      | cons next others =>
          obtain ⟨line, more, restLines, allLines⟩ := lines_cons_cons row next others
          rw [restLines] at inductionHypothesis
          rw [allLines]
          split <;> simpa using inductionHypothesis

theorem ne_nil_of_mem_lines {rows line : List Row} (member : line ∈ lines rows) :
    line ≠ [] := by
  induction rows generalizing line with
  | nil => simp [lines] at member
  | cons row rest inductionHypothesis =>
      cases rest with
      | nil =>
          have only : line = [row] := List.mem_singleton.mp member
          simp [only]
      | cons next others =>
          obtain ⟨first, more, restLines, allLines⟩ := lines_cons_cons row next others
          rw [restLines] at inductionHypothesis
          rw [allLines] at member
          split at member
          · rcases List.mem_cons.mp member with rfl | later
            · simp
            · exact inductionHypothesis (List.mem_cons_of_mem _ later)
          · rcases List.mem_cons.mp member with rfl | later
            · simp
            · exact inductionHypothesis later

/-- A row and the rows after it that continue it are a logical line, when what
follows begins another. -/
theorem lines_append
    {row : Row} {more rest : List Row}
    (continuing : ∀ next ∈ more, next.wrap.continues = true)
    (ended : ∀ next ∈ rest.head?, next.wrap.continues = false) :
    lines (row :: more ++ rest) = (row :: more) :: lines rest := by
  induction more generalizing row with
  | nil =>
      cases rest with
      | nil => rfl
      | cons next others =>
          have begins : next.wrap.continues = false := ended next (by simp)
          obtain ⟨line, later, restLines, allLines⟩ := lines_cons_cons row next others
          rw [List.cons_append, List.nil_append, allLines, restLines]
          simp [begins]
  | cons next others inductionHypothesis =>
      have nextContinues : next.wrap.continues = true := continuing next (by simp)
      have restLines :
          lines (next :: (others ++ rest)) = (next :: others) :: lines rest :=
        inductionHypothesis fun each member => continuing each (by simp [member])
      obtain ⟨line, later, sameLines, allLines⟩ :=
        lines_cons_cons row next (others ++ rest)
      rw [restLines] at sameLines
      rw [List.cons_append, List.cons_append, allLines]
      simp_all

theorem length_joined
    {columns : Nat} {line : List Row}
    (width : ∀ row ∈ line, row.cells.length = columns) :
    (joined line).length = line.length * columns := by
  induction line with
  | nil => simp [joined]
  | cons row rest inductionHypothesis =>
      have restLength := inductionHypothesis fun each member => width each (by simp [member])
      simp only [joined, List.flatMap_cons, List.length_append, List.length_cons] at *
      rw [width row (by simp), restLength, Nat.add_mul, Nat.one_mul, Nat.add_comm]

/-! ## The rows of a line -/

theorem rowCount_pos (columns length : Nat) :
    0 < rowCount columns length := by
  unfold rowCount
  omega

/-- The rows before the last one, and the last one. -/
theorem rowCount_mul (columns length : Nat) :
    rowCount columns length * columns = (rowCount columns length - 1) * columns + columns := by
  rw [← Nat.succ_mul, Nat.succ_eq_add_one, Nat.sub_add_cancel (rowCount_pos _ _)]

theorem rowCount_mono
    {columns shorter longer : Nat}
    (atMost : shorter ≤ longer) :
    rowCount columns shorter ≤ rowCount columns longer := by
  have quotients :
      (shorter + columns - 1) / columns ≤ (longer + columns - 1) / columns :=
    Nat.div_le_div_right (by omega)
  unfold rowCount
  omega

/-- The rows of a line have room for its cells. -/
theorem le_rowCount_mul
    {columns : Nat}
    (columnsPositive : 0 < columns)
    (length : Nat) :
    length ≤ rowCount columns length * columns := by
  have ceiling : length ≤ (length + columns - 1) / columns * columns := by
    have division := Nat.div_add_mod (length + columns - 1) columns
    have remainder := Nat.mod_lt (length + columns - 1) columnsPositive
    rw [Nat.mul_comm] at division
    omega
  exact Nat.le_trans ceiling (Nat.mul_le_mul_right _ (Nat.le_max_left _ _))

/-- Each of the rows after the first begins before the end of its line. -/
theorem mul_lt_of_lt_rowCount
    {columns length k : Nat}
    (columnsPositive : 0 < columns)
    (notFirst : 0 < k)
    (inside : k < rowCount columns length) :
    k * columns < length := by
  have quotient : k + 1 ≤ (length + columns - 1) / columns := by
    unfold rowCount at inside
    omega
  rw [Nat.le_div_iff_mul_le columnsPositive, Nat.add_mul, Nat.one_mul] at quotient
  omega

theorem mul_le_of_lt_rowCount
    {columns length k : Nat}
    (columnsPositive : 0 < columns)
    (inside : k < rowCount columns length) :
    k * columns ≤ length := by
  rcases Nat.eq_zero_or_pos k with rfl | positive
  · rw [Nat.zero_mul]
    exact Nat.zero_le length
  · exact Nat.le_of_lt (mul_lt_of_lt_rowCount columnsPositive positive inside)

/-- The rows before the last one are full, and the last one is not empty
unless it is the only one. -/
theorem rowCount_eq_of_bounds
    {columns length count : Nat}
    (lower : count * columns < length)
    (upper : length ≤ (count + 1) * columns) :
    rowCount columns length = count + 1 := by
  have quotient : (length + columns - 1) / columns = count + 1 := by
    rw [Nat.div_eq_iff (by
      rcases Nat.eq_zero_or_pos columns with rfl | positive
      · simp at upper
        omega
      · exact positive)]
    have step : (count + 1) * columns = count * columns + columns := by
      rw [Nat.add_mul, Nat.one_mul]
    omega
  simp [rowCount, quotient]

theorem rowCount_eq_one
    {columns length : Nat}
    (short : length ≤ columns) :
    rowCount columns length = 1 := by
  rcases Nat.eq_zero_or_pos length with rfl | positive
  · rcases Nat.eq_zero_or_pos columns with rfl | columnsPositive
    · rfl
    · simp only [rowCount, Nat.zero_add]
      rw [Nat.div_eq_of_lt (by omega)]
      rfl
  · exact rowCount_eq_of_bounds (show 0 * columns < length by omega) (by omega)

@[simp]
theorem length_slice (columns : Nat) (cells : List Cell) :
    (slice columns cells).length = rowCount columns cells.length := by
  simp [slice]

theorem slice_width
    {columns : Nat} {cells : List Cell} {row : Row}
    (member : row ∈ slice columns cells) :
    row.cells.length = columns := by
  simp only [slice, List.mem_map] at member
  obtain ⟨k, _, rfl⟩ := member
  exact Row.length_fit _ _

/-- Pieces of equal length put together again. -/
theorem flatMap_pieces
    {columns : Nat} :
    ∀ {count : Nat} {cells : List Cell},
      cells.length = count * columns →
      (List.range count).flatMap
        (fun k => (cells.drop (k * columns)).take columns) = cells
  | 0, cells, lengthEq => by
      have empty : cells = [] := List.length_eq_zero_iff.mp (by simpa using lengthEq)
      simp [empty]
  | count + 1, cells, lengthEq => by
      rw [Nat.add_mul, Nat.one_mul] at lengthEq
      have initial :
          (List.range count).flatMap
              (fun k => ((cells.take (count * columns)).drop (k * columns)).take columns) =
            cells.take (count * columns) :=
        flatMap_pieces (by simp; omega)
      have samePieces :
          (List.range count).flatMap (fun k => (cells.drop (k * columns)).take columns) =
            (List.range count).flatMap
              (fun k => ((cells.take (count * columns)).drop (k * columns)).take columns) := by
        apply List.flatMap_congr
        intro k member
        have before : (k + 1) * columns ≤ count * columns :=
          Nat.mul_le_mul_right _ (List.mem_range.mp member)
        rw [Nat.add_mul, Nat.one_mul] at before
        rw [List.drop_take, List.take_take]
        congr 1
        omega
      have final : (cells.drop (count * columns)).take columns = cells.drop (count * columns) :=
        List.take_of_length_le (by simp; omega)
      rw [List.range_succ, List.flatMap_append, samePieces, initial]
      simp [final]

/-- The rows cut from a line hold its cells, and blank ones after them. -/
theorem joined_slice
    {columns : Nat}
    (columnsPositive : 0 < columns)
    (cells : List Cell) :
    joined (slice columns cells) =
      cells ++ List.replicate (rowCount columns cells.length * columns - cells.length) ({} : Cell) := by
  have room := le_rowCount_mul columnsPositive cells.length
  have filled :
      (cells ++
        List.replicate (rowCount columns cells.length * columns - cells.length)
          ({} : Cell)).length = rowCount columns cells.length * columns := by
    simp
    omega
  rw [← flatMap_pieces filled]
  simp only [joined, slice, List.flatMap_map]
  apply List.flatMap_congr
  intro k member
  have before : (k + 1) * columns ≤ rowCount columns cells.length * columns :=
    Nat.mul_le_mul_right _ (List.mem_range.mp member)
  rw [Nat.add_mul, Nat.one_mul] at before
  simp only [Row.fit, List.drop_append, List.take_append, List.take_take, Nat.min_self,
    List.length_take, List.length_drop, List.drop_replicate, List.take_replicate]
  congr 2
  omega

/-! ## The cursor -/

theorem lineLength_le (line : List Row) (cursor : Option Nat) :
    lineLength line cursor ≤ (joined line).length :=
  Nat.min_le_right _ _

theorem le_lineLength
    {line : List Row} {offset : Nat}
    (inside : offset ≤ (joined line).length) :
    offset ≤ lineLength line (some offset) :=
  Nat.le_min.mpr ⟨Nat.le_max_right _ _, inside⟩

/-- An offset of a line is found on one of the rows cut from it. -/
theorem place_bounds
    {columns length offset : Nat}
    (columnsPositive : 0 < columns)
    (inside : offset ≤ length) :
    (place columns (rowCount columns length) offset).1 ≤ columns ∧
      (place columns (rowCount columns length) offset).2 < rowCount columns length := by
  have room := le_rowCount_mul columnsPositive length
  have someRows := rowCount_pos columns length
  unfold place
  split
  · exact ⟨Nat.le_refl columns, by dsimp only; omega⟩
  · next notFull =>
      refine ⟨Nat.le_of_lt (Nat.mod_lt _ columnsPositive), ?_⟩
      rw [Nat.div_lt_iff_lt_mul columnsPositive]
      by_cases positive : offset > 0
      · have : offset ≠ rowCount columns length * columns := fun full =>
          notFull ⟨positive, full⟩
        omega
      · have := Nat.mul_pos someRows columnsPositive
        omega

theorem cursorOffset?_of_mem
    {oldColumns start x y : Nat} {line : List Row}
    (lower : start ≤ y)
    (upper : y < start + line.length) :
    cursorOffset? oldColumns start line (some (x, y)) =
      some ((y - start) * oldColumns + x) := by
  simp [cursorOffset?, lower, upper]

theorem cursorOffset?_of_not_mem
    {oldColumns start x y : Nat} {line : List Row}
    (outside : ¬ (start ≤ y ∧ y < start + line.length)) :
    cursorOffset? oldColumns start line (some (x, y)) = none := by
  simp [cursorOffset?, outside]

/-- The cursor's offset does not go past the cells of its line. -/
theorem offset_le_length_joined
    {oldColumns start x y : Nat} {line : List Row}
    (width : ∀ row ∈ line, row.cells.length = oldColumns)
    (xInside : x ≤ oldColumns)
    (lower : start ≤ y)
    (upper : y < start + line.length) :
    (y - start) * oldColumns + x ≤ (joined line).length := by
  have rowsBefore : (y - start + 1) * oldColumns ≤ line.length * oldColumns :=
    Nat.mul_le_mul_right _ (by omega)
  rw [Nat.add_mul, Nat.one_mul] at rowsBefore
  rw [length_joined width]
  omega

/-- The rows cut from one line of those that begin at row `start`. -/
def rewrapLine (oldColumns columns start : Nat) (cursor : Option (Nat × Nat))
    (line : List Row) : List Row :=
  slice columns
    ((joined line).take (lineLength line (cursorOffset? oldColumns start line cursor)))

theorem length_rewrapLine
    (oldColumns columns start : Nat) (cursor : Option (Nat × Nat)) (line : List Row) :
    (rewrapLine oldColumns columns start cursor line).length =
      rowCount columns
        (lineLength line (cursorOffset? oldColumns start line cursor)) := by
  rw [rewrapLine, length_slice, List.length_take, Nat.min_eq_left (lineLength_le _ _)]

theorem rewrapFrom_cons
    (oldColumns columns start first : Nat) (cursor : Option (Nat × Nat))
    (line : List Row) (others : List (List Row)) :
    (rewrapFrom oldColumns columns cursor start first (line :: others)).1 =
      rewrapLine oldColumns columns start cursor line ++
        (rewrapFrom oldColumns columns cursor (start + line.length)
          (first + (rewrapLine oldColumns columns start cursor line).length) others).1 := rfl

theorem rewrapFrom_cursor_of_some
    {oldColumns columns start offset : Nat} {cursor : Option (Nat × Nat)}
    {line : List Row}
    (here : cursorOffset? oldColumns start line cursor = some offset)
    (first : Nat) (others : List (List Row)) :
    (rewrapFrom oldColumns columns cursor start first (line :: others)).2 =
      some
        ((place columns (rewrapLine oldColumns columns start cursor line).length offset).1,
          first +
            (place columns (rewrapLine oldColumns columns start cursor line).length offset).2) := by
  simp only [rewrapFrom, here, rewrapLine]

theorem rewrapFrom_cursor_of_none
    {oldColumns columns start : Nat} {cursor : Option (Nat × Nat)} {line : List Row}
    (elsewhere : cursorOffset? oldColumns start line cursor = none)
    (first : Nat) (others : List (List Row)) :
    (rewrapFrom oldColumns columns cursor start first (line :: others)).2 =
      (rewrapFrom oldColumns columns cursor (start + line.length)
        (first + (rewrapLine oldColumns columns start cursor line).length) others).2 := by
  simp only [rewrapFrom, elsewhere, rewrapLine]

theorem rewrapFrom_width
    {oldColumns columns : Nat} {cursor : Option (Nat × Nat)} {groups : List (List Row)}
    {start first : Nat} {row : Row}
    (member : row ∈ (rewrapFrom oldColumns columns cursor start first groups).1) :
    row.cells.length = columns := by
  induction groups generalizing start first with
  | nil => simp [rewrapFrom] at member
  | cons line others inductionHypothesis =>
      rw [rewrapFrom_cons, List.mem_append] at member
      rcases member with here | later
      · exact slice_width here
      · exact inductionHypothesis later

/-- A cursor on one of the lines is found again on the rows cut from them. -/
theorem rewrapFrom_cursor
    {oldColumns columns x y : Nat} {groups : List (List Row)}
    {start first : Nat}
    (columnsPositive : 0 < columns)
    (width : ∀ row ∈ groups.flatten, row.cells.length = oldColumns)
    (xInside : x ≤ oldColumns)
    (lower : start ≤ y)
    (upper : y < start + groups.flatten.length) :
    ∃ newX newY,
      (rewrapFrom oldColumns columns (some (x, y)) start first groups).2 = some (newX, newY) ∧
        newX ≤ columns ∧ first ≤ newY ∧
        newY < first +
          (rewrapFrom oldColumns columns (some (x, y)) start first groups).1.length := by
  induction groups generalizing start first with
  | nil =>
      simp at upper
      omega
  | cons line others inductionHypothesis =>
      rw [rewrapFrom_cons, List.length_append]
      rw [List.flatten_cons, List.length_append] at upper
      have lineWidth : ∀ row ∈ line, row.cells.length = oldColumns := fun row member =>
        width row (by simp [member])
      have othersWidth : ∀ row ∈ others.flatten, row.cells.length = oldColumns :=
        fun row member => width row (by
          rw [List.flatten_cons]
          exact List.mem_append_right _ member)
      by_cases here : y < start + line.length
      · have offsetEq :
            cursorOffset? oldColumns start line (some (x, y)) =
              some ((y - start) * oldColumns + x) := cursorOffset?_of_mem lower here
        have inside := offset_le_length_joined lineWidth xInside lower here
        have bounds := place_bounds columnsPositive (le_lineLength inside)
        have lengthEq := length_rewrapLine oldColumns columns start (some (x, y)) line
        rw [offsetEq] at lengthEq
        rw [← lengthEq] at bounds
        exact
          ⟨_, _, rewrapFrom_cursor_of_some offsetEq first others, bounds.1, by omega,
            by omega⟩
      · have offsetEq : cursorOffset? oldColumns start line (some (x, y)) = none :=
          cursorOffset?_of_not_mem fun inside => here inside.2
        obtain ⟨newX, newY, found, xBound, yLower, yUpper⟩ :=
          @inductionHypothesis (start + line.length)
            (first + (rewrapLine oldColumns columns start (some (x, y)) line).length)
            othersWidth (by omega) (by omega)
        refine ⟨newX, newY, ?_, xBound, by omega, by omega⟩
        rw [rewrapFrom_cursor_of_none offsetEq, found]

theorem rewrap_width
    {rows : List Row} {oldColumns columns : Nat} {cursor : Option (Nat × Nat)} {row : Row}
    (member : row ∈ (rewrap rows oldColumns columns cursor).1) :
    row.cells.length = columns :=
  rewrapFrom_width member

theorem rewrap_without_cursor (rows : List Row) (oldColumns columns : Nat) :
    (rewrap rows oldColumns columns none).2 = none := by
  suffices absent : ∀ start first,
      (rewrapFrom oldColumns columns none start first (lines rows)).2 = none from absent 0 0
  induction lines rows with
  | nil => exact fun _ _ => rfl
  | cons line others inductionHypothesis =>
      intro start first
      rw [rewrapFrom_cursor_of_none rfl]
      exact inductionHypothesis _ _

/-- A cursor on the rows is found again on the rewrapped ones. -/
theorem rewrap_cursor
    {rows : List Row} {oldColumns columns x y : Nat}
    (columnsPositive : 0 < columns)
    (width : ∀ row ∈ rows, row.cells.length = oldColumns)
    (xInside : x ≤ oldColumns)
    (yInside : y < rows.length) :
    ∃ newX newY,
      (rewrap rows oldColumns columns (some (x, y))).2 = some (newX, newY) ∧
        newX ≤ columns ∧
        newY < (rewrap rows oldColumns columns (some (x, y))).1.length := by
  have flattened := flatten_lines rows
  have linesWidth : ∀ row ∈ (lines rows).flatten, row.cells.length = oldColumns := by
    rwa [flattened]
  have onLines : y < 0 + (lines rows).flatten.length := by
    rwa [flattened, Nat.zero_add]
  obtain ⟨newX, newY, found, xBound, -, yBound⟩ :=
    @rewrapFrom_cursor _ _ _ _ _ _ 0 columnsPositive linesWidth xInside (Nat.zero_le y) onLines
  exact ⟨newX, newY, found, xBound, by simpa [rewrap] using yBound⟩

end VideoTerminal.Reflow
