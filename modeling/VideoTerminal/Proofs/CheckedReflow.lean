import VideoTerminal.Proofs.CheckedGrid

/-!
Logical lines and changes of size with their checks. The rows of a line are
counted from its first one, and the row of the cursor from the first one of
the new screen; neither difference is ever below zero.
-/

namespace VideoTerminal.Checked

variable {lines columns limit : Nat} {buffer : ScreenBuffer}

/-! ## Logical lines -/

/-- The first row of the logical line that holds a composed row. -/
def lineStart (buffer : ScreenBuffer) : Nat → Option Nat
  | 0 => some 0
  | index + 1 => do
      let row ← composedRow buffer (index + 1)
      if row.wrap.continues then lineStart buffer index else return index + 1

theorem lineStart_eq
    (shaped : buffer.Shaped lines columns limit)
    {index : Nat}
    (inside : index < buffer.composedSize) :
    lineStart buffer index = some (buffer.lineStart index) := by
  induction index with
  | zero => rfl
  | succ index inductionHypothesis =>
      simp only [lineStart, composedRow_eq shaped inside, Option.bind_eq_bind, Option.bind_some,
        inductionHypothesis (by omega), ScreenBuffer.lineStart]
      split <;> rfl

/-- The last row of the logical line that holds a composed row, looking at most
`remaining` rows ahead. -/
def lineEndWithin (buffer : ScreenBuffer) (index : Nat) : Nat → Option Nat
  | 0 => some index
  | remaining + 1 => do
      let row ← composedRow buffer (index + 1)
      if row.wrap.continues then lineEndWithin buffer (index + 1) remaining else return index

theorem lineEndWithin_eq
    (shaped : buffer.Shaped lines columns limit)
    {index remaining : Nat}
    (inside : index + remaining < buffer.composedSize) :
    lineEndWithin buffer index remaining = some (buffer.lineEndWithin index remaining) := by
  induction remaining generalizing index with
  | zero => rfl
  | succ remaining inductionHypothesis =>
      have next : index + 1 < buffer.composedSize := by omega
      have ahead :
          lineEndWithin buffer (index + 1) remaining =
            some (buffer.lineEndWithin (index + 1) remaining) :=
        inductionHypothesis (by omega)
      simp only [lineEndWithin, composedRow_eq shaped next, Option.bind_eq_bind,
        Option.bind_some, ahead, ScreenBuffer.lineEndWithin]
      split <;> rfl

/-- The change that a stamp makes to row `k` of a line. -/
def stampRow (columns length following k : Nat) (row : Row) : Row :=
  { row with wrap := ⟨following, length - k * columns, k != 0⟩ }

/-- Stamp the rows of the logical line that holds composed row `index`. -/
def stamp (buffer : ScreenBuffer) (index x : Nat) : Option ScreenBuffer := do
  let columns := buffer.columns
  let first ← lineStart buffer index
  let last ← lineEndWithin buffer index (buffer.composedSize - (index + 1))
  let head ← composedRow buffer first
  let before ← difference index first
  let stated := max head.wrap.length (before * columns + x)
  let after ← difference last first
  let reaching := if last > first then max stated (after * columns + 1) else stated
  let length := min reaching ((after + 1) * columns)
  (List.range (last + 1 - first)).foldlM
    (fun current k => do
      let following ← difference last (first + k)
      modifyComposed current (first + k) fun row =>
        some (stampRow columns length following k row))
    buffer

theorem stamp_eq
    (shaped : buffer.Shaped lines columns limit)
    {index : Nat}
    (inside : index < buffer.composedSize)
    (x : Nat) :
    stamp buffer index x = some (buffer.stamp index x) := by
  have startBound := buffer.lineStart_le index
  have endBounds := ScreenBuffer.lineEnd_bounds inside
  have ends :
      lineEndWithin buffer index (buffer.composedSize - (index + 1)) =
        some (buffer.lineEnd index) :=
    lineEndWithin_eq shaped (by omega)
  have startInside : buffer.lineStart index < buffer.composedSize := by omega
  have beforeEnough := startBound
  have afterEnough : buffer.lineStart index ≤ buffer.lineEnd index := by omega
  simp only [stamp, lineStart_eq shaped inside, ends, composedRow_eq shaped startInside,
    difference_eq beforeEnough, difference_eq afterEnough, Option.bind_eq_bind, Option.bind_some]
  apply foldlM_eq
    (fun current =>
      current.Shaped lines columns limit ∧ current.composedSize = buffer.composedSize)
    ⟨shaped, rfl⟩
  · exact fun current k good =>
      ⟨good.1.modifyComposed _ fun _ width => width, by simpa using good.2⟩
  · intro current k member good
    rw [List.mem_range] at member
    have following : buffer.lineStart index + k ≤ buffer.lineEnd index := by omega
    rw [difference_eq following, Nat.sub_add_eq]
    exact modifyComposed_eq good.1 (by omega) fun _ _ => rfl

/-- Screen row `y` continues the logical line above it. -/
def continueLine (buffer : ScreenBuffer) (y : Nat) : Option ScreenBuffer :=
  modifyScreen buffer y fun row =>
    some { row with wrap := { row.wrap with continues := true } }

theorem continueLine_eq
    (shaped : buffer.Shaped lines columns limit)
    {y : Nat}
    (inside : y < lines) :
    continueLine buffer y = some (buffer.continueLine y) :=
  modifyScreen_eq shaped inside fun _ _ => rfl

/-- Stamp the logical line that holds column `x` of screen row `y`. -/
def completeLine (buffer : ScreenBuffer) (x y : Nat) : Option ScreenBuffer := do
  let base ← screenBase buffer
  stamp buffer (base + y) x

theorem completeLine_eq
    (shaped : buffer.Shaped lines columns limit)
    {y : Nat}
    (inside : y < lines)
    (x : Nat) :
    completeLine buffer x y = some (buffer.completeLine x y) := by
  rw [completeLine, screenBase_eq shaped]
  exact stamp_eq shaped (screenRow_inside shaped inside) x

/-- Screen row `y` begins a logical line. -/
def beginLine (buffer : ScreenBuffer) (y : Nat) : Option ScreenBuffer := do
  let base ← screenBase buffer
  let index := base + y
  let row ← composedRow buffer index
  let parted ← modifyComposed buffer index fun row =>
    some
      { row with
        wrap :=
          { row.wrap with
            continues := false
            length := if row.isEmpty then 0 else row.wrap.length } }
  let ended ← (
    if row.wrap.continues ∧ index > 0 then do
      let above ← difference index 1
      let first ← lineStart parted above
      let tail ← composedRow parted above
      let restarted ← modifyComposed parted first fun row =>
        some { row with wrap := { row.wrap with length := 0 } }
      stamp restarted above tail.contentLength
    else some parted)
  stamp ended index 0

theorem beginLine_eq
    (shaped : buffer.Shaped lines columns limit)
    {y : Nat}
    (inside : y < lines) :
    beginLine buffer y = some (buffer.beginLine y) := by
  have indexInside := screenRow_inside shaped inside
  unfold beginLine ScreenBuffer.beginLine
  rw [screenBase_eq shaped]
  simp only [Option.bind_eq_bind, Option.bind_some, composedRow_eq shaped indexInside,
    modifyComposed_eq shaped indexInside fun _ _ => rfl]
  generalize partedEq :
    buffer.modifyComposed (buffer.screenBase + y) (fun row =>
      { row with
        wrap :=
          { row.wrap with
            continues := false
            length := if row.isEmpty then 0 else row.wrap.length } }) = parted
  have partedShaped : parted.Shaped lines columns limit :=
    partedEq ▸ shaped.modifyComposed _ fun _ width => width
  have partedSize : parted.composedSize = buffer.composedSize := by
    simp [← partedEq]
  split
  · next continued =>
      have aboveInside : buffer.screenBase + y - 1 < parted.composedSize := by omega
      have firstBound := parted.lineStart_le (buffer.screenBase + y - 1)
      have firstInside :
          parted.lineStart (buffer.screenBase + y - 1) < parted.composedSize := by omega
      have aboveEnough : 1 ≤ buffer.screenBase + y := continued.2
      have restartedShaped :
          (parted.modifyComposed (parted.lineStart (buffer.screenBase + y - 1)) fun row =>
            { row with wrap := { row.wrap with length := 0 } }).Shaped lines columns limit :=
        partedShaped.modifyComposed _ fun _ width => width
      have restartedInside :
          buffer.screenBase + y - 1 <
            (parted.modifyComposed (parted.lineStart (buffer.screenBase + y - 1)) fun row =>
              { row with wrap := { row.wrap with length := 0 } }).composedSize := by
        simpa using aboveInside
      simp only [difference_eq aboveEnough, lineStart_eq partedShaped aboveInside,
        composedRow_eq partedShaped aboveInside,
        modifyComposed_eq partedShaped firstInside fun _ _ => rfl,
        stamp_eq restartedShaped restartedInside, Option.bind_some]
      exact stamp_eq (restartedShaped.stamp _ _) (by simp; omega) 0
  · rw [Option.bind_some]
    exact stamp_eq partedShaped (by omega) 0

/-! ## Reflow -/

/-- Row `k` of the rows cut from a line, of which `last` is the last one. -/
def sliceRow (columns : Nat) (cells : List Cell) (last k : Nat) : Option Row := do
  let start := min (k * columns) cells.length
  let stop := min ((k + 1) * columns) cells.length
  let extent ← difference stop start
  let following ← difference last k
  let length ← difference cells.length start
  some
    { Row.fit columns { cells := (cells.drop start).take extent } with
      wrap := ⟨following, length, k != 0⟩ }

/-- Cut a line into rows. -/
def slice (columns : Nat) (cells : List Cell) : Option (List Row) := do
  guard (0 < columns)
  let room ← difference (cells.length + columns) 1
  let count := max (room / columns) 1
  let last ← difference count 1
  (List.range count).mapM (sliceRow columns cells last)

theorem slice_eq
    (columnsPositive : 0 < columns)
    (cells : List Cell) :
    slice columns cells = some (Reflow.slice columns cells) := by
  have roomEnough : 1 ≤ cells.length + columns := by omega
  have countEnough : 1 ≤ Reflow.rowCount columns cells.length := Reflow.rowCount_pos _ _
  have sameCount :
      max ((cells.length + columns - 1) / columns) 1 = Reflow.rowCount columns cells.length :=
    rfl
  simp only [slice, columnsPositive, guard_true, difference_eq roomEnough, sameCount,
    difference_eq countEnough, Option.pure_def, Option.bind_eq_bind, Option.bind_some]
  apply mapM_eq
  intro k member
  rw [List.mem_range] at member
  have startInside := Reflow.mul_le_of_lt_rowCount columnsPositive member
  have following : k ≤ Reflow.rowCount columns cells.length - 1 := by omega
  have next : (k + 1) * columns = k * columns + columns := by rw [Nat.add_mul, Nat.one_mul]
  have ordered : k * columns ≤ min ((k + 1) * columns) cells.length := by omega
  have samePiece :
      (cells.drop (k * columns)).take (min ((k + 1) * columns) cells.length - k * columns) =
        (cells.drop (k * columns)).take columns := by
    rw [List.take_eq_take_iff, List.length_drop]
    omega
  simp [sliceRow, Nat.min_eq_left startInside, difference_eq ordered, difference_eq following,
    difference_eq startInside, samePiece]

/-- The column and the row of an offset in a line of `count` rows. -/
def place (columns count offset : Nat) : Option (Nat × Nat) :=
  if offset > 0 ∧ offset = count * columns then do
    let last ← difference count 1
    return (columns, last)
  else do
    guard (0 < columns)
    return (offset % columns, offset / columns)

theorem place_eq
    {count : Nat}
    (columnsPositive : 0 < columns)
    (countPositive : 0 < count)
    (offset : Nat) :
    place columns count offset = some (Reflow.place columns count offset) := by
  have enough : 1 ≤ count := countPositive
  unfold place Reflow.place
  split
  · simp [difference_eq enough]
  · simp [columnsPositive]

/-- Cut each of the lines anew; a line has a first row. -/
def rewrapFrom (oldColumns columns : Nat) (cursor : Option (Nat × Nat)) (start first : Nat) :
    List (List Row) → Option (List Row × Option (Nat × Nat))
  | [] => some ([], none)
  | line :: others => do
      let _ ← line.head?
      let offset := Reflow.cursorOffset? oldColumns start line cursor
      let rows ← slice columns ((Reflow.joined line).take (Reflow.lineLength line offset))
      let rest ←
        rewrapFrom oldColumns columns cursor (start + line.length) (first + rows.length) others
      match offset with
      | some offset => do
          let (x, row) ← place columns rows.length offset
          return (rows ++ rest.1, some (x, first + row))
      | none => return (rows ++ rest.1, rest.2)

theorem rewrapFrom_eq
    {oldColumns start first : Nat} {cursor : Option (Nat × Nat)} {groups : List (List Row)}
    (columnsPositive : 0 < columns)
    (notEmpty : ∀ line ∈ groups, line ≠ []) :
    rewrapFrom oldColumns columns cursor start first groups =
      some (Reflow.rewrapFrom oldColumns columns cursor start first groups) := by
  induction groups generalizing start first with
  | nil => rfl
  | cons line others inductionHypothesis =>
      obtain ⟨head, more, rfl⟩ := List.exists_cons_of_ne_nil (notEmpty line List.mem_cons_self)
      have rest :
          ∀ start first,
            rewrapFrom oldColumns columns cursor start first others =
              some (Reflow.rewrapFrom oldColumns columns cursor start first others) :=
        fun _ _ =>
          inductionHypothesis fun line member => notEmpty line (List.mem_cons_of_mem _ member)
      simp only [rewrapFrom, Reflow.rewrapFrom, List.head?_cons, slice_eq columnsPositive, rest,
        Option.bind_eq_bind, Option.bind_some]
      cases Reflow.cursorOffset? oldColumns start (head :: more) cursor with
      | none => rfl
      | some offset =>
          dsimp only
          rw [place_eq columnsPositive (by rw [Reflow.length_slice]; exact Reflow.rowCount_pos _ _)]
          rfl

/-! ## A new size -/

/-- The place of the cursor on a screen that begins at row `base` of the rows
left when the first `evicted` ones are lost. -/
def screenPlace (columns evicted base : Nat) :
    Option (Nat × Nat) → Option (Option (Nat × Nat))
  | none => some none
  | some (x, y) => do
      let left ← difference y evicted
      let row ← difference left base
      return some (min x columns, row)

theorem screenPlace_eq
    {evicted base : Nat} {moved : Option (Nat × Nat)}
    (inside : ∀ x y, moved = some (x, y) → evicted ≤ y ∧ base ≤ y - evicted) :
    screenPlace columns evicted base moved =
      some (moved.map fun (x, y) => (min x columns, y - evicted - base)) := by
  cases moved with
  | none => rfl
  | some position =>
      obtain ⟨left, row⟩ := inside position.1 position.2 rfl
      simp [screenPlace, difference_eq left, difference_eq row]

/-- Give both screens a new size. The storage is rotated, its first rows are
cut off when there are too many, and the cursor's row is counted again from the
first row of the screen. -/
def resize (buffer : ScreenBuffer) (lines columns : Nat) (cursor : Option (Nat × Nat)) :
    Option (ScreenBuffer × Option (Nat × Nat)) := do
  let base ← difference buffer.ring.size buffer.lines
  guard (buffer.ring.start ≤ buffer.ring.size)
  let absolute := cursor.map fun (x, y) => (x, base + y)
  let (rows, moved) ← (
    if columns = buffer.columns then some (buffer.ring.toList, absolute)
    else
      rewrapFrom buffer.columns columns absolute 0 0 (Reflow.lines buffer.ring.toList))
  let fitted := ScreenBuffer.fitRows rows (ScreenBuffer.anchor rows moved) lines columns
  let evicted := fitted.length - (buffer.historyLimit + lines)
  guard (evicted ≤ fitted.length)
  let kept := fitted.drop evicted
  let newBase ← difference kept.length lines
  let place ← screenPlace columns evicted newBase moved
  return ((buffer.resize lines columns cursor).1, place)

theorem rewrapped_eq
    (newColumnsPositive : 0 < columns)
    (cursor : Option (Nat × Nat)) :
    (if columns = buffer.columns then
        some
          (buffer.ring.toList,
            cursor.map fun (x, y) => (x, buffer.ring.size - buffer.lines + y))
      else
        rewrapFrom buffer.columns columns
          (cursor.map fun (x, y) => (x, buffer.ring.size - buffer.lines + y)) 0 0
          (Reflow.lines buffer.ring.toList)) =
      some (buffer.rewrapped columns cursor) := by
  unfold ScreenBuffer.rewrapped
  split
  · rfl
  · exact rewrapFrom_eq newColumnsPositive fun _ => Reflow.ne_nil_of_mem_lines

theorem resize_eq
    (shaped : buffer.Shaped lines columns limit)
    {newLines newColumns : Nat}
    (newLinesPositive : 0 < newLines)
    (newColumnsPositive : 0 < newColumns)
    {cursor : Option (Nat × Nat)}
    (cursorInside : ∀ x y, cursor = some (x, y) → x ≤ columns ∧ y < lines) :
    resize buffer newLines newColumns cursor =
      some (buffer.resize newLines newColumns cursor) := by
  have baseEnough : buffer.lines ≤ buffer.ring.size := shaped.lines_eq ▸ shaped.lines_le_size
  have started := Nat.le_of_lt shaped.start_lt_size
  have kept := (ScreenBuffer.length_kept_bounds shaped newLines newColumns cursor).1
  have rowsFitted :
      ScreenBuffer.fitRows (buffer.rewrapped newColumns cursor).1
          (ScreenBuffer.anchor (buffer.rewrapped newColumns cursor).1
            (buffer.rewrapped newColumns cursor).2) newLines newColumns =
        buffer.fitted newLines newColumns cursor := rfl
  have rowsEvicted :
      (buffer.fitted newLines newColumns cursor).length - (buffer.historyLimit + newLines) =
        buffer.evictedBy newLines newColumns cursor := rfl
  have evictedEnough :
      buffer.evictedBy newLines newColumns cursor ≤
        (buffer.fitted newLines newColumns cursor).length := Nat.sub_le _ _
  have rowEnough :
      ∀ x y, (buffer.rewrapped newColumns cursor).2 = some (x, y) →
        buffer.evictedBy newLines newColumns cursor ≤ y ∧
          ((buffer.fitted newLines newColumns cursor).drop
              (buffer.evictedBy newLines newColumns cursor)).length - newLines ≤
            y - buffer.evictedBy newLines newColumns cursor := by
    intro x y found
    cases cursor with
    | none =>
        rw [ScreenBuffer.rewrapped_without_cursor] at found
        cases found
    | some position =>
        obtain ⟨xInside, yInside⟩ := cursorInside position.1 position.2 rfl
        obtain ⟨movedX, movedY, moved, -, movedInside⟩ :=
          ScreenBuffer.rewrapped_cursor shaped newColumnsPositive xInside yInside
        rw [moved] at found
        cases found
        have bounds := ScreenBuffer.cursor_row_bounds newLinesPositive moved movedInside
        exact ⟨bounds.1, bounds.2.1⟩
  rw [resize, difference_eq baseEnough]
  simp only [Option.bind_eq_bind, Option.bind_some, started, guard_true, Option.pure_def,
    rewrapped_eq newColumnsPositive, rowsFitted, rowsEvicted, evictedEnough, difference_eq kept,
    screenPlace_eq rowEnough]
  rw [← ScreenBuffer.cursor_resize]

end VideoTerminal.Checked
