import VideoTerminal.Grid.LogicalLine
import VideoTerminal.Grid.Resize
import VideoTerminal.Proofs.Ring

/-!
The shape of the two screens: how many rows the ring and the alternate screen
hold, where the ring begins, and that every row is as wide as the screen. All
that is done to the rows of a screen leaves its shape as it is.
-/

namespace VideoTerminal

/-! ## The width of a row -/

namespace Row

variable (row : Row)

@[simp]
theorem length_filled (columns : Nat) (fill : Cell) :
    (filled columns fill).cells.length = columns := by
  simp [filled]

@[simp]
theorem length_clear (fill : Cell) :
    (row.clear fill).cells.length = row.cells.length := by
  simp [clear]

@[simp]
theorem length_put (column : Nat) (cell : Cell) :
    (row.put column cell).cells.length = row.cells.length := by
  simp [put]

@[simp]
theorem length_insert (column : Nat) (cell : Cell) :
    (row.insert column cell).cells.length = row.cells.length := by
  simp [insert]
  omega

@[simp]
theorem length_openGap (column count : Nat) (fill : Cell) :
    (row.openGap column count fill).cells.length = row.cells.length := by
  simp [openGap]
  omega

theorem length_fillSpan
    {start stop : Nat}
    (ordered : start ≤ stop)
    (inside : stop ≤ row.cells.length)
    (fill : Cell) :
    (row.fillSpan start stop fill).cells.length = row.cells.length := by
  simp [fillSpan]
  omega

theorem length_closeGap
    {column count : Nat}
    (inside : column + count ≤ row.cells.length)
    (fill : Cell) :
    (row.closeGap column count fill).cells.length = row.cells.length := by
  simp [closeGap]
  omega

@[simp]
theorem length_fit (columns : Nat) :
    (row.fit columns).cells.length = columns := by
  simp [fit]
  omega

end Row

namespace ScreenBuffer

/-- The screens have `lines` rows of `columns` cells, at least one of each,
and the history has at most `limit` rows more. The ring begins elsewhere than
at its first slot only when it is full. -/
structure Shaped (lines columns limit : Nat) (buffer : ScreenBuffer) : Prop where
  lines_pos : 0 < lines
  columns_pos : 0 < columns
  lines_eq : buffer.lines = lines
  columns_eq : buffer.columns = columns
  limit_eq : buffer.historyLimit = limit
  lines_le_size : lines ≤ buffer.ring.size
  size_le_capacity : buffer.ring.size ≤ limit + lines
  start_lt_size : buffer.ring.start < buffer.ring.size
  start_eq_zero_or_full : buffer.ring.start = 0 ∨ buffer.ring.size = limit + lines
  alternate_size : buffer.alternate.size = lines
  ring_width : ∀ row ∈ buffer.ring.toList, row.cells.length = columns
  alternate_width : ∀ row ∈ buffer.alternate, row.cells.length = columns

@[simp]
theorem composedSize_modifyComposed
    (buffer : ScreenBuffer) (index : Nat) (change : Row → Row) :
    (buffer.modifyComposed index change).composedSize = buffer.composedSize := by
  unfold composedSize modifyComposed
  by_cases onAlternate : buffer.onAlternate <;> simp [onAlternate]

theorem composedSize_foldl
    {item : Type} {step : ScreenBuffer → item → ScreenBuffer}
    (keeps : ∀ current each, (step current each).composedSize = current.composedSize)
    (buffer : ScreenBuffer) (items : List item) :
    (items.foldl step buffer).composedSize = buffer.composedSize := by
  induction items generalizing buffer with
  | nil => rfl
  | cons head rest inductionHypothesis =>
      rw [List.foldl_cons, inductionHypothesis, keeps]

@[simp]
theorem composedSize_stamp (buffer : ScreenBuffer) (index x : Nat) :
    (buffer.stamp index x).composedSize = buffer.composedSize :=
  composedSize_foldl (fun _ _ => composedSize_modifyComposed _ _ _) _ _

theorem lineStart_le (buffer : ScreenBuffer) (index : Nat) :
    buffer.lineStart index ≤ index := by
  induction index with
  | zero => exact Nat.le_refl 0
  | succ index inductionHypothesis =>
      unfold lineStart
      split <;> omega

theorem lineEndWithin_bounds (buffer : ScreenBuffer) (index remaining : Nat) :
    index ≤ buffer.lineEndWithin index remaining ∧
      buffer.lineEndWithin index remaining ≤ index + remaining := by
  induction remaining generalizing index with
  | zero => exact ⟨Nat.le_refl index, Nat.le_refl index⟩
  | succ remaining inductionHypothesis =>
      have next := inductionHypothesis (index + 1)
      unfold lineEndWithin
      split <;> omega

theorem lineEnd_bounds
    {buffer : ScreenBuffer} {index : Nat}
    (inside : index < buffer.composedSize) :
    index ≤ buffer.lineEnd index ∧ buffer.lineEnd index < buffer.composedSize := by
  have bounds := buffer.lineEndWithin_bounds index (buffer.composedSize - (index + 1))
  unfold lineEnd
  omega

namespace Shaped

variable {lines columns limit : Nat} {buffer : ScreenBuffer}

theorem blank
    (linesPositive : 0 < lines)
    (columnsPositive : 0 < columns)
    (limit : Nat) :
    (ScreenBuffer.blank lines columns limit).Shaped lines columns limit where
  lines_pos := linesPositive
  columns_pos := columnsPositive
  lines_eq := rfl
  columns_eq := rfl
  limit_eq := rfl
  lines_le_size := by simp [ScreenBuffer.blank]
  size_le_capacity := by simp [ScreenBuffer.blank]
  start_lt_size := by simpa [ScreenBuffer.blank] using linesPositive
  start_eq_zero_or_full := Or.inl rfl
  alternate_size := by simp [ScreenBuffer.blank]
  ring_width := by simp [ScreenBuffer.blank, Row.filled]
  alternate_width := by simp [ScreenBuffer.blank, Row.filled]

theorem composedSize_eq (shaped : buffer.Shaped lines columns limit) :
    buffer.composedSize = if buffer.onAlternate then lines else buffer.ring.size := by
  rw [composedSize, shaped.lines_eq]

theorem lines_le_composedSize (shaped : buffer.Shaped lines columns limit) :
    lines ≤ buffer.composedSize := by
  rw [shaped.composedSize_eq]
  split
  · exact Nat.le_refl lines
  · exact shaped.lines_le_size

/-- The rows of the screen are the last ones. -/
theorem screenBase_add_lines (shaped : buffer.Shaped lines columns limit) :
    buffer.screenBase + lines = buffer.composedSize := by
  have enough := shaped.lines_le_composedSize
  rw [screenBase, shaped.lines_eq]
  omega

theorem composedRow_width
    (shaped : buffer.Shaped lines columns limit)
    {index : Nat}
    (inside : index < buffer.composedSize) :
    (buffer.composedRow index).cells.length = columns := by
  rw [shaped.composedSize_eq] at inside
  unfold composedRow
  split
  · next onAlternate =>
      have indexInside : index < buffer.alternate.size := by
        simpa [onAlternate, shaped.alternate_size] using inside
      rw [Array.getElem?_eq_getElem indexInside]
      exact shaped.alternate_width _ (Array.getElem_mem indexInside)
  · obtain ⟨row, found⟩ := Ring.exists_get? shaped.start_lt_size index
    simpa [ringRow, found] using shaped.ring_width row (Ring.get?_mem found)

/-! ## Changes of rows -/

/-- The rows of the ring may be changed, as long as they keep their width. -/
theorem replaceRing
    (shaped : buffer.Shaped lines columns limit)
    {ring : Ring Row}
    (sameSize : ring.size = buffer.ring.size)
    (sameStart : ring.start = buffer.ring.start)
    (width : ∀ row ∈ ring.toList, row.cells.length = columns) :
    { buffer with ring }.Shaped lines columns limit :=
  { shaped with
    lines_le_size := by rw [sameSize]; exact shaped.lines_le_size
    size_le_capacity := by rw [sameSize]; exact shaped.size_le_capacity
    start_lt_size := by rw [sameSize, sameStart]; exact shaped.start_lt_size
    start_eq_zero_or_full := by
      rw [sameSize, sameStart]; exact shaped.start_eq_zero_or_full
    ring_width := width }

theorem modifyComposed
    (shaped : buffer.Shaped lines columns limit)
    (index : Nat) {change : Row → Row}
    (keeps : ∀ row : Row, row.cells.length = columns → (change row).cells.length = columns) :
    (buffer.modifyComposed index change).Shaped lines columns limit := by
  unfold ScreenBuffer.modifyComposed
  split
  · exact
      { shaped with
        alternate_size := by simpa using shaped.alternate_size
        alternate_width :=
          Ring.forall_mem_array_modify shaped.alternate_width index keeps }
  · exact shaped.replaceRing (Ring.size_modify _ _ _) rfl
      (Ring.forall_mem_modify shaped.ring_width index keeps)

theorem modifyScreen
    (shaped : buffer.Shaped lines columns limit)
    (y : Nat) {change : Row → Row}
    (keeps : ∀ row : Row, row.cells.length = columns → (change row).cells.length = columns) :
    (buffer.modifyScreen y change).Shaped lines columns limit :=
  shaped.modifyComposed _ keeps

theorem swapScreen
    (shaped : buffer.Shaped lines columns limit) (first second : Nat) :
    (buffer.swapScreen first second).Shaped lines columns limit := by
  unfold ScreenBuffer.swapScreen
  split
  · exact
      { shaped with
        alternate_size := by simpa using shaped.alternate_size
        alternate_width := fun row member =>
          shaped.alternate_width row ((Ring.mem_array_swap _ _).mp member) }
  · exact shaped.replaceRing (Ring.size_swap _ _ _) rfl fun row member =>
      shaped.ring_width row ((Ring.mem_swap _ _).mp member)

/-- A loop over steps that keep the shape keeps it too. -/
theorem foldl
    {item : Type} {items : List item} {step : ScreenBuffer → item → ScreenBuffer}
    (keeps : ∀ current each, current.Shaped lines columns limit →
      (step current each).Shaped lines columns limit)
    (shaped : buffer.Shaped lines columns limit) :
    (items.foldl step buffer).Shaped lines columns limit := by
  induction items generalizing buffer with
  | nil => exact shaped
  | cons head rest inductionHypothesis =>
      exact inductionHypothesis (keeps buffer head shaped)

theorem clearScreenRows
    (shaped : buffer.Shaped lines columns limit) (top count : Nat) (fill : Cell) :
    (buffer.clearScreenRows top count fill).Shaped lines columns limit :=
  foldl (fun _ _ current => current.modifyScreen _ (by simp)) shaped

theorem showAlternate
    (shaped : buffer.Shaped lines columns limit) (alternate : Bool) :
    (buffer.showAlternate alternate).Shaped lines columns limit :=
  { shaped with }

theorem clearAlternate
    (shaped : buffer.Shaped lines columns limit) (fill : Cell) :
    (buffer.clearAlternate fill).Shaped lines columns limit :=
  { shaped with
    alternate_size := by simpa [ScreenBuffer.clearAlternate] using shaped.alternate_size
    alternate_width := by
      intro row member
      obtain ⟨old, oldMember, rfl⟩ := Array.mem_map.mp member
      simpa using shaped.alternate_width old oldMember }

/-- Only a full ring gives up its oldest row; its storage then begins at the
next one. -/
theorem advance
    (shaped : buffer.Shaped lines columns limit) (fill : Cell) :
    (buffer.advance fill).1.Shaped lines columns limit := by
  unfold ScreenBuffer.advance
  have startInside := shaped.start_lt_size
  split
  · next notFull =>
      rw [capacity, shaped.limit_eq, shaped.lines_eq] at notFull
      have straight : buffer.ring.start = 0 := by
        have := shaped.start_eq_zero_or_full
        omega
      have lower := shaped.lines_le_size
      exact
        { shaped with
          lines_le_size := by simp; omega
          size_le_capacity := by simp; omega
          start_lt_size := by simp; omega
          start_eq_zero_or_full := Or.inl straight
          ring_width := by
            intro row member
            rw [Ring.toList_push straight, List.mem_append, List.mem_singleton] at member
            rcases member with old | rfl
            · exact shaped.ring_width row old
            · simpa using shaped.columns_eq }
  · next full =>
      rw [capacity, shaped.limit_eq, shaped.lines_eq] at full
      have upper := shaped.size_le_capacity
      exact
        { shaped with
          lines_le_size := by simpa using shaped.lines_le_size
          size_le_capacity := by simpa using upper
          start_lt_size := by
            rw [Ring.size_recycle]
            exact Nat.mod_lt _ (by rw [← Ring.size]; omega)
          start_eq_zero_or_full := Or.inr (by simp; omega)
          ring_width :=
            Ring.forall_mem_recycle shaped.ring_width (by simp) }

theorem scrollRows
    (shaped : buffer.Shaped lines columns limit)
    (top bottom : Nat) (amount : Int) (fill : Cell) :
    (buffer.scrollRows top bottom amount fill).Shaped lines columns limit := by
  unfold ScreenBuffer.scrollRows
  split
  · exact shaped
  · split
    · exact
        (foldl (fun _ _ current => current.swapScreen _ _) shaped).clearScreenRows _ _ fill
    · exact
        (foldl (fun _ _ current => current.swapScreen _ _) shaped).clearScreenRows _ _ fill

theorem clearHistory
    (shaped : buffer.Shaped lines columns limit) :
    buffer.clearHistory.Shaped lines columns limit := by
  have enough := shaped.lines_le_size
  have linesEq := shaped.lines_eq
  have sizeEq : buffer.clearHistory.ring.size = lines := by
    simp only [ScreenBuffer.clearHistory, Ring.size_keepLast]
    omega
  exact
    { shaped with
      lines_le_size := Nat.le_of_eq sizeEq.symm
      size_le_capacity := by rw [sizeEq]; omega
      start_lt_size := by rw [sizeEq]; exact shaped.lines_pos
      start_eq_zero_or_full := Or.inl rfl
      ring_width := fun row member =>
        shaped.ring_width row (List.mem_of_mem_drop (Ring.toList_keepLast _ _ ▸ member)) }

/-! ## Stamps -/

theorem stamp
    (shaped : buffer.Shaped lines columns limit) (index x : Nat) :
    (buffer.stamp index x).Shaped lines columns limit :=
  foldl (fun _ _ current => current.modifyComposed _ fun _ width => width) shaped

theorem continueLine
    (shaped : buffer.Shaped lines columns limit) (y : Nat) :
    (buffer.continueLine y).Shaped lines columns limit :=
  shaped.modifyScreen y fun _ width => width

theorem completeLine
    (shaped : buffer.Shaped lines columns limit) (x y : Nat) :
    (buffer.completeLine x y).Shaped lines columns limit :=
  shaped.stamp _ x

theorem beginLine
    (shaped : buffer.Shaped lines columns limit) (y : Nat) :
    (buffer.beginLine y).Shaped lines columns limit := by
  unfold ScreenBuffer.beginLine
  apply stamp
  split
  · apply stamp
    apply modifyComposed
    · exact shaped.modifyComposed _ fun _ width => width
    · exact fun _ width => width
  · exact shaped.modifyComposed _ fun _ width => width

end Shaped

end ScreenBuffer

end VideoTerminal
