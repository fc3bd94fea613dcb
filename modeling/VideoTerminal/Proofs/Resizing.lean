import Mathlib.Data.List.DropRight
import VideoTerminal.Proofs.Reflow
import VideoTerminal.Terminal.Switch

/-!
A new size for the two screens. The rows of the main screen are rewrapped, cut
off or filled up below the cursor, and the oldest ones are lost when there are
more than the ring may hold; the cursor stays on the screen.
-/

namespace VideoTerminal

namespace Text

variable {alpha : Type} {drop : alpha → Bool} {items : List alpha}

theorem trimEnd_isPrefix : trimEnd drop items <+: items :=
  List.rdropWhile_prefix drop items

theorem mem_of_mem_trimEnd {item : alpha} (member : item ∈ trimEnd drop items) :
    item ∈ items :=
  trimEnd_isPrefix.subset member

theorem length_trimEnd_le : (trimEnd drop items).length ≤ items.length :=
  trimEnd_isPrefix.length_le

theorem trimEnd_append_of_all
    (items : List alpha) {others : List alpha}
    (dropped : ∀ item ∈ others, drop item = true) :
    trimEnd drop (items ++ others) = trimEnd drop items := by
  rw [trimEnd, List.reverse_append, List.dropWhile_append_of_pos, ← trimEnd]
  intro item member
  exact dropped item (List.mem_reverse.mp member)

theorem trimEnd_of_all (dropped : ∀ item ∈ items, drop item = true) :
    trimEnd drop items = [] := by
  simpa [trimEnd] using trimEnd_append_of_all [] dropped

theorem exists_trimEnd_append (drop : alpha → Bool) (items : List alpha) :
    ∃ dropped, trimEnd drop items ++ dropped = items ∧ ∀ item ∈ dropped, drop item = true :=
  ⟨items.rtakeWhile drop, List.rdropWhile_append_rtakeWhile,
    fun _ => List.mem_rtakeWhile_imp⟩

theorem trimEnd_map {beta : Type} (drop : beta → Bool) (change : alpha → beta)
    (items : List alpha) :
    trimEnd drop (items.map change) = (trimEnd (drop ∘ change) items).map change := by
  rw [trimEnd, trimEnd, ← List.map_reverse, List.dropWhile_map, List.map_reverse]

/-- What is cut off after the rest does not matter. -/
theorem trimEnd_take
    {count : Nat}
    (reaches : (trimEnd drop items).length ≤ count) :
    trimEnd drop (items.take count) = trimEnd drop items := by
  obtain ⟨dropped, whole, allDropped⟩ := exists_trimEnd_append drop items
  have cut :
      items.take count =
        trimEnd drop items ++ dropped.take (count - (trimEnd drop items).length) := by
    conv_lhs => rw [← whole]
    rw [List.take_append, List.take_of_length_le reaches]
  calc
    trimEnd drop (items.take count) = trimEnd drop (trimEnd drop items) := by
      rw [cut]
      exact trimEnd_append_of_all _ fun item member =>
        allDropped item (List.mem_of_mem_take member)
    _ = trimEnd drop (trimEnd drop items ++ dropped) :=
      (trimEnd_append_of_all _ allDropped).symm
    _ = trimEnd drop items := by rw [whole]

/-- Nothing that is kept by a filter is lost at the end. -/
theorem filter_trimEnd (drop : alpha → Bool) (items : List alpha) :
    (trimEnd drop items).filter (fun item => !drop item) =
      items.filter fun item => !drop item := by
  obtain ⟨dropped, whole, allDropped⟩ := exists_trimEnd_append drop items
  have nothing : dropped.filter (fun item => !drop item) = [] := by
    rw [List.filter_eq_nil_iff]
    intro item member
    simp [allDropped item member]
  conv_rhs => rw [← whole, List.filter_append, nothing, List.append_nil]

end Text

namespace ScreenBuffer

/-! ## Rows fitted to a screen -/

theorem lines_le_length_fitRows (rows : List Row) (anchor lines columns : Nat) :
    lines ≤ (fitRows rows anchor lines columns).length := by
  simp [fitRows]
  omega

theorem length_fitRows_le (rows : List Row) (anchor lines columns : Nat) :
    (fitRows rows anchor lines columns).length ≤ anchor + lines :=
  List.length_take_le _ _

/-- The row `anchor` is kept. -/
theorem anchor_lt_length_fitRows
    {rows : List Row} {anchor lines : Nat}
    (anchorInside : anchor < rows.length)
    (linesPositive : 0 < lines)
    (columns : Nat) :
    anchor < (fitRows rows anchor lines columns).length := by
  simp [fitRows]
  omega

theorem fitRows_width
    {rows : List Row} {anchor lines columns : Nat} {row : Row}
    (width : ∀ row ∈ rows, row.cells.length = columns)
    (member : row ∈ fitRows rows anchor lines columns) :
    row.cells.length = columns := by
  have filledMember := List.mem_of_mem_take member
  simp only [List.append_assoc, List.mem_append] at filledMember
  rcases filledMember with kept | later | new
  · exact width row (List.mem_of_mem_take kept)
  · exact width row (List.mem_of_mem_drop (Text.mem_of_mem_trimEnd later))
  · rw [List.eq_of_mem_replicate new]
    exact Row.length_filled _ _

/-! ## The two screens -/

/-- The rows of the ring at another number of columns, and the place of the
cursor among them. -/
def rewrapped (buffer : ScreenBuffer) (columns : Nat) (cursor : Option (Nat × Nat)) :
    List Row × Option (Nat × Nat) :=
  let absolute := cursor.map fun (x, y) => (x, buffer.ring.size - buffer.lines + y)
  if columns = buffer.columns then (buffer.ring.toList, absolute)
  else Reflow.rewrap buffer.ring.toList buffer.columns columns absolute

/-- The rewrapped rows, fitted to a screen of `lines` lines. -/
def fitted (buffer : ScreenBuffer) (lines columns : Nat) (cursor : Option (Nat × Nat)) :
    List Row :=
  let (rows, moved) := buffer.rewrapped columns cursor
  fitRows rows (anchor rows moved) lines columns

/-- The number of rows that the ring cannot hold after a change of size. -/
def evictedBy (buffer : ScreenBuffer) (lines columns : Nat) (cursor : Option (Nat × Nat)) :
    Nat :=
  (buffer.fitted lines columns cursor).length - (buffer.historyLimit + lines)

theorem ring_resize
    (buffer : ScreenBuffer) (lines columns : Nat) (cursor : Option (Nat × Nat)) :
    (buffer.resize lines columns cursor).1.ring =
      Ring.ofList
        ((buffer.fitted lines columns cursor).drop
          (buffer.evictedBy lines columns cursor)) := rfl

theorem cursor_resize
    (buffer : ScreenBuffer) (lines columns : Nat) (cursor : Option (Nat × Nat)) :
    (buffer.resize lines columns cursor).2 =
      (buffer.rewrapped columns cursor).2.map fun (x, y) =>
        (min x columns,
          y - buffer.evictedBy lines columns cursor -
            (((buffer.fitted lines columns cursor).drop
              (buffer.evictedBy lines columns cursor)).length - lines)) := rfl

variable {lines columns limit newLines newColumns : Nat} {buffer : ScreenBuffer}

theorem rewrapped_width
    (shaped : buffer.Shaped lines columns limit)
    {cursor : Option (Nat × Nat)} {row : Row}
    (member : row ∈ (buffer.rewrapped newColumns cursor).1) :
    row.cells.length = newColumns := by
  unfold rewrapped at member
  split at member
  · next same =>
      rw [same, shaped.columns_eq]
      exact shaped.ring_width row member
  · exact Reflow.rewrap_width member

theorem rewrapped_without_cursor (buffer : ScreenBuffer) (columns : Nat) :
    (buffer.rewrapped columns none).2 = none := by
  unfold rewrapped
  split
  · rfl
  · exact Reflow.rewrap_without_cursor _ _ _

/-- The cursor of the screen is found among the rewrapped rows. -/
theorem rewrapped_cursor
    (shaped : buffer.Shaped lines columns limit)
    (newColumnsPositive : 0 < newColumns)
    {x y : Nat}
    (xInside : x ≤ columns)
    (yInside : y < lines) :
    ∃ newX newY,
      (buffer.rewrapped newColumns (some (x, y))).2 = some (newX, newY) ∧
        newX ≤ newColumns ∧
        newY < (buffer.rewrapped newColumns (some (x, y))).1.length := by
  have enough := shaped.lines_le_size
  have linesEq := shaped.lines_eq
  have columnsEq := shaped.columns_eq
  unfold rewrapped
  split
  · exact ⟨x, _, rfl, by omega, by simp; omega⟩
  · exact Reflow.rewrap_cursor newColumnsPositive
      (by rw [columnsEq]; exact shaped.ring_width) (by omega) (by simp; omega)

theorem lines_le_length_fitted
    (buffer : ScreenBuffer) (lines columns : Nat) (cursor : Option (Nat × Nat)) :
    lines ≤ (buffer.fitted lines columns cursor).length :=
  lines_le_length_fitRows _ _ _ _

/-- At least a screen of rows is left, and at most a full ring. -/
theorem length_kept_bounds
    (shaped : buffer.Shaped lines columns limit)
    (newLines newColumns : Nat) (cursor : Option (Nat × Nat)) :
    newLines ≤
        ((buffer.fitted newLines newColumns cursor).drop
          (buffer.evictedBy newLines newColumns cursor)).length ∧
      ((buffer.fitted newLines newColumns cursor).drop
          (buffer.evictedBy newLines newColumns cursor)).length ≤ limit + newLines := by
  have enough := lines_le_length_fitted buffer newLines newColumns cursor
  have limitEq := shaped.limit_eq
  rw [List.length_drop, evictedBy]
  omega

theorem Shaped.resize
    (shaped : buffer.Shaped lines columns limit)
    (newLinesPositive : 0 < newLines)
    (newColumnsPositive : 0 < newColumns)
    (cursor : Option (Nat × Nat)) :
    (buffer.resize newLines newColumns cursor).1.Shaped newLines newColumns limit where
  lines_pos := newLinesPositive
  columns_pos := newColumnsPositive
  lines_eq := rfl
  columns_eq := rfl
  limit_eq := shaped.limit_eq
  lines_le_size := by
    rw [ring_resize, Ring.size_ofList]
    exact (length_kept_bounds shaped newLines newColumns cursor).1
  size_le_capacity := by
    rw [ring_resize, Ring.size_ofList]
    exact (length_kept_bounds shaped newLines newColumns cursor).2
  start_lt_size := by
    rw [ring_resize, Ring.size_ofList, Ring.start_ofList]
    exact Nat.lt_of_lt_of_le newLinesPositive (length_kept_bounds shaped newLines newColumns cursor).1
  start_eq_zero_or_full := Or.inl rfl
  alternate_size := by
    simp [ScreenBuffer.resize]
    omega
  ring_width := by
    intro row member
    rw [ring_resize, Ring.toList_ofList] at member
    exact fitRows_width (fun _ => rewrapped_width shaped) (List.mem_of_mem_drop member)
  alternate_width := by
    intro row member
    simp only [ScreenBuffer.resize, List.mem_toArray, List.mem_append] at member
    rcases member with kept | new
    · obtain ⟨old, -, rfl⟩ := List.mem_map.mp (List.mem_of_mem_take kept)
      exact Row.length_fit _ _
    · rw [List.eq_of_mem_replicate new]
      exact Row.length_filled _ _

/-- No more rows are lost than lie above the cursor, and then the screen
begins at the cursor's row or above it and ends below it. -/
theorem cursor_row_bounds
    (newLinesPositive : 0 < newLines)
    {cursor : Option (Nat × Nat)} {newX newY : Nat}
    (found : (buffer.rewrapped newColumns cursor).2 = some (newX, newY))
    (inside : newY < (buffer.rewrapped newColumns cursor).1.length) :
    buffer.evictedBy newLines newColumns cursor ≤ newY ∧
      ((buffer.fitted newLines newColumns cursor).drop
          (buffer.evictedBy newLines newColumns cursor)).length - newLines ≤
        newY - buffer.evictedBy newLines newColumns cursor ∧
      newY - buffer.evictedBy newLines newColumns cursor <
        ((buffer.fitted newLines newColumns cursor).drop
          (buffer.evictedBy newLines newColumns cursor)).length := by
  have fittedEq :
      buffer.fitted newLines newColumns cursor =
        fitRows (buffer.rewrapped newColumns cursor).1 newY newLines newColumns := by
    simp only [fitted, found, anchor]
  have enough := lines_le_length_fitted buffer newLines newColumns cursor
  have upper := length_fitRows_le (buffer.rewrapped newColumns cursor).1 newY newLines newColumns
  have kept := anchor_lt_length_fitRows inside newLinesPositive newColumns
  rw [← fittedEq] at upper kept
  rw [List.length_drop, evictedBy]
  omega

theorem resize_without_cursor (buffer : ScreenBuffer) (lines columns : Nat) :
    (buffer.resize lines columns none).2 = none := by
  rw [cursor_resize, rewrapped_without_cursor]
  rfl

/-- The cursor stays on the screen. -/
theorem resize_cursor
    (shaped : buffer.Shaped lines columns limit)
    (newLinesPositive : 0 < newLines)
    (newColumnsPositive : 0 < newColumns)
    {x y : Nat}
    (xInside : x ≤ columns)
    (yInside : y < lines) :
    ∃ newX newY,
      (buffer.resize newLines newColumns (some (x, y))).2 = some (newX, newY) ∧
        newX ≤ newColumns ∧ newY < newLines := by
  obtain ⟨movedX, movedY, found, xBound, yBound⟩ :=
    rewrapped_cursor shaped newColumnsPositive xInside yInside
  have bounds := cursor_row_bounds newLinesPositive found yBound
  rw [cursor_resize, found]
  exact ⟨_, _, rfl, Nat.min_le_right _ _, by omega⟩

end ScreenBuffer

/-- A size is refused when it has no cells or is the size that there is. -/
theorem Terminal.resize?_refused
    {terminal : Terminal} {lines columns : Nat}
    (refused : terminal.resize? lines columns = none) :
    lines = 0 ∨ columns = 0 ∨ (lines = terminal.lines ∧ columns = terminal.columns) := by
  unfold Terminal.resize? at refused
  split at refused
  · next same => exact same
  · cases refused

/-- While the main screen is shown, an accepted size resizes its rows, and the
cursor goes where they go. -/
theorem Terminal.resize?_of_main
    {terminal resized : Terminal} {lines columns : Nat}
    (main : terminal.onAlternate = false)
    (accepted : terminal.resize? lines columns = some resized) :
    0 < lines ∧ 0 < columns ∧
      resized.buffer =
        (terminal.buffer.resize lines columns
          (some (terminal.cursor.x, terminal.cursor.y))).1 ∧
      ∀ place ∈
          (terminal.buffer.resize lines columns
            (some (terminal.cursor.x, terminal.cursor.y))).2,
        resized.cursor = ⟨place.1, place.2⟩ := by
  unfold Terminal.resize? at accepted
  split at accepted
  · cases accepted
  · next valid =>
      have notAlternate : ¬ terminal.onAlternate = true := by
        rw [main]
        decide
      dsimp only at accepted
      rw [if_neg notAlternate] at accepted
      obtain rfl := Option.some.inj accepted
      refine ⟨by omega, by omega, rfl, ?_⟩
      intro place found
      dsimp only
      rw [Option.mem_def.mp found]

end VideoTerminal
