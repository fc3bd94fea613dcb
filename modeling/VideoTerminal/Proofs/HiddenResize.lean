import VideoTerminal.Proofs.Isolation
import VideoTerminal.Proofs.ScreenRows

/-!
A new size while the main screen is not shown. Its rows are rewrapped as ever,
but nobody knows its cursor then: the screen ends with the last row that is not
blank, where it would otherwise keep the cursor's row in sight, and the cursor
returns to its old row of the screen.
-/

namespace VideoTerminal

/-- The items down to the last one that is kept, and `count` at least. -/
theorem Text.take_append_trimEnd_drop
    {alpha : Type} (drop : alpha → Bool) (items : List alpha) (count : Nat) :
    items.take count ++ trimEnd drop (items.drop count) =
      items.take (max count (trimEnd drop items).length) := by
  obtain ⟨dropped, whole, allDropped⟩ := exists_trimEnd_append drop items
  have last (some : trimEnd drop items ≠ []) :
      ¬ drop ((trimEnd drop items).getLast some) = true :=
    List.rdropWhile_last_not drop items some
  generalize trimEnd drop items = kept at whole last ⊢
  subst whole
  rcases Nat.lt_or_ge count kept.length with before | after
  · have cut : trimEnd drop (kept.drop count) = kept.drop count := by
      refine List.rdropWhile_eq_self_iff.mpr fun some => ?_
      rw [List.getLast_drop]
      exact last _
    rw [Nat.max_eq_right (Nat.le_of_lt before), List.take_left,
      List.take_append_of_le_length (Nat.le_of_lt before),
      List.drop_append_of_le_length (Nat.le_of_lt before), trimEnd_append_of_all _ allDropped, cut,
      List.take_append_drop]
  · have nothing : trimEnd drop ((kept ++ dropped).drop count) = [] := by
      refine trimEnd_of_all fun item member => allDropped item ?_
      rw [List.drop_append, List.drop_of_length_le after, List.nil_append] at member
      exact List.mem_of_mem_drop member
    rw [Nat.max_eq_left after, nothing, List.append_nil]

/-- Nothing can be told from a blank cell. -/
theorem Cell.eq_of_isBlank {cell : Cell} (blank : cell.isBlank = true) : cell = {} := by
  obtain ⟨char, rendition⟩ := cell
  rw [Cell.isBlank, Bool.and_eq_true, beq_iff_eq, beq_iff_eq] at blank
  obtain ⟨rfl, rfl⟩ := blank
  rfl

theorem Row.cells_of_isBlank {row : Row} (blank : row.isBlank = true) :
    row.cells = List.replicate row.cells.length {} := by
  have empty := Reflow.isEmpty_of_isBlank blank
  rw [Row.isEmpty, List.all_eq_true] at empty
  exact List.eq_replicate_iff.mpr ⟨rfl, fun cell member => Cell.eq_of_isBlank (empty cell member)⟩

namespace ScreenBuffer

/-! ## Rows fitted to a screen, one by one -/

/-- The number of rows down to the last one that is not blank. -/
def contentHeight (rows : List Row) : Nat :=
  (Text.trimEnd Row.isBlank rows).length

/-- The cells of a row, or of a blank one after the last. -/
def cellsAt (rows : List Row) (columns index : Nat) : List Cell :=
  (rows[index]?.getD (Row.filled columns {})).cells

variable {rows : List Row} {anchor lines columns index : Nat}

theorem fitRows_eq (rows : List Row) (anchor lines columns : Nat) :
    fitRows rows anchor lines columns =
      let kept := rows.take (max (anchor + 1) (contentHeight rows))
      (kept ++ List.replicate (lines - kept.length) (Row.filled columns {})).take
        (anchor + lines) := by
  rw [fitRows, Text.take_append_trimEnd_drop]
  rfl

theorem length_fitRows (rows : List Row) (anchor lines columns : Nat) :
    (fitRows rows anchor lines columns).length =
      min (max (min (max (anchor + 1) (contentHeight rows)) rows.length) lines)
        (anchor + lines) := by
  rw [fitRows_eq]
  simp only [List.length_take, List.length_append, List.length_replicate]
  omega

/-- Below its content a list of rows is blank. -/
theorem cellsAt_of_contentHeight_le
    (width : ∀ row ∈ rows, row.cells.length = columns)
    (below : contentHeight rows ≤ index) :
    cellsAt rows columns index = List.replicate columns {} := by
  rw [cellsAt]
  cases found : rows[index]? with
  | none => rfl
  | some row =>
      obtain ⟨dropped, whole, allDropped⟩ := Text.exists_trimEnd_append Row.isBlank rows
      have blank : row.isBlank = true := by
        rw [← whole, List.getElem?_append_right below] at found
        exact allDropped row (List.mem_of_getElem? found)
      rw [Option.getD_some, Row.cells_of_isBlank blank, width row (List.mem_of_getElem? found)]

theorem cellsAt_fitRows
    (width : ∀ row ∈ rows, row.cells.length = columns)
    (inside : index < (fitRows rows anchor lines columns).length) :
    cellsAt (fitRows rows anchor lines columns) columns index = cellsAt rows columns index := by
  rw [fitRows_eq] at inside ⊢
  dsimp only at inside ⊢
  have early : index < anchor + lines := by
    rw [List.length_take] at inside
    omega
  rw [cellsAt, List.getElem?_take_of_lt early]
  rcases Nat.lt_or_ge index (max (anchor + 1) (contentHeight rows)) with kept | filled
  · rcases Nat.lt_or_ge index rows.length with old | new
    · rw [List.getElem?_append_left (by rw [List.length_take]; omega),
        List.getElem?_take_of_lt kept]
      rfl
    · rw [cellsAt, List.getElem?_eq_none new, List.getElem?_append_right
        (by rw [List.length_take]; omega), List.getElem?_replicate]
      split <;> rfl
  · rw [cellsAt_of_contentHeight_le width (by omega)]
    rw [List.getElem?_append_right (by rw [List.length_take]; omega), List.getElem?_replicate]
    split <;> rfl

end ScreenBuffer

/-! ## Rows rewrapped with the cursor and without it -/

namespace ScreenBuffer

variable {first second : List Row}

end ScreenBuffer

namespace Reflow

end Reflow

namespace ScreenBuffer

variable {lines columns limit : Nat} {buffer after : ScreenBuffer}

/-- The screen shows the end of the fitted rows. -/
theorem cells_screenRow_resize
    (shaped : after.Shaped lines columns limit)
    (main : after.onAlternate = false)
    {cursor : Option (Nat × Nat)}
    (resized : after.ring = (buffer.resize lines columns cursor).1.ring)
    {k : Nat}
    (inside : k < lines) :
    (after.screenRow k).cells =
      cellsAt (buffer.fitted lines columns cursor) columns
        ((buffer.fitted lines columns cursor).length - lines + k) := by
  have enough := lines_le_length_fitted buffer lines columns cursor
  have base :
      after.screenBase =
        (buffer.fitted lines columns cursor).length - buffer.evictedBy lines columns cursor -
          lines := by
    rw [screenBase, composedSize, main, if_neg Bool.false_ne_true, shaped.lines_eq, resized,
      ring_resize, Ring.size_ofList, List.length_drop]
  have index :
      buffer.evictedBy lines columns cursor + (after.screenBase + k) =
        (buffer.fitted lines columns cursor).length - lines + k := by
    rw [base, evictedBy]
    omega
  rw [shaped.screenRow_eq inside, shown_rowLists, main, if_neg Bool.false_ne_true, resized,
    ring_resize, Ring.toList_ofList, List.getElem?_drop, index, cellsAt]
  rw [List.getElem?_eq_getElem (by omega)]
  rfl

/-- With the cursor known, its row stays in sight. -/
theorem length_fitted_some
    {rows : List Row} {cursor : Option (Nat × Nat)} {x y : Nat}
    (found : buffer.rewrapped columns cursor = (rows, some (x, y)))
    (inside : y < rows.length)
    (linesPositive : 0 < lines) :
    (buffer.fitted lines columns cursor).length - lines =
      min (max (y + 1) (contentHeight rows) - lines) y := by
  have content : contentHeight rows ≤ rows.length := Text.length_trimEnd_le
  have fittedEq : buffer.fitted lines columns cursor = fitRows rows y lines columns := by
    rw [fitted, found]
    rfl
  rw [fittedEq, length_fitRows]
  omega

/-- Fitting rows to the screen changes none of those that stay. -/
theorem cellsAt_fitted
    {oldLines oldColumns : Nat}
    (shaped : buffer.Shaped oldLines oldColumns limit)
    {cursor : Option (Nat × Nat)} {k : Nat}
    (inside : k < lines) :
    cellsAt (buffer.fitted lines columns cursor) columns
        ((buffer.fitted lines columns cursor).length - lines + k) =
      cellsAt (buffer.rewrapped columns cursor).1 columns
        ((buffer.fitted lines columns cursor).length - lines + k) := by
  have enough := lines_le_length_fitted buffer lines columns cursor
  have index :
      (buffer.fitted lines columns cursor).length - lines + k <
        (buffer.fitted lines columns cursor).length := by omega
  exact cellsAt_fitRows (fun _ => rewrapped_width shaped) index

end ScreenBuffer

namespace Terminal

open ScreenBuffer (contentHeight cellsAt)

variable {lines columns limit : Nat} {terminal direct visited : Terminal}

end Terminal

namespace Console

open ScreenBuffer (contentHeight cellsAt)

variable {limit lines columns : Nat} {console : Console} {direct : Terminal}

end Console

end VideoTerminal
