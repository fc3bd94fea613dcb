import VideoTerminal.Proofs.RowLists

/-!
The rows of the screen after an operation on the buffer. Stamps leave every
cell as it is; a row that is written, or a region that is scrolled, leaves the
other rows. An edit of a row leaves the cells that it is not about.
-/

namespace VideoTerminal

theorem RowLists.shown_modifyShown (lists : RowLists) (change : List Row → List Row) :
    (lists.modifyShown change).shown = change lists.shown := by
  unfold modifyShown shown
  by_cases onAlternate : lists.onAlternate <;> simp [onAlternate]

theorem Ring.map_toList_modify
    {alpha beta : Type} (ring : Ring alpha) (index : Nat)
    {change : alpha → alpha} {look : alpha → beta}
    (same : ∀ item, look (change item) = look item) :
    (ring.modify index change).toList.map look = ring.toList.map look := by
  have slots :
      (ring.slots.toList.modify (ring.slot index) change).map look =
        ring.slots.toList.map look := by
    apply List.ext_getElem?
    intro place
    rw [List.getElem?_map, List.getElem?_map, List.getElem?_modify]
    cases ring.slots.toList[place]? with
    | none => rfl
    | some item =>
        simp only [Option.map_eq_map, Option.map_some]
        split
        · rw [same]
        · rfl
  simp only [toList, modify, Array.toList_modify, List.map_append, List.map_drop, List.map_take,
    slots]

/-! ## Cells of a row that an edit leaves -/

namespace Row

variable {row : Row} {column x : Nat}

theorem getElem?_put_of_ne (different : x ≠ column) (cell : Cell) :
    (row.put column cell).cells[x]? = row.cells[x]? :=
  List.getElem?_set_ne (Ne.symm different)

/-- A list of the same length agrees with another one as far as their common
beginning goes. -/
theorem getElem?_take_append
    (cells rest : List Cell)
    (before : x < column)
    (inside : x < cells.length) :
    ((cells.take column ++ rest).take cells.length)[x]? = cells[x]? := by
  have kept : x < (cells.take column).length := by
    rw [List.length_take]
    omega
  rw [List.getElem?_take_of_lt inside, List.getElem?_append_left kept,
    List.getElem?_take_of_lt before]

theorem getElem?_insert_of_lt (before : x < column) (inside : x < row.cells.length) (cell : Cell) :
    (row.insert column cell).cells[x]? = row.cells[x]? :=
  getElem?_take_append row.cells _ before inside

theorem getElem?_openGap_of_lt
    (before : x < column) (inside : x < row.cells.length) (count : Nat) (fill : Cell) :
    (row.openGap column count fill).cells[x]? = row.cells[x]? := by
  unfold openGap
  rw [List.append_assoc]
  exact getElem?_take_append row.cells _ before inside

theorem getElem?_closeGap_of_lt
    (before : x < column) (inside : x < row.cells.length) (count : Nat) (fill : Cell) :
    (row.closeGap column count fill).cells[x]? = row.cells[x]? := by
  have kept : x < (row.cells.take column).length := by
    rw [List.length_take]
    omega
  unfold closeGap
  rw [List.append_assoc, List.getElem?_append_left kept, List.getElem?_take_of_lt before]

theorem getElem?_fillSpan_of_outside
    {start stop : Nat}
    (ordered : start ≤ stop)
    (inside : stop ≤ row.cells.length)
    (outside : x < start ∨ stop ≤ x)
    (fill : Cell) :
    (row.fillSpan start stop fill).cells[x]? = row.cells[x]? := by
  have startLength : (row.cells.take start).length = start := by
    rw [List.length_take]
    omega
  unfold fillSpan
  dsimp only
  rw [List.append_assoc]
  rcases outside with before | after
  · rw [List.getElem?_append_left (by omega), List.getElem?_take_of_lt before]
  · have remaining : stop + (x - start - (stop - start)) = x := by omega
    rw [List.getElem?_append_right (by omega), startLength,
      List.getElem?_append_right (by rw [List.length_replicate]; omega), List.length_replicate,
      List.getElem?_drop, remaining]

end Row

namespace ScreenBuffer

/-! ## Stamps leave the cells -/

/-- The second buffer has the cells of the first; only stamps of rows may be
others. -/
structure SameCells (first second : ScreenBuffer) : Prop where
  lines_eq : second.lines = first.lines
  columns_eq : second.columns = first.columns
  limit_eq : second.historyLimit = first.historyLimit
  onAlternate_eq : second.onAlternate = first.onAlternate
  main_eq : second.ring.toList.map Row.cells = first.ring.toList.map Row.cells
  alternate_eq : second.alternate.toList.map Row.cells = first.alternate.toList.map Row.cells

namespace SameCells

variable {first second third : ScreenBuffer}

theorem refl (buffer : ScreenBuffer) : buffer.SameCells buffer :=
  ⟨rfl, rfl, rfl, rfl, rfl, rfl⟩

theorem trans
    (before : first.SameCells second)
    (after : second.SameCells third) :
    first.SameCells third where
  lines_eq := after.lines_eq.trans before.lines_eq
  columns_eq := after.columns_eq.trans before.columns_eq
  limit_eq := after.limit_eq.trans before.limit_eq
  onAlternate_eq := after.onAlternate_eq.trans before.onAlternate_eq
  main_eq := after.main_eq.trans before.main_eq
  alternate_eq := after.alternate_eq.trans before.alternate_eq

theorem modifyComposed
    (buffer : ScreenBuffer) (index : Nat) {change : Row → Row}
    (same : ∀ row : Row, (change row).cells = row.cells) :
    buffer.SameCells (buffer.modifyComposed index change) := by
  unfold ScreenBuffer.modifyComposed
  split
  · refine { refl buffer with alternate_eq := ?_ }
    have straight := (Ring.mk buffer.alternate 0).map_toList_modify index same
    by_cases inside : index < buffer.alternate.size
    · simpa [Ring.toList, Ring.modify, Ring.slot, Nat.mod_eq_of_lt inside] using straight
    · have nothing : buffer.alternate.modify index change = buffer.alternate := by
        apply Array.ext_getElem?
        intro place
        rw [Array.getElem?_modify]
        split
        · next here =>
            subst here
            rw [Array.getElem?_eq_none (by omega), Option.map_none]
        · rfl
      rw [nothing]
  · exact { refl buffer with main_eq := buffer.ring.map_toList_modify index same }

theorem foldl
    {item : Type} {step : ScreenBuffer → item → ScreenBuffer}
    (keeps : ∀ (current : ScreenBuffer) (each : item), current.SameCells (step current each))
    (buffer : ScreenBuffer) (items : List item) :
    buffer.SameCells (items.foldl step buffer) :=
  List.foldlRecOn items step (motive := buffer.SameCells) (refl buffer)
    fun current same each _ => same.trans (keeps current each)

theorem stamp (buffer : ScreenBuffer) (index x : Nat) :
    buffer.SameCells (buffer.stamp index x) :=
  foldl (fun current _ => modifyComposed current _ fun _ => by rfl) buffer _

theorem continueLine (buffer : ScreenBuffer) (y : Nat) :
    buffer.SameCells (buffer.continueLine y) :=
  modifyComposed buffer _ fun _ => by rfl

theorem completeLine (buffer : ScreenBuffer) (x y : Nat) :
    buffer.SameCells (buffer.completeLine x y) :=
  stamp buffer _ x

theorem beginLine (buffer : ScreenBuffer) (y : Nat) :
    buffer.SameCells (buffer.beginLine y) := by
  unfold ScreenBuffer.beginLine
  extract_lets index row parted first tail ended
  have partedSame : buffer.SameCells parted := modifyComposed buffer index fun _ => by rfl
  have endedSame : buffer.SameCells ended := by
    dsimp only [ended]
    split
    · exact (partedSame.trans (modifyComposed parted first fun _ => by rfl)).trans (stamp _ _ _)
    · exact partedSame
  exact endedSame.trans (stamp _ _ _)

theorem size_eq (same : first.SameCells second) : second.ring.size = first.ring.size := by
  have lengths := congrArg List.length same.main_eq
  simpa using lengths

theorem screenBase_eq (same : first.SameCells second) :
    second.screenBase = first.screenBase := by
  rw [screenBase, screenBase, composedSize, composedSize, same.onAlternate_eq, same.lines_eq,
    same.size_eq]

theorem shown_eq (same : first.SameCells second) :
    second.rowLists.shown.map Row.cells = first.rowLists.shown.map Row.cells := by
  rw [shown_rowLists, shown_rowLists, same.onAlternate_eq]
  split
  · exact same.alternate_eq
  · exact same.main_eq

end SameCells

namespace Shaped

variable {lines columns limit : Nat} {buffer other : ScreenBuffer}

/-! ## Rows that stay -/

theorem screenRow_eq
    (shaped : buffer.Shaped lines columns limit)
    {y : Nat}
    (inside : y < lines) :
    buffer.screenRow y = buffer.rowLists.shown[buffer.screenBase + y]?.getD {} :=
  shaped.composedRow_eq (shaped.screenBase_add_lt inside)

theorem cells_screenRow
    (shaped : buffer.Shaped lines columns limit)
    {y : Nat}
    (inside : y < lines) :
    (buffer.screenRow y).cells =
      (buffer.rowLists.shown.map Row.cells)[buffer.screenBase + y]?.getD [] := by
  rw [shaped.screenRow_eq inside, List.getElem?_map]
  cases buffer.rowLists.shown[buffer.screenBase + y]? <;> rfl

theorem cells_screenRow_of_sameCells
    (shaped : buffer.Shaped lines columns limit)
    (after : other.Shaped lines columns limit)
    (same : buffer.SameCells other)
    {y : Nat}
    (inside : y < lines) :
    (other.screenRow y).cells = (buffer.screenRow y).cells := by
  rw [after.cells_screenRow inside, shaped.cells_screenRow inside, same.screenBase_eq,
    same.shown_eq]

theorem composedSize_of_modifyShown
    {change : List Row → List Row}
    (shaped : buffer.Shaped lines columns limit)
    (after : other.Shaped lines columns limit)
    (changed : other.rowLists = buffer.rowLists.modifyShown change)
    (sameLength : (change buffer.rowLists.shown).length = buffer.rowLists.shown.length) :
    other.composedSize = buffer.composedSize := by
  rw [← after.length_shown, changed, RowLists.shown_modifyShown, sameLength, shaped.length_shown]

/-- A row after a change of the rows shown that neither adds nor takes away
rows. -/
theorem composedRow_of_modifyShown
    {change : List Row → List Row}
    (shaped : buffer.Shaped lines columns limit)
    (after : other.Shaped lines columns limit)
    (changed : other.rowLists = buffer.rowLists.modifyShown change)
    (sameLength : (change buffer.rowLists.shown).length = buffer.rowLists.shown.length)
    {index : Nat}
    (inside : index < buffer.composedSize) :
    other.composedRow index = (change buffer.rowLists.shown)[index]?.getD {} := by
  have sizeEq := shaped.composedSize_of_modifyShown after changed sameLength
  rw [after.composedRow_eq (sizeEq ▸ inside), changed, RowLists.shown_modifyShown]

theorem screenRow_of_modifyShown
    {change : List Row → List Row}
    (shaped : buffer.Shaped lines columns limit)
    (after : other.Shaped lines columns limit)
    (changed : other.rowLists = buffer.rowLists.modifyShown change)
    (sameLength : (change buffer.rowLists.shown).length = buffer.rowLists.shown.length)
    {y : Nat}
    (inside : y < lines) :
    other.screenRow y = (change buffer.rowLists.shown)[buffer.screenBase + y]?.getD {} := by
  have sizeEq := shaped.composedSize_of_modifyShown after changed sameLength
  have baseEq : other.screenBase = buffer.screenBase := by
    rw [screenBase, screenBase, sizeEq, after.lines_eq, shaped.lines_eq]
  rw [screenRow, baseEq,
    shaped.composedRow_of_modifyShown after changed sameLength (shaped.screenBase_add_lt inside)]

theorem screenRow_modifyScreen_of_ne
    (shaped : buffer.Shaped lines columns limit)
    {y row : Nat} {change : Row → Row}
    (keeps : ∀ row : Row, row.cells.length = columns → (change row).cells.length = columns)
    (yInside : y < lines)
    (rowInside : row < lines)
    (different : row ≠ y) :
    (buffer.modifyScreen y change).screenRow row = buffer.screenRow row := by
  have changed := shaped.rowLists_modifyScreen yInside change
  rw [RowLists.modifyScreen, shaped.place_eq] at changed
  rw [shaped.screenRow_of_modifyShown (shaped.modifyScreen y keeps) changed (by simp) rowInside,
    shaped.screenRow_eq rowInside, List.getElem?_modify]
  have otherPlace : buffer.screenBase + y ≠ buffer.screenBase + row := by omega
  simp only [if_neg otherPlace, id_map']

theorem screenRow_modifyScreen_self
    (shaped : buffer.Shaped lines columns limit)
    {y : Nat} {change : Row → Row}
    (keeps : ∀ row : Row, row.cells.length = columns → (change row).cells.length = columns)
    (inside : y < lines) :
    (buffer.modifyScreen y change).screenRow y = change (buffer.screenRow y) := by
  have changed := shaped.rowLists_modifyScreen inside change
  rw [RowLists.modifyScreen, shaped.place_eq] at changed
  have here : buffer.screenBase + y < buffer.rowLists.shown.length := by
    rw [shaped.length_shown]
    exact shaped.screenBase_add_lt inside
  rw [shaped.screenRow_of_modifyShown (shaped.modifyScreen y keeps) changed (by simp) inside,
    shaped.screenRow_eq inside, List.getElem?_modify, List.getElem?_eq_getElem here]
  simp

/-- A scroll leaves the rows outside its region. -/
theorem screenRow_scrollRows_of_outside
    (shaped : buffer.Shaped lines columns limit)
    {top bottom y : Nat} (amount : Int) (fill : Cell)
    (inside : y < lines)
    (outside : y < top ∨ bottom < y) :
    (buffer.scrollRows top bottom amount fill).screenRow y = buffer.screenRow y := by
  have changed := shaped.rowLists_scrollRows top bottom amount fill
  unfold RowLists.scrollRows at changed
  split at changed
  · have linesEq : buffer.rowLists.lines = buffer.lines := rfl
    next nothing =>
      rw [linesEq] at nothing
      unfold ScreenBuffer.scrollRows
      rw [if_pos nothing]
  · next valid =>
      have linesEq : buffer.rowLists.lines = lines := shaped.lines_eq
      rw [linesEq] at valid
      rw [shaped.place_eq] at changed
      have fits := shaped.screenBase_add_lines
      have lengthEq := shaped.length_shown
      have regionInside :
          buffer.screenBase + top + (bottom + 1 - top) ≤ buffer.rowLists.shown.length := by
        omega
      have regionLength :
          (RowLists.shifted buffer.rowLists.columns amount fill
            ((buffer.rowLists.shown.drop (buffer.screenBase + top)).take
              (bottom + 1 - top))).length = bottom + 1 - top := by
        rw [RowLists.length_shifted, List.length_take, List.length_drop]
        omega
      rw [shaped.screenRow_of_modifyShown (shaped.scrollRows _ _ _ _) changed ?_ inside,
        shaped.screenRow_eq inside, RowLists.getElem?_onRegion regionInside regionLength,
        if_neg (by omega)]
      rw [RowLists.onRegion, List.length_append, List.length_append, regionLength,
        List.length_take, List.length_drop]
      omega

theorem screenRow_clearHistory
    (shaped : buffer.Shaped lines columns limit)
    (main : buffer.onAlternate = false)
    {y : Nat}
    (inside : y < lines) :
    buffer.clearHistory.screenRow y = buffer.screenRow y := by
  have after := shaped.clearHistory
  have sizeEq := shaped.composedSize_eq
  have enough := shaped.lines_le_size
  have shownAfter :
      buffer.clearHistory.rowLists.shown =
        buffer.rowLists.shown.drop (buffer.ring.size - lines) := by
    rw [rowLists_clearHistory, RowLists.clearHistory, RowLists.shown, RowLists.shown]
    simp [rowLists, main, shaped.lines_eq]
  have baseAfter : buffer.clearHistory.screenBase = 0 := by
    have lengths := after.length_shown
    have all := after.screenBase_add_lines
    rw [shownAfter, List.length_drop, shaped.length_shown, sizeEq, main] at lengths
    simp only [Bool.false_eq_true, if_false] at lengths
    omega
  have base : buffer.screenBase = buffer.ring.size - lines := by
    rw [screenBase, sizeEq, main, shaped.lines_eq]
    simp
  rw [after.screenRow_eq inside, shaped.screenRow_eq inside, shownAfter, baseAfter, base,
    List.getElem?_drop, Nat.zero_add]

end Shaped

end ScreenBuffer

end VideoTerminal
