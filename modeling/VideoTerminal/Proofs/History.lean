import VideoTerminal.Proofs.Requests
import VideoTerminal.Proofs.ScreenRows

/-!
The history of the main screen. Rows come to it from the top of the screen,
one by one, and leave it at its other end; until then nothing changes their
cells.
-/

namespace VideoTerminal

namespace ScreenBuffer

/-- The cells of the history, the oldest row first. -/
def historyCells (buffer : ScreenBuffer) : List (List Cell) :=
  (buffer.ring.toList.take (buffer.ring.size - buffer.lines)).map Row.cells

/-! ## What leaves the history as it is -/

/-- The second buffer has the history of the first. -/
structure SameHistory (first second : ScreenBuffer) : Prop where
  lines_eq : second.lines = first.lines
  limit_eq : second.historyLimit = first.historyLimit
  size_eq : second.ring.size = first.ring.size
  history_eq : second.historyCells = first.historyCells

namespace SameHistory

variable {first second third buffer other : ScreenBuffer} {lines columns limit : Nat}

theorem refl (buffer : ScreenBuffer) : buffer.SameHistory buffer :=
  ⟨rfl, rfl, rfl, rfl⟩

theorem trans
    (before : first.SameHistory second)
    (after : second.SameHistory third) :
    first.SameHistory third where
  lines_eq := after.lines_eq.trans before.lines_eq
  limit_eq := after.limit_eq.trans before.limit_eq
  size_eq := after.size_eq.trans before.size_eq
  history_eq := after.history_eq.trans before.history_eq

theorem of_sameCells (same : first.SameCells second) : first.SameHistory second where
  lines_eq := same.lines_eq
  limit_eq := same.limit_eq
  size_eq := same.size_eq
  history_eq := by
    rw [historyCells, historyCells, List.map_take, List.map_take, same.main_eq, same.size_eq,
      same.lines_eq]

/-- Rows changed at the place of the screen or below leave the history. -/
theorem of_modifyShown
    {change : List Row → List Row}
    (changed : other.rowLists = buffer.rowLists.modifyShown change)
    (sameLength : (change buffer.rowLists.shown).length = buffer.rowLists.shown.length)
    (sameAbove :
      (change buffer.rowLists.shown).take buffer.screenBase =
        buffer.rowLists.shown.take buffer.screenBase) :
    buffer.SameHistory other := by
  rw [modifyShown_rowLists] at changed
  by_cases onAlternate : buffer.onAlternate
  · rw [if_pos onAlternate] at changed
    have linesEq : other.lines = buffer.lines := congrArg RowLists.lines changed
    have limitEq : other.historyLimit = buffer.historyLimit :=
      congrArg RowLists.historyLimit changed
    have mainEq : other.ring.toList = buffer.ring.toList := congrArg RowLists.main changed
    have sizeEq : other.ring.size = buffer.ring.size := by
      rw [← Ring.length_toList, mainEq, Ring.length_toList]
    exact ⟨linesEq, limitEq, sizeEq, by rw [historyCells, historyCells, mainEq, sizeEq, linesEq]⟩
  · rw [if_neg onAlternate] at changed
    have linesEq : other.lines = buffer.lines := congrArg RowLists.lines changed
    have limitEq : other.historyLimit = buffer.historyLimit :=
      congrArg RowLists.historyLimit changed
    have mainEq : other.ring.toList = change buffer.ring.toList :=
      congrArg RowLists.main changed
    have shownEq : buffer.rowLists.shown = buffer.ring.toList := by
      rw [shown_rowLists, if_neg onAlternate]
    rw [shownEq] at sameLength sameAbove
    have sizeEq : other.ring.size = buffer.ring.size := by
      rw [← Ring.length_toList, mainEq, sameLength, Ring.length_toList]
    have baseEq : buffer.screenBase = buffer.ring.size - buffer.lines := by
      rw [screenBase, composedSize, if_neg onAlternate]
    rw [baseEq] at sameAbove
    exact ⟨linesEq, limitEq, sizeEq, by
      rw [historyCells, historyCells, mainEq, sizeEq, linesEq, sameAbove]⟩

theorem modifyScreen
    (shaped : buffer.Shaped lines columns limit)
    {y : Nat}
    (inside : y < lines)
    (change : Row → Row) :
    buffer.SameHistory (buffer.modifyScreen y change) := by
  have changed := shaped.rowLists_modifyScreen inside change
  rw [RowLists.modifyScreen, shaped.place_eq] at changed
  refine of_modifyShown changed (by simp) ?_
  rw [List.take_modify, List.modify_eq_self]
  rw [List.length_take]
  omega

theorem foldl
    {item : Type} {items : List item} {step : ScreenBuffer → item → ScreenBuffer}
    (shaped : buffer.Shaped lines columns limit)
    (shapes : ∀ (current : ScreenBuffer) (each : item), current.Shaped lines columns limit →
      (step current each).Shaped lines columns limit)
    (keeps : ∀ (current : ScreenBuffer) (each : item), each ∈ items →
      current.Shaped lines columns limit → current.SameHistory (step current each)) :
    buffer.SameHistory (items.foldl step buffer) := by
  refine (List.foldlRecOn items step
    (motive := fun current => current.Shaped lines columns limit ∧ buffer.SameHistory current)
    ⟨shaped, refl buffer⟩ ?_).2
  intro current kept each member
  exact ⟨shapes current each kept.1, kept.2.trans (keeps current each member kept.1)⟩

theorem clearScreenRows
    (shaped : buffer.Shaped lines columns limit)
    {top count : Nat}
    (inside : top + count ≤ lines)
    (fill : Cell) :
    buffer.SameHistory (buffer.clearScreenRows top count fill) := by
  apply foldl shaped
  · exact fun _ _ current => current.modifyScreen _ (by simp)
  · intro current k member currentShaped
    rw [List.mem_range] at member
    exact modifyScreen currentShaped (by omega) _

theorem scrollRows
    (shaped : buffer.Shaped lines columns limit)
    (top bottom : Nat) (amount : Int) (fill : Cell) :
    buffer.SameHistory (buffer.scrollRows top bottom amount fill) := by
  have changed := shaped.rowLists_scrollRows top bottom amount fill
  unfold RowLists.scrollRows at changed
  have linesEq : buffer.rowLists.lines = lines := shaped.lines_eq
  rw [linesEq] at changed
  split at changed
  · refine of_modifyShown (changed.trans (RowLists.modifyShown_id _).symm) rfl rfl
  · next valid =>
      rw [shaped.place_eq] at changed
      have fits := shaped.screenBase_add_lines
      have lengthEq := shaped.length_shown
      have regionLength :
          (RowLists.shifted buffer.rowLists.columns amount fill
            ((buffer.rowLists.shown.drop (buffer.screenBase + top)).take
              (bottom + 1 - top))).length = bottom + 1 - top := by
        rw [RowLists.length_shifted, List.length_take, List.length_drop]
        omega
      have aboveLength :
          (buffer.rowLists.shown.take (buffer.screenBase + top)).length =
            buffer.screenBase + top := by
        rw [List.length_take]
        omega
      refine of_modifyShown changed ?_ ?_
      · rw [RowLists.onRegion, List.length_append, List.length_append, regionLength, aboveLength,
          List.length_drop]
        omega
      · rw [RowLists.onRegion, List.append_assoc, List.take_append_of_le_length (by omega),
          List.take_take, Nat.min_eq_left (by omega)]

end SameHistory

theorem advance_frame (buffer : ScreenBuffer) (fill : Cell) :
    (buffer.advance fill).1 = { buffer with ring := (buffer.advance fill).1.ring } := by
  unfold advance
  split <;> rfl

/-- A row is lost when the ring is full, and only then. -/
theorem size_advance (buffer : ScreenBuffer) (fill : Cell) :
    if (buffer.advance fill).2 then
      buffer.capacity ≤ buffer.ring.size ∧ (buffer.advance fill).1.ring.size = buffer.ring.size
    else
      buffer.ring.size < buffer.capacity ∧
        (buffer.advance fill).1.ring.size = buffer.ring.size + 1 := by
  unfold advance
  by_cases notFull : buffer.ring.size < buffer.capacity
  · simp [notFull]
  · simp [notFull, Nat.le_of_not_lt notFull]

/-- Scrolling the main screen up by a row brings its top row to the history,
and takes the oldest row from it when there is no room. -/
theorem historyCells_advance
    {lines columns limit : Nat} {buffer : ScreenBuffer}
    (shaped : buffer.Shaped lines columns limit)
    (main : buffer.onAlternate = false)
    (fill : Cell) :
    (buffer.advance fill).1.historyCells =
      (buffer.historyCells ++ [(buffer.screenRow 0).cells]).drop
        (if (buffer.advance fill).2 then 1 else 0) := by
  have enough := shaped.lines_le_size
  have positive := shaped.lines_pos
  have sizeAfter := buffer.size_advance fill
  have lengthEq : buffer.ring.toList.length = buffer.ring.size := Ring.length_toList _
  have linesAfter : (buffer.advance fill).1.lines = buffer.lines := by rw [advance_frame]
  have topInside : buffer.ring.size - buffer.lines < buffer.ring.toList.length := by
    rw [lengthEq, shaped.lines_eq]
    omega
  have topRow : buffer.screenRow 0 = buffer.ring.toList[buffer.ring.size - buffer.lines] := by
    have base : buffer.screenBase = buffer.ring.size - buffer.lines := by
      rw [screenBase, composedSize, main]
      simp
    rw [shaped.screenRow_eq positive, shown_rowLists, main, base, Nat.add_zero,
      if_neg Bool.false_ne_true, List.getElem?_eq_getElem topInside, Option.getD_some]
  -- The ring begins with the history, and the top row of the screen comes next.
  have withTop :
      buffer.historyCells ++ [(buffer.screenRow 0).cells] =
        (buffer.ring.toList.take (buffer.ring.size - buffer.lines + 1)).map Row.cells := by
    rw [List.take_succ_eq_append_getElem topInside, List.map_append, topRow]
    rfl
  have advanced := shaped.rowLists_advance fill
  rw [withTop, historyCells, linesAfter]
  unfold RowLists.advance at advanced
  dsimp only at advanced
  split at advanced
  · have mainAfter :
        (buffer.advance fill).1.ring.toList =
          (buffer.ring.toList ++ [Row.filled buffer.columns fill]).drop 1 :=
      congrArg (fun after => after.1.main) advanced
    have lost : (buffer.advance fill).2 = true := congrArg Prod.snd advanced
    rw [lost, if_pos rfl] at sizeAfter
    rw [lost, if_pos rfl, mainAfter, sizeAfter.2, List.take_drop, Nat.add_comm 1,
      List.take_append_of_le_length (by omega), List.map_drop]
  · have mainAfter :
        (buffer.advance fill).1.ring.toList =
          buffer.ring.toList ++ [Row.filled buffer.columns fill] :=
      congrArg (fun after => after.1.main) advanced
    have kept : (buffer.advance fill).2 = false := congrArg Prod.snd advanced
    rw [kept, if_neg Bool.false_ne_true] at sizeAfter
    have countEq :
        buffer.ring.size + 1 - buffer.lines = buffer.ring.size - buffer.lines + 1 := by
      rw [shaped.lines_eq]
      omega
    rw [kept, if_neg Bool.false_ne_true, mainAfter, sizeAfter.2, countEq, List.drop_zero,
      List.take_append_of_le_length (by omega)]

end ScreenBuffer

end VideoTerminal
