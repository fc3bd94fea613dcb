import VideoTerminal.Proofs.Resizing

/-!
The two screens as plain lists of rows. The rows of a buffer are found at
rotating slots and moved by exchanging neighbours; to whoever looks at the
lists, a row comes in at the end, goes out at the beginning, or moves within
its region. Every operation on a buffer is one on its lists.
-/

namespace VideoTerminal

/-- The rows of the two screens, the oldest row of the history first. -/
structure RowLists where
  columns : Nat
  lines : Nat
  historyLimit : Nat
  main : List Row
  alternate : List Row
  onAlternate : Bool

namespace RowLists

variable (lists : RowLists)

/-- The rows that are shown, with the history above them. -/
def shown : List Row :=
  if lists.onAlternate then lists.alternate else lists.main

/-- Change the rows that are shown, with the history above them. -/
def modifyShown (change : List Row → List Row) : RowLists :=
  if lists.onAlternate then { lists with alternate := change lists.alternate }
  else { lists with main := change lists.main }

/-- The place of a row of the screen in its list: the screen is the end of the
main list, and all of the alternate one. -/
def place (y : Nat) : Nat :=
  if lists.onAlternate then y else lists.main.length - lists.lines + y

/-- Add a row to the main list. If there are too many rows then, the first one
goes; the second part says so. -/
def advance (fill : Cell) : RowLists × Bool :=
  let longer := lists.main ++ [Row.filled lists.columns fill]
  if longer.length > lists.historyLimit + lists.lines then
    ({ lists with main := longer.drop 1 }, true)
  else ({ lists with main := longer }, false)

/-- Keep only the rows of the main screen. -/
def clearHistory : RowLists :=
  { lists with main := lists.main.drop (lists.main.length - lists.lines) }

/-- Some rows moved by `amount`, up when it is positive, by no more than their
number. Cleared rows fill the gap. -/
def shifted (columns : Nat) (amount : Int) (fill : Cell) (rows : List Row) : List Row :=
  let count := min amount.natAbs rows.length
  let gap := List.replicate count (Row.filled columns fill)
  if amount > 0 then rows.drop count ++ gap else gap ++ rows.take (rows.length - count)

/-- Change `count` rows from row `first` on. -/
def onRegion (first count : Nat) (change : List Row → List Row) (rows : List Row) : List Row :=
  rows.take first ++ change ((rows.drop first).take count) ++ rows.drop (first + count)

/-- Move the rows `top` to `bottom` of the screen that is shown. -/
def scrollRows (top bottom : Nat) (amount : Int) (fill : Cell) : RowLists :=
  if top > bottom ∨ bottom ≥ lists.lines ∨ amount = 0 then lists
  else
    lists.modifyShown
      (onRegion (lists.place top) (bottom + 1 - top) (shifted lists.columns amount fill))

/-- Change one row of the screen that is shown. -/
def modifyScreen (y : Nat) (change : Row → Row) : RowLists :=
  lists.modifyShown fun rows => rows.modify (lists.place y) change

/-- Overwrite every cell of the alternate screen. -/
def clearAlternate (fill : Cell) : RowLists :=
  { lists with
    alternate := List.replicate lists.alternate.length (Row.filled lists.columns fill) }

/-- The lists stored from the first slot on. -/
def toBuffer : ScreenBuffer :=
  { columns := lists.columns
    lines := lists.lines
    historyLimit := lists.historyLimit
    ring := Ring.ofList lists.main
    alternate := lists.alternate.toArray
    onAlternate := lists.onAlternate }

theorem modifyShown_modifyShown (first second : List Row → List Row) :
    (lists.modifyShown first).modifyShown second =
      lists.modifyShown fun rows => second (first rows) := by
  unfold modifyShown
  by_cases onAlternate : lists.onAlternate <;> simp [onAlternate]

theorem modifyShown_id : lists.modifyShown (fun rows => rows) = lists := by
  unfold modifyShown
  split <;> rfl

end RowLists

/-! ## Regions of a list -/

namespace RowLists

/-- A loop over some consecutive rows changes those and no others. -/
theorem getElem?_foldl_modify
    (change : Row → Row) (first count : Nat) (rows : List Row) (index : Nat) :
    ((List.range count).foldl
        (fun current k => current.modify (first + k) change) rows)[index]? =
      if first ≤ index ∧ index < first + count then rows[index]?.map change
      else rows[index]? := by
  induction count with
  | zero =>
      rw [if_neg (by omega)]
      rfl
  | succ count inductionHypothesis =>
      rw [List.range_succ, List.foldl_append, List.foldl_cons, List.foldl_nil,
        List.getElem?_modify, inductionHypothesis]
      by_cases here : first + count = index
      · rw [if_neg (by omega), if_pos (by omega)]
        simp [here]
      · by_cases before : first ≤ index ∧ index < first + count
        · rw [if_pos before, if_pos (by omega)]
          simp [here]
        · rw [if_neg before, if_neg (by omega)]
          simp [here]

theorem length_foldl_exchange (first second : Nat → Nat) (steps : List Nat) (rows : List Row) :
    (steps.foldl (fun current k => Ring.exchange (first k) (second k) current) rows).length =
      rows.length := by
  induction steps generalizing rows with
  | nil => rfl
  | cons step rest inductionHypothesis =>
      rw [List.foldl_cons, inductionHypothesis, Ring.length_exchange]

theorem mem_foldl_exchange
    {first second : Nat → Nat} {steps : List Nat} {rows : List Row} {row : Row} :
    row ∈ steps.foldl (fun current k => Ring.exchange (first k) (second k) current) rows ↔
      row ∈ rows := by
  induction steps generalizing rows with
  | nil => rfl
  | cons step rest inductionHypothesis =>
      rw [List.foldl_cons, inductionHypothesis, Ring.exchange, Array.mem_toList_iff,
        Ring.mem_array_swap, List.mem_toArray]

/-- Exchanges that go up through a region bring each row up from `distance`
rows below. The rows that are left behind are not told. -/
theorem getElem?_foldl_exchange_up
    {rows : List Row} {first distance moves : Nat}
    (distancePositive : 0 < distance)
    (inside : first + moves + distance ≤ rows.length)
    (index : Nat)
    (told : index < first + moves ∨ first + moves + distance ≤ index) :
    ((List.range moves).foldl
        (fun current k => Ring.exchange (first + k) (first + k + distance) current)
        rows)[index]? =
      if first ≤ index ∧ index < first + moves then rows[index + distance]?
      else rows[index]? := by
  induction moves generalizing index with
  | zero =>
      rw [if_neg (by omega)]
      rfl
  | succ moves inductionHypothesis =>
      have sameLength :=
        length_foldl_exchange (fun k => first + k) (fun k => first + k + distance)
          (List.range moves) rows
      rw [List.range_succ, List.foldl_append, List.foldl_cons, List.foldl_nil,
        Ring.getElem?_exchange (by omega) (by omega)]
      have before := inductionHypothesis (by omega)
      -- What the last exchange sets down is left behind, so nothing is told of it.
      by_cases left : index = first + moves + distance
      · omega
      · rw [if_neg left]
        by_cases arrived : index = first + moves
        · rw [if_pos arrived, if_pos (by omega), before _ (by omega), if_neg (by omega), arrived]
        · rw [if_neg arrived, before index (by omega)]
          by_cases moved : first ≤ index ∧ index < first + moves
          · rw [if_pos moved, if_pos (by omega)]
          · rw [if_neg moved, if_neg (by omega)]

/-- Exchanges that go down through a region bring each row down from
`distance` rows above. -/
theorem getElem?_foldl_exchange_down
    {rows : List Row} {last distance moves : Nat}
    (distancePositive : 0 < distance)
    (inside : last < rows.length)
    (room : moves + distance ≤ last + 1)
    (index : Nat)
    (told : last < index + moves ∨ index + moves + distance ≤ last) :
    ((List.range moves).foldl
        (fun current k => Ring.exchange (last - k) (last - k - distance) current)
        rows)[index]? =
      if last < index + moves ∧ index ≤ last then rows[index - distance]?
      else rows[index]? := by
  induction moves generalizing index with
  | zero =>
      rw [if_neg (by omega)]
      rfl
  | succ moves inductionHypothesis =>
      have sameLength :=
        length_foldl_exchange (fun k => last - k) (fun k => last - k - distance)
          (List.range moves) rows
      rw [List.range_succ, List.foldl_append, List.foldl_cons, List.foldl_nil,
        Ring.getElem?_exchange (by omega) (by omega)]
      have before := inductionHypothesis (by omega)
      by_cases left : index = last - moves - distance
      · omega
      · rw [if_neg left]
        by_cases arrived : index = last - moves
        · rw [if_pos arrived, if_pos (by omega), before _ (by omega), if_neg (by omega), arrived]
        · rw [if_neg arrived, before index (by omega)]
          by_cases moved : last < index + moves ∧ index ≤ last
          · rw [if_pos moved, if_pos (by omega)]
          · rw [if_neg moved, if_neg (by omega)]

theorem getElem?_onRegion
    {rows : List Row} {first count : Nat} {change : List Row → List Row}
    (inside : first + count ≤ rows.length)
    (sameLength : (change ((rows.drop first).take count)).length = count)
    (index : Nat) :
    (onRegion first count change rows)[index]? =
      if first ≤ index ∧ index < first + count then
        (change ((rows.drop first).take count))[index - first]?
      else rows[index]? := by
  have takeLength : (rows.take first).length = first := by
    rw [List.length_take]
    omega
  rw [onRegion, List.append_assoc, List.getElem?_append, takeLength]
  split
  · next before =>
      rw [if_neg (by omega), List.getElem?_take_of_lt before]
  · rw [List.getElem?_append, sameLength]
    split
    · rw [if_pos (by omega)]
    · rw [if_neg (by omega), List.getElem?_drop]
      congr 1
      omega

theorem onRegion_congr
    {rows : List Row} {first count : Nat} {change other : List Row → List Row}
    (inside : first + count ≤ rows.length)
    (same : ∀ region : List Row, region.length = count → change region = other region) :
    onRegion first count change rows = onRegion first count other rows := by
  have regionLength : ((rows.drop first).take count).length = count := by
    rw [List.length_take, List.length_drop]
    omega
  rw [onRegion, onRegion, same _ regionLength]

theorem length_shifted (columns : Nat) (amount : Int) (fill : Cell) (rows : List Row) :
    (shifted columns amount fill rows).length = rows.length := by
  have enough := Nat.min_le_right amount.natAbs rows.length
  unfold shifted
  dsimp only
  split
  · rw [List.length_append, List.length_drop, List.length_replicate]
    omega
  · rw [List.length_append, List.length_take, List.length_replicate]
    omega

/-- A loop that clears some consecutive rows, each of which is as wide as the
others. -/
theorem getElem?_foldl_clear
    {rows : List Row} {columns : Nat}
    (width : ∀ row ∈ rows, row.cells.length = columns)
    {first count : Nat}
    (inside : first + count ≤ rows.length)
    (fill : Cell) (index : Nat) :
    ((List.range count).foldl
        (fun current k => current.modify (first + k) (Row.clear fill)) rows)[index]? =
      if first ≤ index ∧ index < first + count then some (Row.filled columns fill)
      else rows[index]? := by
  rw [getElem?_foldl_modify]
  split
  · have here : index < rows.length := by omega
    rw [List.getElem?_eq_getElem here, Option.map_some, Row.clear,
      width _ (List.getElem_mem here)]
  · rfl

/-- The rows of a region go up by `count`, and those that become free are
cleared. -/
theorem raise_eq_onRegion
    {rows : List Row} {columns first height count : Nat}
    (width : ∀ row ∈ rows, row.cells.length = columns)
    (inside : first + height ≤ rows.length)
    (countPositive : 0 < count)
    (atMost : count ≤ height)
    (fill : Cell) :
    (List.range count).foldl
        (fun current k => current.modify (first + (height - count) + k) (Row.clear fill))
        ((List.range (height - count)).foldl
          (fun current k => Ring.exchange (first + k) (first + k + count) current) rows) =
      onRegion first height
        (fun region => region.drop count ++ List.replicate count (Row.filled columns fill))
        rows := by
  have regionLength : ((rows.drop first).take height).length = height := by
    rw [List.length_take, List.length_drop]
    omega
  have sameLength :=
    length_foldl_exchange (fun k => first + k) (fun k => first + k + count)
      (List.range (height - count)) rows
  apply List.ext_getElem?
  intro index
  rw [getElem?_foldl_clear (fun row member => width row (mem_foldl_exchange.mp member))
      (by omega),
    getElem?_onRegion inside (by
      rw [List.length_append, List.length_drop, regionLength, List.length_replicate]
      omega)]
  by_cases free : first + (height - count) ≤ index ∧ index < first + (height - count) + count
  · rw [if_pos free, if_pos (by omega), List.getElem?_append_right (by simp; omega),
      List.getElem?_replicate, if_pos (by simp; omega)]
  · rw [if_neg free, getElem?_foldl_exchange_up countPositive (by omega) index (by omega)]
    by_cases moved : first ≤ index ∧ index < first + (height - count)
    · rw [if_pos moved, if_pos (by omega), List.getElem?_append_left (by simp; omega),
        List.getElem?_drop, List.getElem?_take_of_lt (by omega), List.getElem?_drop]
      congr 1
      omega
    · rw [if_neg moved, if_neg (by omega)]

/-- The rows of a region go down by `count`, and those that become free are
cleared. -/
theorem lower_eq_onRegion
    {rows : List Row} {columns first height count : Nat}
    (width : ∀ row ∈ rows, row.cells.length = columns)
    (inside : first + height ≤ rows.length)
    (countPositive : 0 < count)
    (atMost : count ≤ height)
    (fill : Cell) :
    (List.range count).foldl
        (fun current k => current.modify (first + k) (Row.clear fill))
        ((List.range (height - count)).foldl
          (fun current k =>
            Ring.exchange (first + height - 1 - k) (first + height - 1 - k - count) current)
          rows) =
      onRegion first height
        (fun region =>
          List.replicate count (Row.filled columns fill) ++ region.take (height - count))
        rows := by
  have regionLength : ((rows.drop first).take height).length = height := by
    rw [List.length_take, List.length_drop]
    omega
  have sameLength :=
    length_foldl_exchange (fun k => first + height - 1 - k)
      (fun k => first + height - 1 - k - count) (List.range (height - count)) rows
  apply List.ext_getElem?
  intro index
  rw [getElem?_foldl_clear (fun row member => width row (mem_foldl_exchange.mp member))
      (by omega),
    getElem?_onRegion inside (by
      rw [List.length_append, List.length_take, regionLength, List.length_replicate]
      omega)]
  by_cases free : first ≤ index ∧ index < first + count
  · rw [if_pos free, if_pos (by omega), List.getElem?_append_left (by simp; omega),
      List.getElem?_replicate, if_pos (by omega)]
  · rw [if_neg free,
      getElem?_foldl_exchange_down countPositive (by omega) (by omega) index (by omega)]
    by_cases moved : first ≤ index ∧ index < first + height
    · rw [if_pos (by omega), if_pos moved, List.getElem?_append_right (by simp; omega),
        List.length_replicate, List.getElem?_take_of_lt (by omega),
        List.getElem?_take_of_lt (by omega), List.getElem?_drop]
      congr 1
      omega
    · rw [if_neg (by omega), if_neg moved]

end RowLists

namespace ScreenBuffer

/-- The rows of the buffer as lists. -/
def rowLists (buffer : ScreenBuffer) : RowLists :=
  { columns := buffer.columns
    lines := buffer.lines
    historyLimit := buffer.historyLimit
    main := buffer.ring.toList
    alternate := buffer.alternate.toList
    onAlternate := buffer.onAlternate }

theorem shown_rowLists (buffer : ScreenBuffer) :
    buffer.rowLists.shown =
      if buffer.onAlternate then buffer.alternate.toList else buffer.ring.toList := rfl

theorem place_rowLists (buffer : ScreenBuffer) (y : Nat) :
    buffer.rowLists.place y =
      if buffer.onAlternate then y else buffer.ring.toList.length - buffer.lines + y := rfl

theorem modifyShown_rowLists (buffer : ScreenBuffer) (change : List Row → List Row) :
    buffer.rowLists.modifyShown change =
      if buffer.onAlternate then
        { buffer.rowLists with alternate := change buffer.alternate.toList }
      else { buffer.rowLists with main := change buffer.ring.toList } := rfl

@[simp]
theorem screenBase_modifyComposed
    (buffer : ScreenBuffer) (index : Nat) (change : Row → Row) :
    (buffer.modifyComposed index change).screenBase = buffer.screenBase := by
  have sameLines : (buffer.modifyComposed index change).lines = buffer.lines := by
    unfold modifyComposed
    split <;> rfl
  rw [screenBase, composedSize_modifyComposed, sameLines, screenBase]

@[simp]
theorem screenBase_modifyScreen (buffer : ScreenBuffer) (y : Nat) (change : Row → Row) :
    (buffer.modifyScreen y change).screenBase = buffer.screenBase :=
  screenBase_modifyComposed _ _ _

@[simp]
theorem screenBase_swapScreen (buffer : ScreenBuffer) (first second : Nat) :
    (buffer.swapScreen first second).screenBase = buffer.screenBase := by
  unfold swapScreen screenBase composedSize
  by_cases onAlternate : buffer.onAlternate <;> simp [onAlternate]

namespace Shaped

variable {lines columns limit : Nat} {buffer : ScreenBuffer}

/-! ## Rows of the screen -/

theorem length_shown (shaped : buffer.Shaped lines columns limit) :
    buffer.rowLists.shown.length = buffer.composedSize := by
  rw [shaped.composedSize_eq, shown_rowLists]
  split
  · rw [Array.length_toList, shaped.alternate_size]
  · rw [Ring.length_toList]

theorem width_shown (shaped : buffer.Shaped lines columns limit) :
    ∀ row ∈ buffer.rowLists.shown, row.cells.length = columns := by
  intro row member
  rw [shown_rowLists] at member
  split at member
  · exact shaped.alternate_width row (Array.mem_toList_iff.mp member)
  · exact shaped.ring_width row member

theorem place_eq (shaped : buffer.Shaped lines columns limit) (y : Nat) :
    buffer.rowLists.place y = buffer.screenBase + y := by
  rw [place_rowLists, screenBase, shaped.composedSize_eq, shaped.lines_eq, Ring.length_toList]
  split
  · rw [Nat.sub_self, Nat.zero_add]
  · rfl

theorem composedRow_eq
    (shaped : buffer.Shaped lines columns limit)
    {index : Nat}
    (inside : index < buffer.composedSize) :
    buffer.composedRow index = buffer.rowLists.shown[index]?.getD {} := by
  rw [shaped.composedSize_eq] at inside
  rw [composedRow, shown_rowLists]
  by_cases onAlternate : buffer.onAlternate
  · simp [onAlternate]
  · rw [if_neg onAlternate] at inside
    rw [if_neg onAlternate, if_neg onAlternate, ringRow,
      Ring.getElem?_toList shaped.start_lt_size inside]

theorem rowLists_modifyComposed
    (shaped : buffer.Shaped lines columns limit)
    {index : Nat}
    (inside : index < buffer.composedSize)
    (change : Row → Row) :
    (buffer.modifyComposed index change).rowLists =
      buffer.rowLists.modifyShown (·.modify index change) := by
  rw [shaped.composedSize_eq] at inside
  rw [ScreenBuffer.modifyComposed, modifyShown_rowLists]
  by_cases onAlternate : buffer.onAlternate
  · simp [onAlternate, rowLists]
  · rw [if_neg onAlternate] at inside
    simp [onAlternate, rowLists, Ring.toList_modify shaped.start_lt_size inside]

theorem screenBase_add_lt
    (shaped : buffer.Shaped lines columns limit)
    {y : Nat}
    (inside : y < lines) :
    buffer.screenBase + y < buffer.composedSize := by
  have all := shaped.screenBase_add_lines
  omega

theorem rowLists_modifyScreen
    (shaped : buffer.Shaped lines columns limit)
    {y : Nat}
    (inside : y < lines)
    (change : Row → Row) :
    (buffer.modifyScreen y change).rowLists = buffer.rowLists.modifyScreen y change := by
  rw [RowLists.modifyScreen, shaped.place_eq]
  exact shaped.rowLists_modifyComposed (shaped.screenBase_add_lt inside) change

theorem rowLists_swapScreen
    (shaped : buffer.Shaped lines columns limit)
    {first second : Nat}
    (firstInside : first < lines)
    (secondInside : second < lines) :
    (buffer.swapScreen first second).rowLists =
      buffer.rowLists.modifyShown
        (Ring.exchange (buffer.screenBase + first) (buffer.screenBase + second)) := by
  have firstPlace := shaped.screenBase_add_lt firstInside
  have secondPlace := shaped.screenBase_add_lt secondInside
  rw [shaped.composedSize_eq] at firstPlace secondPlace
  rw [ScreenBuffer.swapScreen, modifyShown_rowLists]
  by_cases onAlternate : buffer.onAlternate
  · simp [onAlternate, rowLists, Ring.exchange]
  · rw [if_neg onAlternate] at firstPlace secondPlace
    simp [onAlternate, rowLists, Ring.toList_swap shaped.start_lt_size firstPlace secondPlace]

/-- A loop over steps that change the rows shown changes them in a loop. -/
theorem rowLists_foldl
    {base : Nat} {steps : List Nat} {step : ScreenBuffer → Nat → ScreenBuffer}
    {change : List Row → Nat → List Row}
    (shaped : buffer.Shaped lines columns limit)
    (based : buffer.screenBase = base)
    (keeps : ∀ current k, current.Shaped lines columns limit →
      (step current k).Shaped lines columns limit)
    (keepsBase : ∀ current k, (step current k).screenBase = current.screenBase)
    (changes : ∀ current k, k ∈ steps → current.Shaped lines columns limit →
      current.screenBase = base →
        (step current k).rowLists = current.rowLists.modifyShown (change · k)) :
    (steps.foldl step buffer).rowLists =
      buffer.rowLists.modifyShown fun rows => steps.foldl change rows := by
  induction steps generalizing buffer with
  | nil => exact (RowLists.modifyShown_id _).symm
  | cons k rest inductionHypothesis =>
      rw [List.foldl_cons,
        inductionHypothesis (keeps buffer k shaped) ((keepsBase buffer k).trans based)
          fun current each member => changes current each (List.mem_cons_of_mem k member),
        changes buffer k List.mem_cons_self shaped based, RowLists.modifyShown_modifyShown]
      rfl

/-- Consecutive rows changed in a loop, wherever their storage begins. -/
theorem rowLists_foldl_modifyComposed
    (shaped : buffer.Shaped lines columns limit)
    {first count : Nat} {change : Nat → Row → Row}
    (inside : first + count ≤ buffer.composedSize)
    (keeps : ∀ k row, (change k row).cells.length = row.cells.length) :
    ((List.range count).foldl
        (fun current k => current.modifyComposed (first + k) (change k)) buffer).rowLists =
      buffer.rowLists.modifyShown fun rows =>
        (List.range count).foldl (fun current k => current.modify (first + k) (change k)) rows := by
  refine shaped.rowLists_foldl rfl ?_ ?_ ?_
  · exact fun _ k current => current.modifyComposed _ fun row width => (keeps k row).trans width
  · exact fun _ _ => screenBase_modifyComposed _ _ _
  · intro current k member currentShaped based
    have sizeEq := shaped.screenBase_add_lines
    rw [← based, currentShaped.screenBase_add_lines] at sizeEq
    rw [List.mem_range] at member
    exact currentShaped.rowLists_modifyComposed (by omega) _

theorem rowLists_clearScreenRows
    (shaped : buffer.Shaped lines columns limit)
    {top count : Nat}
    (inside : top + count ≤ lines)
    (fill : Cell) :
    (buffer.clearScreenRows top count fill).rowLists =
      buffer.rowLists.modifyShown fun rows =>
        (List.range count).foldl
          (fun current k => current.modify (buffer.screenBase + top + k) (Row.clear fill))
          rows := by
  refine shaped.rowLists_foldl rfl ?_ ?_ ?_
  · exact fun _ _ current => current.modifyScreen _ (by simp)
  · exact fun current k => screenBase_modifyScreen _ _ _
  · intro current k member currentShaped based
    have step := currentShaped.rowLists_modifyComposed
      (currentShaped.screenBase_add_lt (show top + k < lines by
        rw [List.mem_range] at member
        omega)) (Row.clear fill)
    rw [based, ← Nat.add_assoc] at step
    rw [ScreenBuffer.modifyScreen, based, ← Nat.add_assoc]
    exact step

/-- The change of the rows shown may be given in another form that agrees on
them. -/
theorem modifyShown_congr
    {change other : List Row → List Row}
    (same : change buffer.rowLists.shown = other buffer.rowLists.shown) :
    buffer.rowLists.modifyShown change = buffer.rowLists.modifyShown other := by
  rw [shown_rowLists] at same
  rw [modifyShown_rowLists, modifyShown_rowLists]
  by_cases onAlternate : buffer.onAlternate
  · rw [if_pos onAlternate] at same
    rw [if_pos onAlternate, if_pos onAlternate, same]
  · rw [if_neg onAlternate] at same
    rw [if_neg onAlternate, if_neg onAlternate, same]

/-- Rows exchanged in a loop are exchanged in the rows shown. -/
theorem rowLists_foldl_swapScreen
    (shaped : buffer.Shaped lines columns limit)
    {first second : Nat → Nat} {steps : List Nat}
    (inside : ∀ k ∈ steps, first k < lines ∧ second k < lines) :
    (steps.foldl (fun current k => current.swapScreen (first k) (second k)) buffer).rowLists =
      buffer.rowLists.modifyShown fun rows =>
        steps.foldl
          (fun current k =>
            Ring.exchange (buffer.screenBase + first k) (buffer.screenBase + second k) current)
          rows := by
  refine shaped.rowLists_foldl rfl ?_ ?_ ?_
  · exact fun _ _ current => current.swapScreen _ _
  · exact fun _ _ => screenBase_swapScreen _ _ _
  · intro current k member currentShaped based
    rw [currentShaped.rowLists_swapScreen (inside k member).1 (inside k member).2, based]

theorem screenBase_foldl_swapScreen
    (first second : Nat → Nat) (steps : List Nat) (buffer : ScreenBuffer) :
    (steps.foldl (fun current k => current.swapScreen (first k) (second k)) buffer).screenBase =
      buffer.screenBase := by
  induction steps generalizing buffer with
  | nil => rfl
  | cons step rest inductionHypothesis =>
      rw [List.foldl_cons, inductionHypothesis, screenBase_swapScreen]

theorem foldl_swapScreen
    (shaped : buffer.Shaped lines columns limit)
    (first second : Nat → Nat) (steps : List Nat) :
    (steps.foldl (fun current k => current.swapScreen (first k) (second k)) buffer).Shaped
      lines columns limit :=
  shaped.foldl fun _ _ current => current.swapScreen _ _

theorem rowLists_shiftUp
    (shaped : buffer.Shaped lines columns limit)
    {top bottom count : Nat}
    (ordered : top ≤ bottom)
    (inside : bottom < lines)
    (countPositive : 0 < count)
    (atMost : count ≤ bottom + 1 - top)
    (fill : Cell) :
    (buffer.shiftUp top bottom count fill).rowLists =
      buffer.rowLists.modifyShown
        (RowLists.onRegion (buffer.screenBase + top) (bottom + 1 - top) fun region =>
          region.drop count ++ List.replicate count (Row.filled columns fill)) := by
  have fits := shaped.screenBase_add_lines
  have moves : ∀ k ∈ List.range (bottom + 1 - top - count),
      top + k < lines ∧ top + k + count < lines := by
    intro k member
    rw [List.mem_range] at member
    omega
  rw [shiftUp, (shaped.foldl_swapScreen _ _ _).rowLists_clearScreenRows (by omega),
    shaped.rowLists_foldl_swapScreen moves, screenBase_foldl_swapScreen,
    RowLists.modifyShown_modifyShown]
  apply modifyShown_congr
  rw [← RowLists.raise_eq_onRegion shaped.width_shown
    (by rw [shaped.length_shown]; omega) countPositive atMost fill]
  have free :
      buffer.screenBase + (bottom + 1 - count) =
        buffer.screenBase + top + (bottom + 1 - top - count) := by omega
  simp only [free, Nat.add_assoc]

theorem rowLists_shiftDown
    (shaped : buffer.Shaped lines columns limit)
    {top bottom count : Nat}
    (ordered : top ≤ bottom)
    (inside : bottom < lines)
    (countPositive : 0 < count)
    (atMost : count ≤ bottom + 1 - top)
    (fill : Cell) :
    (buffer.shiftDown top bottom count fill).rowLists =
      buffer.rowLists.modifyShown
        (RowLists.onRegion (buffer.screenBase + top) (bottom + 1 - top) fun region =>
          List.replicate count (Row.filled columns fill) ++
            region.take (bottom + 1 - top - count)) := by
  have fits := shaped.screenBase_add_lines
  have moves : ∀ k ∈ List.range (bottom + 1 - top - count),
      bottom - k < lines ∧ bottom - k - count < lines := by
    intro k _
    omega
  rw [shiftDown, (shaped.foldl_swapScreen _ _ _).rowLists_clearScreenRows (by omega),
    shaped.rowLists_foldl_swapScreen moves, screenBase_foldl_swapScreen,
    RowLists.modifyShown_modifyShown]
  apply modifyShown_congr
  rw [← RowLists.lower_eq_onRegion shaped.width_shown
    (by rw [shaped.length_shown]; omega) countPositive atMost fill]
  congr 1
  apply List.foldl_ext
  intro current k member
  rw [List.mem_range] at member
  congr 1 <;> omega

/-! ## Operations on the lists -/

theorem rowLists_scrollRows
    (shaped : buffer.Shaped lines columns limit)
    (top bottom : Nat) (amount : Int) (fill : Cell) :
    (buffer.scrollRows top bottom amount fill).rowLists =
      buffer.rowLists.scrollRows top bottom amount fill := by
  have sameCondition : buffer.rowLists.lines = buffer.lines := rfl
  have columnsEq : buffer.rowLists.columns = columns := shaped.columns_eq
  unfold ScreenBuffer.scrollRows RowLists.scrollRows
  rw [sameCondition]
  by_cases nothing : top > bottom ∨ bottom ≥ buffer.lines ∨ amount = 0
  · rw [if_pos nothing, if_pos nothing]
  · rw [if_neg nothing, if_neg nothing, shaped.place_eq, columnsEq]
    rw [shaped.lines_eq] at nothing
    have fits := shaped.screenBase_add_lines
    have regionInside :
        buffer.screenBase + top + (bottom + 1 - top) ≤ buffer.rowLists.shown.length := by
      rw [shaped.length_shown]
      omega
    have countPositive : 0 < min amount.natAbs (bottom + 1 - top) := by omega
    have atMost : min amount.natAbs (bottom + 1 - top) ≤ bottom + 1 - top :=
      Nat.min_le_right _ _
    dsimp only
    by_cases up : amount > 0
    · rw [if_pos up,
        shaped.rowLists_shiftUp (by omega) (by omega) countPositive atMost]
      apply modifyShown_congr
      apply RowLists.onRegion_congr regionInside
      intro region regionLength
      rw [RowLists.shifted, if_pos up, regionLength]
    · rw [if_neg up,
        shaped.rowLists_shiftDown (by omega) (by omega) countPositive atMost]
      apply modifyShown_congr
      apply RowLists.onRegion_congr regionInside
      intro region regionLength
      rw [RowLists.shifted, if_neg up, regionLength]

theorem rowLists_advance
    (shaped : buffer.Shaped lines columns limit) (fill : Cell) :
    ((buffer.advance fill).1.rowLists, (buffer.advance fill).2) =
      buffer.rowLists.advance fill := by
  have sizeEq := buffer.ring.length_toList
  unfold ScreenBuffer.advance RowLists.advance
  simp only [rowLists, List.length_append, List.length_singleton, sizeEq]
  by_cases notFull : buffer.ring.size < buffer.capacity
  · have straight : buffer.ring.start = 0 := by
      rw [capacity, shaped.limit_eq, shaped.lines_eq] at notFull
      have := shaped.start_eq_zero_or_full
      omega
    rw [if_pos notFull, if_neg (by rw [capacity] at notFull; omega)]
    simp only [Ring.toList_push straight]
  · rw [if_neg notFull, if_pos (by rw [capacity] at notFull; omega)]
    obtain ⟨oldest, rest, whole, recycled⟩ :=
      Ring.toList_recycle shaped.start_lt_size (Row.clear fill)
    have width : oldest.cells.length = buffer.columns := by
      rw [shaped.columns_eq]
      exact shaped.ring_width oldest (by rw [whole]; exact List.mem_cons_self)
    simp only [recycled, whole, Row.clear, width, List.cons_append, List.drop_succ_cons,
      List.drop_zero]

theorem rowLists_clearHistory (buffer : ScreenBuffer) :
    buffer.clearHistory.rowLists = buffer.rowLists.clearHistory := by
  simp [ScreenBuffer.clearHistory, RowLists.clearHistory, rowLists, Ring.toList_keepLast]

theorem rowLists_clearAlternate
    (shaped : buffer.Shaped lines columns limit) (fill : Cell) :
    (buffer.clearAlternate fill).rowLists = buffer.rowLists.clearAlternate fill := by
  have cleared :
      buffer.alternate.toList.map (Row.clear fill) =
        List.replicate buffer.alternate.toList.length (Row.filled buffer.columns fill) := by
    rw [List.eq_replicate_iff]
    refine ⟨List.length_map _, ?_⟩
    intro row member
    obtain ⟨old, oldMember, rfl⟩ := List.mem_map.mp member
    rw [Row.clear, shaped.alternate_width old (Array.mem_toList_iff.mp oldMember),
      shaped.columns_eq]
  simp only [ScreenBuffer.clearAlternate, RowLists.clearAlternate, rowLists, Array.toList_map,
    cleared]

theorem rowLists_resize
    (buffer : ScreenBuffer) (lines columns : Nat) (cursor : Option (Nat × Nat)) :
    buffer.resize lines columns cursor =
      buffer.rowLists.toBuffer.resize lines columns cursor := by
  simp [ScreenBuffer.resize, RowLists.toBuffer, rowLists]

end Shaped

end ScreenBuffer

end VideoTerminal
