import Mathlib.Data.Option.Basic
import VideoTerminal.Proofs.Resizing

/-!
The grid with its checks: every index must be in range, every slice and every
rotation within its sequence, and no difference below zero. A check that fails
leaves nothing. On screens in shape none fails, and what is left is what the
operation without checks gives.
-/

namespace VideoTerminal.Checked

/-- The difference of two numbers, unless it is below zero. -/
def difference (whole part : Nat) : Option Nat :=
  if part ≤ whole then some (whole - part) else none

theorem difference_eq
    {whole part : Nat}
    (enough : part ≤ whole) :
    difference whole part = some (whole - part) :=
  if_pos enough

/-- A loop whose steps pass their checks passes its checks. -/
theorem foldlM_eq
    {state item : Type} {items : List item} {initial : state}
    {checked : state → item → Option state} {plain : state → item → state}
    (Good : state → Prop)
    (good : Good initial)
    (keeps : ∀ current each, Good current → Good (plain current each))
    (passes : ∀ current each, each ∈ items → Good current →
      checked current each = some (plain current each)) :
    items.foldlM checked initial = some (items.foldl plain initial) := by
  induction items generalizing initial with
  | nil => rfl
  | cons head rest inductionHypothesis =>
      rw [List.foldlM_cons, passes initial head List.mem_cons_self good]
      exact inductionHypothesis (keeps initial head good)
        fun current each member => passes current each (List.mem_cons_of_mem _ member)

theorem mapM_eq
    {item result : Type} {items : List item}
    {checked : item → Option result} {plain : item → result}
    (passes : ∀ each ∈ items, checked each = some (plain each)) :
    items.mapM checked = some (items.map plain) := by
  induction items with
  | nil => rfl
  | cons head rest inductionHypothesis =>
      rw [List.mapM_cons, passes head List.mem_cons_self,
        inductionHypothesis fun each member => passes each (List.mem_cons_of_mem _ member)]
      rfl

/-! ## Rows -/

section Rows

variable {columns : Nat} {row : Row}

/-- Replace the cell of a column that the row has. -/
def put (row : Row) (column : Nat) (cell : Cell) : Option Row := do
  guard (column < row.cells.length)
  return row.put column cell

theorem put_eq
    {column : Nat}
    (inside : column < row.cells.length)
    (cell : Cell) :
    put row column cell = some (row.put column cell) := by
  simp [put, inside]

/-- Insert a cell before a column or after the last one. -/
def insert (row : Row) (column : Nat) (cell : Cell) : Option Row := do
  guard (column ≤ row.cells.length)
  return row.insert column cell

theorem insert_eq
    {column : Nat}
    (inside : column ≤ row.cells.length)
    (cell : Cell) :
    insert row column cell = some (row.insert column cell) := by
  simp [insert, inside]

/-- Overwrite a slice of the row. -/
def fillSpan (row : Row) (start stop : Nat) (fill : Cell) : Option Row := do
  guard (start ≤ stop)
  guard (stop ≤ row.cells.length)
  return row.fillSpan start stop fill

theorem fillSpan_eq
    {start stop : Nat}
    (ordered : start ≤ stop)
    (inside : stop ≤ row.cells.length)
    (fill : Cell) :
    fillSpan row start stop fill = some (row.fillSpan start stop fill) := by
  simp [fillSpan, ordered, inside]

/-- Rotate the cells from a column on to the right by no more than there are,
and overwrite as many. -/
def openGap (row : Row) (column count : Nat) (fill : Cell) : Option Row := do
  let turning ← difference row.cells.length column
  guard (count ≤ turning)
  guard (column + count ≤ row.cells.length)
  return row.openGap column count fill

theorem openGap_eq
    {column count : Nat}
    (inside : column + count ≤ row.cells.length)
    (fill : Cell) :
    openGap row column count fill = some (row.openGap column count fill) := by
  have enough : column ≤ row.cells.length := by omega
  have turning : count ≤ row.cells.length - column := by omega
  simp [openGap, difference_eq enough, turning, inside]

/-- Rotate the cells from a column on to the left by no more than there are,
and overwrite as many of the last ones. -/
def closeGap (row : Row) (columns column count : Nat) (fill : Cell) : Option Row := do
  let turning ← difference row.cells.length column
  guard (count ≤ turning)
  let start ← difference columns count
  guard (start ≤ row.cells.length)
  return row.closeGap column count fill

theorem closeGap_eq
    {column count : Nat}
    (width : row.cells.length = columns)
    (inside : column + count ≤ columns)
    (fill : Cell) :
    closeGap row columns column count fill = some (row.closeGap column count fill) := by
  subst width
  have enough : column ≤ row.cells.length := by omega
  have turning : count ≤ row.cells.length - column := by omega
  have fits : count ≤ row.cells.length := by omega
  simp [closeGap, difference_eq enough, difference_eq fits, turning]

end Rows

/-! ## Screens -/

section Screens

variable {lines columns limit : Nat} {buffer : ScreenBuffer}

/-- The composed row at which the screen begins. -/
def screenBase (buffer : ScreenBuffer) : Option Nat :=
  difference buffer.composedSize buffer.lines

theorem screenBase_eq (shaped : buffer.Shaped lines columns limit) :
    screenBase buffer = some buffer.screenBase :=
  difference_eq (shaped.lines_eq ▸ shaped.lines_le_composedSize)

/-- A composed row that there is. -/
def composedRow (buffer : ScreenBuffer) (index : Nat) : Option Row :=
  if buffer.onAlternate then buffer.alternate[index]? else buffer.ring.get? index

theorem composedRow_eq
    (shaped : buffer.Shaped lines columns limit)
    {index : Nat}
    (inside : index < buffer.composedSize) :
    composedRow buffer index = some (buffer.composedRow index) := by
  rw [shaped.composedSize_eq] at inside
  unfold composedRow ScreenBuffer.composedRow
  split
  · next onAlternate =>
      have indexInside : index < buffer.alternate.size := by
        simpa [onAlternate, shaped.alternate_size] using inside
      simp [Array.getElem?_eq_getElem indexInside]
  · obtain ⟨row, found⟩ := Ring.exists_get? shaped.start_lt_size index
    simp [ScreenBuffer.ringRow, found]

/-- Change a composed row that there is, by a change with checks of its own. -/
def modifyComposed (buffer : ScreenBuffer) (index : Nat) (change : Row → Option Row) :
    Option ScreenBuffer := do
  let row ← composedRow buffer index
  let changed ← change row
  return buffer.modifyComposed index fun _ => changed

theorem array_modify_const {items : Array Row} {index : Nat} {row : Row}
    (found : items[index]? = some row) (change : Row → Row) :
    items.modify index (fun _ => change row) = items.modify index change := by
  ext place inside _
  · simp
  · simp only [Array.size_modify] at inside
    rw [Array.getElem_modify, Array.getElem_modify]
    split
    · next same =>
        subst same
        rw [Array.getElem?_eq_getElem inside] at found
        rw [Option.some.inj found]
    · rfl

theorem modifyComposed_eq
    (shaped : buffer.Shaped lines columns limit)
    {index : Nat}
    (inside : index < buffer.composedSize)
    {checked : Row → Option Row} {change : Row → Row}
    (passes : ∀ row : Row, row.cells.length = columns → checked row = some (change row)) :
    modifyComposed buffer index checked = some (buffer.modifyComposed index change) := by
  have found := composedRow_eq shaped inside
  have sameChange :
      buffer.modifyComposed index (fun _ => change (buffer.composedRow index)) =
        buffer.modifyComposed index change := by
    unfold composedRow at found
    unfold ScreenBuffer.modifyComposed
    split at found
    · next onAlternate => simp [onAlternate, array_modify_const found]
    · next onMain => simp [onMain, Ring.modify, array_modify_const found]
  simp [modifyComposed, found, passes _ (shaped.composedRow_width inside), sameChange]

/-- Change a row of the screen. -/
def modifyScreen (buffer : ScreenBuffer) (y : Nat) (change : Row → Option Row) :
    Option ScreenBuffer := do
  let base ← screenBase buffer
  modifyComposed buffer (base + y) change

theorem screenRow_inside
    (shaped : buffer.Shaped lines columns limit)
    {y : Nat}
    (inside : y < lines) :
    buffer.screenBase + y < buffer.composedSize := by
  have all := shaped.screenBase_add_lines
  omega

theorem modifyScreen_eq
    (shaped : buffer.Shaped lines columns limit)
    {y : Nat}
    (inside : y < lines)
    {checked : Row → Option Row} {change : Row → Row}
    (passes : ∀ row : Row, row.cells.length = columns → checked row = some (change row)) :
    modifyScreen buffer y checked = some (buffer.modifyScreen y change) := by
  simp [modifyScreen, screenBase_eq shaped, ScreenBuffer.modifyScreen,
    modifyComposed_eq shaped (screenRow_inside shaped inside) passes]

/-- Exchange two rows of the screen. -/
def swapScreen (buffer : ScreenBuffer) (first second : Nat) : Option ScreenBuffer := do
  let base ← screenBase buffer
  let _ ← composedRow buffer (base + first)
  let _ ← composedRow buffer (base + second)
  return buffer.swapScreen first second

theorem swapScreen_eq
    (shaped : buffer.Shaped lines columns limit)
    {first second : Nat}
    (firstInside : first < lines)
    (secondInside : second < lines) :
    swapScreen buffer first second = some (buffer.swapScreen first second) := by
  simp [swapScreen, screenBase_eq shaped,
    composedRow_eq shaped (screenRow_inside shaped firstInside),
    composedRow_eq shaped (screenRow_inside shaped secondInside)]

/-- Overwrite every cell of `count` rows of the screen from row `top` on. -/
def clearScreenRows (buffer : ScreenBuffer) (top count : Nat) (fill : Cell) :
    Option ScreenBuffer :=
  (List.range count).foldlM
    (fun current k => modifyScreen current (top + k) fun row => some (row.clear fill)) buffer

theorem clearScreenRows_eq
    (shaped : buffer.Shaped lines columns limit)
    {top count : Nat}
    (inside : top + count ≤ lines)
    (fill : Cell) :
    clearScreenRows buffer top count fill = some (buffer.clearScreenRows top count fill) := by
  apply foldlM_eq (ScreenBuffer.Shaped lines columns limit) shaped
  · intro current k currentShaped
    exact currentShaped.modifyScreen _ (by simp)
  · intro current k member currentShaped
    rw [List.mem_range] at member
    exact modifyScreen_eq currentShaped (by omega) fun _ _ => rfl

/-- Scroll the whole main screen up by a row. A ring that still grows begins
at its first slot. -/
def advance (buffer : ScreenBuffer) (fill : Cell) : Option (ScreenBuffer × Bool) := do
  if buffer.ring.size < buffer.capacity then
    guard (buffer.ring.start = 0)
  else
    guard (buffer.ring.start < buffer.ring.size)
  return buffer.advance fill

theorem advance_eq (shaped : buffer.Shaped lines columns limit) (fill : Cell) :
    advance buffer fill = some (buffer.advance fill) := by
  have linesEq := shaped.lines_eq
  have limitEq := shaped.limit_eq
  have straight := shaped.start_eq_zero_or_full
  by_cases notFull : buffer.ring.size < buffer.capacity
  · have started : buffer.ring.start = 0 := by
      rw [ScreenBuffer.capacity] at notFull
      omega
    simp [advance, notFull, started]
  · simp [advance, notFull, shaped.start_lt_size]

/-- Move the rows `top` to `bottom` of the screen up by `count`. -/
def shiftUp (buffer : ScreenBuffer) (top bottom count : Nat) (fill : Cell) :
    Option ScreenBuffer := do
  let stop ← difference (bottom + 1) count
  let moved ← (List.range (bottom + 1 - top - count)).foldlM
    (fun current k => swapScreen current (top + k) (top + k + count)) buffer
  clearScreenRows moved stop count fill

theorem shiftUp_eq
    (shaped : buffer.Shaped lines columns limit)
    {top bottom count : Nat}
    (ordered : top ≤ bottom)
    (inside : bottom < lines)
    (atMost : count ≤ bottom + 1 - top)
    (fill : Cell) :
    shiftUp buffer top bottom count fill = some (buffer.shiftUp top bottom count fill) := by
  have moves :
      (List.range (bottom + 1 - top - count)).foldlM
          (fun current k => swapScreen current (top + k) (top + k + count)) buffer =
        some
          ((List.range (bottom + 1 - top - count)).foldl
            (fun current k => current.swapScreen (top + k) (top + k + count)) buffer) := by
    apply foldlM_eq (ScreenBuffer.Shaped lines columns limit) shaped
    · exact fun _ _ currentShaped => currentShaped.swapScreen _ _
    · intro current k member currentShaped
      rw [List.mem_range] at member
      exact swapScreen_eq currentShaped (by omega) (by omega)
  have movedShaped :
      ((List.range (bottom + 1 - top - count)).foldl
        (fun current k => current.swapScreen (top + k) (top + k + count))
        buffer).Shaped lines columns limit :=
    shaped.foldl fun _ _ currentShaped => currentShaped.swapScreen _ _
  have fits : count ≤ bottom + 1 := by omega
  rw [shiftUp, difference_eq fits, moves]
  exact clearScreenRows_eq movedShaped (by omega) fill

/-- Move the rows `top` to `bottom` of the screen down by `count`. -/
def shiftDown (buffer : ScreenBuffer) (top bottom count : Nat) (fill : Cell) :
    Option ScreenBuffer := do
  let moved ← (List.range (bottom + 1 - top - count)).foldlM
    (fun current k => do
      let target ← difference bottom k
      let origin ← difference target count
      swapScreen current target origin) buffer
  clearScreenRows moved top count fill

theorem shiftDown_eq
    (shaped : buffer.Shaped lines columns limit)
    {top bottom count : Nat}
    (ordered : top ≤ bottom)
    (inside : bottom < lines)
    (atMost : count ≤ bottom + 1 - top)
    (fill : Cell) :
    shiftDown buffer top bottom count fill = some (buffer.shiftDown top bottom count fill) := by
  have moves :
      (List.range (bottom + 1 - top - count)).foldlM
          (fun current k => do
            let target ← difference bottom k
            let origin ← difference target count
            swapScreen current target origin) buffer =
        some
          ((List.range (bottom + 1 - top - count)).foldl
            (fun current k => current.swapScreen (bottom - k) (bottom - k - count))
            buffer) := by
    apply foldlM_eq (ScreenBuffer.Shaped lines columns limit) shaped
    · exact fun _ _ currentShaped => currentShaped.swapScreen _ _
    · intro current k member currentShaped
      rw [List.mem_range] at member
      have targetInside : k ≤ bottom := by omega
      have originInside : count ≤ bottom - k := by omega
      simp only [difference_eq targetInside, difference_eq originInside, Option.bind_eq_bind,
        Option.bind_some]
      exact swapScreen_eq currentShaped (by omega) (by omega)
  have movedShaped :
      ((List.range (bottom + 1 - top - count)).foldl
        (fun current k => current.swapScreen (bottom - k) (bottom - k - count))
        buffer).Shaped lines columns limit :=
    shaped.foldl fun _ _ currentShaped => currentShaped.swapScreen _ _
  rw [shiftDown, moves]
  exact clearScreenRows_eq movedShaped (by omega) fill

/-- Move the rows `top` to `bottom` of the screen by `amount`. -/
def scrollRows (buffer : ScreenBuffer) (top bottom : Nat) (amount : Int) (fill : Cell) :
    Option ScreenBuffer :=
  if top > bottom ∨ bottom ≥ buffer.lines ∨ amount = 0 then some buffer
  else do
    let height ← difference bottom top
    let count := min amount.natAbs (height + 1)
    if amount > 0 then shiftUp buffer top bottom count fill
    else shiftDown buffer top bottom count fill

theorem scrollRows_eq
    (shaped : buffer.Shaped lines columns limit)
    (top bottom : Nat) (amount : Int) (fill : Cell) :
    scrollRows buffer top bottom amount fill =
      some (buffer.scrollRows top bottom amount fill) := by
  unfold scrollRows ScreenBuffer.scrollRows
  split
  · rfl
  · next valid =>
      rw [shaped.lines_eq] at valid
      have ordered : top ≤ bottom := by omega
      have sameHeight : bottom - top + 1 = bottom + 1 - top := by omega
      simp only [difference_eq ordered, sameHeight, Option.bind_eq_bind, Option.bind_some]
      split
      · exact shiftUp_eq shaped ordered (by omega) (Nat.min_le_right _ _) fill
      · exact shiftDown_eq shaped ordered (by omega) (Nat.min_le_right _ _) fill

/-- Forget the history: the storage is rotated and its first rows are cut off. -/
def clearHistory (buffer : ScreenBuffer) : Option ScreenBuffer := do
  guard (buffer.ring.start ≤ buffer.ring.size)
  let excess ← difference buffer.ring.size buffer.lines
  guard (excess ≤ buffer.ring.size)
  return buffer.clearHistory

theorem clearHistory_eq (shaped : buffer.Shaped lines columns limit) :
    clearHistory buffer = some buffer.clearHistory := by
  have started := Nat.le_of_lt shaped.start_lt_size
  have enough : buffer.lines ≤ buffer.ring.size := shaped.lines_eq ▸ shaped.lines_le_size
  simp [clearHistory, started, difference_eq enough]

end Screens

end VideoTerminal.Checked
