import VideoTerminal.Proofs.Drawing
import VideoTerminal.Session.Basic

/-!
An export in sequences, fed to a blank terminal with as many columns: the
screen shows what could be seen of the exported rows.
-/

namespace VideoTerminal

namespace Text

variable {alpha : Type} {drop : alpha → Bool} {items : List alpha} {index : Nat}

/-- What is kept ends with an item that is not dropped. -/
theorem lt_length_trimEnd_iff :
    index < (trimEnd drop items).length ↔
      ∃ later, ∃ inside : later < items.length,
        index ≤ later ∧ drop items[later] = false := by
  obtain ⟨dropped, whole, allDropped⟩ := exists_trimEnd_append drop items
  have last (some : trimEnd drop items ≠ []) :
      drop ((trimEnd drop items).getLast some) = false := by
    have kept := List.rdropWhile_last_not drop items some
    rwa [Bool.not_eq_true] at kept
  generalize trimEnd drop items = kept at whole last
  subst whole
  constructor
  · intro inside
    have seen := last (List.ne_nil_of_length_pos (by omega))
    rw [List.getLast_eq_getElem] at seen
    refine ⟨kept.length - 1, ?_, by omega, ?_⟩
    · rw [List.length_append]
      omega
    · rwa [List.getElem_append_left (by omega)]
  · rintro ⟨later, inside, reached, seen⟩
    by_contra outside
    have after : kept.length ≤ later := by omega
    rw [List.getElem_append_right after, allDropped _ (List.getElem_mem _)] at seen
    cases seen

theorem getElem?_trimEnd (kept : index < (trimEnd drop items).length) :
    (trimEnd drop items)[index]? = items[index]? := by
  obtain ⟨dropped, whole, -⟩ := exists_trimEnd_append drop items
  conv_rhs => rw [← whole]
  rw [List.getElem?_append_left kept]

end Text

namespace ScreenBuffer

variable {buffer : ScreenBuffer}

/-- The cell of a place in the composed rows. -/
def composedCell (buffer : ScreenBuffer) (x row : Nat) : Cell :=
  (buffer.composedRow row).cells[x]?.getD {}

/-- Something can be seen in a composed row from a column on. -/
def VisibleFrom (buffer : ScreenBuffer) (x row : Nat) : Prop :=
  ∃ column, column < buffer.columns ∧
    x ≤ column ∧ Export.invisible (buffer.composedCell column row) = false

instance (x row : Nat) : Decidable (buffer.VisibleFrom x row) :=
  inferInstanceAs (Decidable (∃ column, column < buffer.columns ∧ _))

theorem lt_length_visible_iff
    {x row : Nat}
    (width : (buffer.composedRow row).cells.length = buffer.columns) :
    x < (Export.visible (buffer.composedRow row).cells).length ↔ buffer.VisibleFrom x row := by
  rw [Export.visible, Text.lt_length_trimEnd_iff, VisibleFrom, ← width]
  constructor
  · rintro ⟨column, inside, reached, seen⟩
    refine ⟨column, inside, reached, ?_⟩
    rwa [composedCell, List.getElem?_eq_getElem inside]
  · rintro ⟨column, inside, reached, seen⟩
    rw [composedCell, List.getElem?_eq_getElem inside] at seen
    exact ⟨column, inside, reached, seen⟩

/-- The cells of the composed rows. -/
def composedCells (buffer : ScreenBuffer) : List (List Cell) :=
  (List.range buffer.composedSize).map fun row => (buffer.composedRow row).cells

theorem length_composedCells : buffer.composedCells.length = buffer.composedSize := by
  rw [composedCells, List.length_map, List.length_range]

theorem getElem_composedCells {row : Nat} (inside : row < buffer.composedCells.length) :
    buffer.composedCells[row] = (buffer.composedRow row).cells := by
  simp only [composedCells, List.getElem_map, List.getElem_range]

/-- The cells of all rows, in one segment for each of them. -/
theorem segments_whole
    (columnsPositive : 0 < buffer.columns)
    (someRows : 0 < buffer.composedSize)
    (widths : ∀ row < buffer.composedSize,
      (buffer.composedRow row).cells.length = buffer.columns) :
    buffer.segments 0 (buffer.composedSize * buffer.columns - 1) = buffer.composedCells := by
  obtain ⟨above, aboveEq⟩ := Nat.exists_eq_add_of_le' someRows
  have stop :
      buffer.composedSize * buffer.columns - 1 = buffer.columns - 1 + above * buffer.columns := by
    rw [aboveEq, Nat.add_mul]
    omega
  have lastRow : (buffer.composedSize * buffer.columns - 1) / buffer.columns = above := by
    rw [stop, Nat.add_mul_div_right _ _ columnsPositive, Nat.div_eq_of_lt (by omega), Nat.zero_add]
  have lastColumn :
      (buffer.composedSize * buffer.columns - 1) % buffer.columns + 1 = buffer.columns := by
    rw [stop, Nat.add_mul_mod_self_right, Nat.mod_eq_of_lt (by omega), Nat.sub_add_cancel
      columnsPositive]
  rw [segments, lastRow, Nat.zero_div, Nat.sub_zero, ← aboveEq]
  apply List.map_congr_left
  intro row member
  have width := widths row (List.mem_range.mp member)
  rw [segment, lastColumn, Nat.zero_mod, ite_self, ite_self, Nat.zero_add, List.drop_zero,
    List.take_of_length_le (Nat.le_of_eq width)]

end ScreenBuffer

/-- A blank terminal has drawn nothing yet. -/
theorem Terminal.Draws.blank
    {settings : Settings}
    (linesPositive : 0 < settings.lines)
    (columnsPositive : 0 < settings.columns)
    (blinks : settings.blinkIsBold = false)
    (palette : Palette) :
    (Session.blankTerminal settings palette).Draws settings.lines settings.columns
      settings.historyLimit {} [] [] where
  wellFormed := { WellFormed.blank linesPositive columnsPositive settings.historyLimit with }
  blinkIsBold_eq := blinks
  modes_eq := rfl
  bottom_eq := rfl
  pen_eq := rfl
  cursor_eq := rfl
  cell_eq x column y inside := by
    have holds :
        (ScreenBuffer.blank settings.lines settings.columns settings.historyLimit).Holds
          (List.replicate settings.lines (Row.filled settings.columns {})) :=
      ⟨rfl, rfl⟩
    have base :
        (ScreenBuffer.blank settings.lines settings.columns
          settings.historyLimit).screenBase = 0 := by
      rw [ScreenBuffer.screenBase, holds.composedSize_eq, List.length_replicate]
      exact Nat.sub_self _
    have row := holds.composedRow_eq (List.getElem?_replicate_of_lt inside)
    change ((ScreenBuffer.blank settings.lines settings.columns
      settings.historyLimit).screenRow y).cells[x]?.getD {} = _
    rw [ScreenBuffer.screenRow, base, Nat.zero_add, row, getD_filled column,
      drawnCell_append_nil, drawnCell_of_length_le (Nat.zero_le y)]

namespace ScreenBuffer

variable {buffer : ScreenBuffer}

/-- No row of which nothing is drawn comes after a full one. -/
theorem parted_composedCells
    (columnsPositive : 0 < buffer.columns)
    (widths : ∀ row < buffer.composedSize,
      (buffer.composedRow row).cells.length = buffer.columns)
    (parted : ∀ row, row + 1 < buffer.composedSize →
      buffer.VisibleFrom (buffer.columns - 1) row → buffer.VisibleFrom 0 (row + 1)) :
    Console.Parted buffer.columns (buffer.composedCells.map Export.visible) := by
  rw [Console.Parted, List.isChain_iff_getElem]
  intro row next full
  rw [List.length_map, length_composedCells] at next
  simp only [List.getElem_map, getElem_composedCells] at full ⊢
  apply List.ne_nil_of_length_pos
  rw [lt_length_visible_iff (widths _ next)]
  apply parted row next
  rw [← lt_length_visible_iff (widths row (by omega)), full]
  exact Nat.sub_lt columnsPositive Nat.one_pos

/-- An export in sequences redraws the screen. Fed to a blank terminal with as
many columns and a row more, the export of all cells shows of each row what is
seen of it: its cells up to the last that is more than a space on the default
background. A row of which nothing is seen must not come after a row that is
seen up to the end, from which the cursor does not leave until the next cell
is drawn. -/
theorem replay_ansi
    {settings : Settings}
    (columnsPositive : 0 < buffer.columns)
    (someRows : 0 < buffer.composedSize)
    (widths : ∀ row < buffer.composedSize,
      (buffer.composedRow row).cells.length = buffer.columns)
    (printable : ∀ row < buffer.composedSize, (buffer.composedRow row).Printable)
    (parted : ∀ row, row + 1 < buffer.composedSize →
      buffer.VisibleFrom (buffer.columns - 1) row → buffer.VisibleFrom 0 (row + 1))
    (sameColumns : settings.columns = buffer.columns)
    (room : buffer.composedSize < settings.lines)
    (blinks : settings.blinkIsBold = false)
    (palette screenPalette : Palette) :
    ∃ text,
      buffer.exportRange palette 0 (buffer.composedSize * buffer.columns - 1) .ansi = .ok text ∧
        let blank : Console := { terminal := Session.blankTerminal settings screenPalette }
        let shown := (blank.feed text.toList).terminal
        ∀ x < settings.columns, ∀ y < settings.lines,
          shown.cell x y =
            if y < buffer.composedSize ∧ buffer.VisibleFrom x y then buffer.composedCell x y
            else {} := by
  have some : 0 < buffer.composedSize * buffer.columns := Nat.mul_pos someRows columnsPositive
  refine ⟨_, exportRange_of_valid (Nat.zero_le _) (by omega) palette .ansi, ?_⟩
  intro blank shown x column y inside
  have begun :
      Console.DrawsRows settings.lines settings.columns settings.historyLimit {} [] blank :=
    .begun ⟨rfl, Terminal.Draws.blank (by omega) (by omega) blinks screenPalette⟩
  have drawn :
      Console.DrawsRows settings.lines settings.columns settings.historyLimit {}
        (buffer.composedCells.map Export.visible)
        (blank.feed (Export.ansi buffer.composedCells)) := by
    apply begun.ansi
    · intro segment member
      rcases List.mem_map.mp member with ⟨row, rowMember, rfl⟩
      exact (widths row (List.mem_range.mp rowMember)).trans sameColumns.symm
    · intro segment member
      rcases List.mem_map.mp member with ⟨row, rowMember, rfl⟩
      exact printable row (List.mem_range.mp rowMember)
    · rw [List.length_nil, Nat.zero_add, length_composedCells]
      exact room
    · rw [sameColumns]
      exact parted_composedCells columnsPositive widths parted
  have here : shown.cell x y = drawnCell (buffer.composedCells.map Export.visible) x y := by
    rw [← drawn.cell_eq column inside, ← segments_whole columnsPositive someRows widths]
    simp only [shown, String.toList_ofList]
    rfl
  rw [here]
  by_cases above : y < buffer.composedSize
  · have row : y < buffer.composedCells.length := by rwa [length_composedCells]
    rw [drawnCell_map _ row, getElem_composedCells]
    by_cases seen : buffer.VisibleFrom x y
    · have kept := (lt_length_visible_iff (widths y above)).mpr seen
      rw [if_pos ⟨above, seen⟩, Export.visible, Text.getElem?_trimEnd kept, composedCell]
    · have cut : ¬_ := fun kept => seen ((lt_length_visible_iff (widths y above)).mp kept)
      rw [if_neg fun both => seen both.2, List.getElem?_eq_none (Nat.not_lt.mp cut),
        Option.getD_none]
  · rw [if_neg fun both => above both.1, drawnCell_of_length_le]
    rw [List.length_map, length_composedCells]
    exact Nat.not_lt.mp above

/-- A full row in several renditions, a row that is cut, one of which nothing
is seen, and one that is seen up to a space in reverse video at its end. -/
theorem replay_ansi_four_rows :
    let loud : Rendition :=
      { foreground := .indexed 200, background := .direct ⟨1, 20, 255⟩
        bold := true, blink := true }
    let rows : List Row :=
      [{ cells := [⟨'a', loud⟩, ⟨'b', {}⟩, ⟨'c', { foreground := .indexed 9 }⟩] },
        { cells := [⟨'d', { italic := true }⟩, ⟨' ', { underline := true }⟩, {}] },
        { cells := [{}, {}, {}] },
        { cells := [{}, ⟨'e', loud⟩, ⟨' ', { reverse := true }⟩] }]
    let buffer : ScreenBuffer :=
      { columns := 3, lines := 2, historyLimit := 2, ring := Ring.ofList rows, alternate := #[] }
    let settings : Settings := { lines := 6, columns := 3, blinkIsBold := false }
    ∃ text,
      buffer.exportRange {} 0 11 .ansi = .ok text ∧
        let blank : Console := { terminal := Session.blankTerminal settings {} }
        let shown := (blank.feed text.toList).terminal
        ∀ x < 3, ∀ y < 6,
          shown.cell x y =
            if y < buffer.composedSize ∧ buffer.VisibleFrom x y then buffer.composedCell x y
            else {} := by
  intro loud rows buffer settings
  have widths : ∀ row < buffer.composedSize,
      (buffer.composedRow row).cells.length = buffer.columns := by
    decide
  have parted : ∀ row < 3,
      buffer.VisibleFrom (buffer.columns - 1) row → buffer.VisibleFrom 0 (row + 1) := by
    decide
  have room : buffer.composedSize < settings.lines := by decide
  exact replay_ansi (by decide) (by decide) widths (by decide)
    (fun row next => parted row (Nat.lt_of_succ_lt_succ next)) rfl room rfl {} {}

end ScreenBuffer

end VideoTerminal
