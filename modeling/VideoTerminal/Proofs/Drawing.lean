import Mathlib.Data.List.Chain
import VideoTerminal.Proofs.MovedCells
import VideoTerminal.Proofs.RenditionSequence

/-!
Rows of cells drawn on a blank screen, from its first row down. A row that is
filled up to the last column is left with the cursor after it, and only the
next cell goes to the next row; a shorter one is ended by a line break.
-/

namespace VideoTerminal

/-- The cell of a place in some rows; blank where they have none. -/
def drawnCell (rows : List (List Cell)) (x y : Nat) : Cell :=
  (rows[y]?.getD [])[x]?.getD {}

section DrawnCell

variable {rows : List (List Cell)} {row : List Cell} {x y : Nat}

theorem drawnCell_append_nil : drawnCell (rows ++ [[]]) x y = drawnCell rows x y := by
  rw [drawnCell, drawnCell]
  grind

theorem drawnCell_append_cell (cell : Cell) :
    drawnCell (rows ++ [row ++ [cell]]) x y =
      if y = rows.length then if x = row.length then cell else drawnCell (rows ++ [row]) x y
      else drawnCell (rows ++ [row]) x y := by
  rw [drawnCell, drawnCell]
  grind

theorem drawnCell_map (draw : List Cell → List Cell) (inside : y < rows.length) :
    drawnCell (rows.map draw) x y = (draw rows[y])[x]?.getD {} := by
  rw [drawnCell, List.getElem?_map, List.getElem?_eq_getElem inside]
  rfl

theorem drawnCell_of_length_le (below : rows.length ≤ y) : drawnCell rows x y = {} := by
  rw [drawnCell, List.getElem?_eq_none below]
  rfl

end DrawnCell

namespace Terminal

theorem edit_frame (terminal : Terminal) (y : Nat) (edit : RowEdit) :
    terminal.edit y edit =
      { terminal with
        buffer := (terminal.edit y edit).buffer
        mainBlink := (terminal.edit y edit).mainBlink
        alternateBlink := (terminal.edit y edit).alternateBlink } := by
  rw [Terminal.edit, modifyBlink_frame]
  rfl

/-- The terminal has drawn some rows and a part of the next one, at whose end
the cursor is. There is nothing else on its screen, and nothing is set but the
pen. -/
structure Draws (lines columns limit : Nat) (pen : Rendition) (done : List (List Cell))
    (current : List Cell) (terminal : Terminal) : Prop where
  wellFormed : terminal.WellFormed lines columns limit
  blinkIsBold_eq : terminal.blinkIsBold = false
  modes_eq : terminal.modes = {}
  bottom_eq : terminal.margins.bottom = lines - 1
  pen_eq : terminal.pen = pen
  cursor_eq : terminal.cursor = ⟨current.length, done.length⟩
  cell_eq : ∀ x < columns, ∀ y < lines,
    terminal.cell x y = drawnCell (done ++ [current]) x y

namespace Draws

variable {lines columns limit : Nat} {pen : Rendition} {done : List (List Cell)}
variable {current : List Cell} {terminal : Terminal}

theorem withPen
    (draws : terminal.Draws lines columns limit pen done current) (other : Rendition) :
    { terminal with pen := other }.Draws lines columns limit other done current :=
  { draws with
    wellFormed := draws.wellFormed.withPen other
    pen_eq := rfl }

/-! ## The next row -/

/-- There is a row below the cursor for it to go to. -/
theorem index_eq
    (draws : terminal.Draws lines columns limit pen done current)
    (room : done.length + 1 < lines)
    (buffer : ScreenBuffer) :
    index { terminal with buffer, cursor := ⟨0, done.length⟩ } =
      ({ terminal with buffer, cursor := ⟨0, done.length + 1⟩ }, true) := by
  have above : done.length ≠ terminal.margins.bottom := by
    rw [draws.bottom_eq]
    omega
  have inside : done.length + 1 < terminal.lines := by
    rw [draws.wellFormed.lines_eq]
    exact room
  rw [index, if_neg above, if_pos inside]

/-- The cursor goes to the beginning of the next row, and no cell changes. -/
theorem nextRow
    (draws : terminal.Draws lines columns limit pen done current)
    (room : done.length + 1 < lines)
    {buffer : ScreenBuffer}
    (shaped : buffer.Shaped lines columns limit)
    (same : terminal.buffer.SameCells buffer) :
    { terminal with buffer, cursor := ⟨0, done.length + 1⟩ }.Draws lines columns limit pen
      (done ++ [current]) [] :=
  { draws with
    wellFormed := (draws.wellFormed.withBuffer shaped).withCursor (Nat.zero_le columns) room
    cursor_eq := by
      rw [List.length_append, List.length_singleton]
      rfl
    cell_eq := fun x column y inside => by
      rw [drawnCell_append_nil, ← draws.cell_eq x column y inside]
      exact cell_of_sameCells draws.wellFormed shaped same inside }

/-- A line break, whether or not the row is full. -/
theorem lineBreak
    (draws : terminal.Draws lines columns limit pen done current)
    (room : done.length + 1 < lines) :
    terminal.carriageReturn.lineFeed.Draws lines columns limit pen (done ++ [current]) [] := by
  have completed :
      terminal.carriageReturn.lineFeed =
        beginNextLine
          { terminal with
            buffer := terminal.carriageReturn.completeLine.buffer
            cursor := ⟨0, done.length⟩ } := by
    have firstColumn :
        (if terminal.modes.newLine then 0 else min 0 (terminal.columns - 1)) = 0 := by
      rw [Nat.zero_min, ite_self]
    have row : terminal.cursor.y = done.length := by rw [draws.cursor_eq]
    rw [← row]
    conv_rhs => rw [← firstColumn]
    rfl
  rw [completed, beginNextLine, draws.index_eq room]
  have returned := draws.wellFormed.carriageReturn.completeLine
  apply draws.nextRow room (returned.shaped.beginLine _)
  exact ((ScreenBuffer.SameCells.completeLine _ _ _).trans (.completeLine _ _ _)).trans
    (.beginLine _ _)

/-- A full row is left for the next one before another cell is drawn. -/
theorem wrap
    (draws : terminal.Draws lines columns limit pen done current)
    (full : current.length = columns)
    (room : done.length + 1 < lines) :
    terminal.wrap.Draws lines columns limit pen (done ++ [current]) [] := by
  have after : ¬terminal.cursor.x < terminal.columns := by
    rw [draws.cursor_eq, draws.wellFormed.columns_eq]
    exact Nat.not_lt.mpr (Nat.le_of_eq full.symm)
  have wrapping : terminal.modes.autoWrap = true := by rw [draws.modes_eq]
  have row : terminal.cursor.y = done.length := by rw [draws.cursor_eq]
  have moved :
      index { terminal with cursor := ⟨0, terminal.cursor.y⟩ } =
        ({ terminal with cursor := ⟨0, done.length + 1⟩ }, true) := by
    rw [row]
    exact draws.index_eq room terminal.buffer
  have wrapped :
      terminal.wrap =
        { terminal with
          buffer := terminal.buffer.continueLine (done.length + 1)
          cursor := ⟨0, done.length + 1⟩ } := by
    rw [Terminal.wrap, if_neg after, if_pos wrapping]
    dsimp only
    rw [moved, row]
    exact if_pos (Or.inl (Nat.succ_ne_self _))
  rw [wrapped]
  exact draws.nextRow room (draws.wellFormed.shaped.continueLine _) (.continueLine _ _)

/-! ## Characters -/

theorem wrap_eq_self
    (draws : terminal.Draws lines columns limit pen done current)
    (room : current.length < columns) :
    terminal.wrap = terminal := by
  have inside : terminal.cursor.x < terminal.columns := by
    rw [draws.cursor_eq, draws.wellFormed.columns_eq]
    exact room
  rw [Terminal.wrap, if_pos inside]

/-- A character overwrites the cell after the part of the row that is drawn. -/
theorem putCell_eq
    (draws : terminal.Draws lines columns limit pen done current) (char : Char) :
    terminal.putCell ⟨char, pen⟩ =
      (terminal.edit done.length (.put current.length ⟨char, pen⟩)).markDamage done.length
        current.length (current.length + 1) := by
  have put : Steps.writing terminal ⟨char, pen⟩ = .put current.length ⟨char, pen⟩ := by
    rw [Steps.writing, draws.modes_eq, draws.cursor_eq]
    rfl
  rw [Steps.putCell_eq, put, draws.cursor_eq, draws.modes_eq]
  rfl

/-- A character is one cell more of the row where it is put. -/
theorem print
    (draws : terminal.wrap.Draws lines columns limit pen done current)
    (room : current.length < columns)
    (char : Char) :
    (terminal.print char).Draws lines columns limit pen done (current ++ [⟨char, pen⟩]) := by
  have row : done.length < lines := by
    have inside := draws.wellFormed.cursor_row
    rwa [draws.cursor_eq] at inside
  have column : terminal.wrap.cursor.x < columns := by
    rw [draws.cursor_eq]
    exact room
  have printed :
      terminal.print char =
        { terminal.wrap.putCell ⟨char, pen⟩ with
          cursor := ⟨current.length + 1, done.length⟩ } := by
    rw [Terminal.print]
    dsimp only
    rw [putCell_cursor, draws.cursor_eq, draws.pen_eq]
  have wellFormed := draws.wellFormed.putCell column ⟨char, pen⟩
  rw [draws.putCell_eq] at printed wellFormed
  rw [printed]
  exact
    { wellFormed := wellFormed.withCursor room row
      blinkIsBold_eq := by
        change (terminal.wrap.edit _ _).blinkIsBold = false
        rw [edit_frame]
        exact draws.blinkIsBold_eq
      modes_eq := by
        change (terminal.wrap.edit _ _).modes = {}
        rw [edit_frame]
        exact draws.modes_eq
      bottom_eq := by
        change (terminal.wrap.edit _ _).margins.bottom = lines - 1
        rw [edit_frame]
        exact draws.bottom_eq
      pen_eq := by
        change (terminal.wrap.edit _ _).pen = pen
        rw [edit_frame]
        exact draws.pen_eq
      cursor_eq := by
        rw [List.length_append, List.length_singleton]
      cell_eq := fun x columnInside y inside => by
        change (terminal.wrap.edit _ (.put _ _)).cell x y = _
        have fits : (RowEdit.put current.length ⟨char, pen⟩).Fits columns := room
        rw [cell_edit draws.wellFormed fits row columnInside inside, drawnCell_append_cell,
          RowEdit.cellAt, draws.cell_eq x columnInside y inside,
          draws.cell_eq x columnInside _ row]
        split
        · next here => rw [here]
        · rfl }

end Draws

end Terminal

/-! ## Written cells read again -/

namespace Console

open Export

/-- No sequence is being read, and the terminal has drawn some rows and a part
of the next one. -/
structure Draws (lines columns limit : Nat) (pen : Rendition) (done : List (List Cell))
    (current : List Cell) (console : Console) : Prop where
  quiet : console.Quiet
  drawn : console.terminal.Draws lines columns limit pen done current

variable {lines columns limit : Nat} {pen : Rendition} {done before : List (List Cell)}
variable {current : List Cell} {console : Console}

theorem feed_nil (quiet : console.Quiet) : console.feed [] = console :=
  feed_printable quiet nofun

namespace Draws

theorem select
    (draws : console.Draws lines columns limit pen done current) (other : Rendition) :
    (console.feed other.sequence).Draws lines columns limit other done current := by
  rw [feed_sequence draws.quiet draws.drawn.blinkIsBold_eq]
  exact ⟨draws.quiet, draws.drawn.withPen other⟩

theorem lineBreak
    (draws : console.Draws lines columns limit pen done current)
    (room : done.length + 1 < lines) :
    (console.feed ['\r', '\n']).Draws lines columns limit pen (done ++ [current]) [] := by
  rw [feed_lineBreak draws.quiet]
  exact ⟨draws.quiet, draws.drawn.lineBreak room⟩

/-- A written cell is printed with its rendition. -/
theorem feed_ansiCell
    (draws : console.Draws lines columns limit pen done current)
    {cell : Cell}
    (printable : cell.Printable) :
    console.feed (ansiCell pen cell).2 =
      { console with
        terminal := { console.terminal with pen := cell.rendition }.print cell.char } := by
  have single : ∀ char ∈ [cell.char], Text.isControl char = false := by
    intro char member
    rwa [List.mem_singleton.mp member]
  rw [ansiCell]
  split
  · next same =>
      rw [feed_printable draws.quiet single, same, ← draws.drawn.pen_eq]
      rfl
  · rw [feed_append, feed_printable (draws.select cell.rendition).quiet single,
      feed_sequence draws.quiet draws.drawn.blinkIsBold_eq]
    rfl

theorem ansiCell_fst (pen : Rendition) (cell : Cell) : (ansiCell pen cell).1 = cell.rendition := by
  rw [ansiCell]
  split
  · next same => exact same.symm
  · rfl

/-- A written cell is drawn in the row, if that has room for it. -/
theorem cell
    (draws : console.Draws lines columns limit pen done current)
    (room : current.length < columns)
    {cell : Cell}
    (printable : cell.Printable) :
    (console.feed (ansiCell pen cell).2).Draws lines columns limit (ansiCell pen cell).1 done
      (current ++ [cell]) := by
  have ready := draws.drawn.withPen cell.rendition
  rw [draws.feed_ansiCell printable, ansiCell_fst]
  rw [← ready.wrap_eq_self room] at ready
  exact ⟨draws.quiet, ready.print room cell.char⟩

/-- A written cell is drawn in the next row, if the row is full. -/
theorem cell_of_full
    (draws : console.Draws lines columns limit pen done current)
    (full : current.length = columns)
    (room : done.length + 1 < lines)
    {cell : Cell}
    (printable : cell.Printable) :
    (console.feed (ansiCell pen cell).2).Draws lines columns limit (ansiCell pen cell).1
      (done ++ [current]) [cell] := by
  have ready := (draws.drawn.withPen cell.rendition).wrap full room
  rw [draws.feed_ansiCell printable, ansiCell_fst]
  exact ⟨draws.quiet, ready.print draws.drawn.wellFormed.columns_pos cell.char⟩

/-- Written cells are drawn in the row, if that has room for them all. -/
theorem cells
    (draws : console.Draws lines columns limit pen done current)
    {cells : List Cell}
    (fits : current.length + cells.length ≤ columns)
    (printable : ∀ cell ∈ cells, cell.Printable) :
    (console.feed (writeCells ansiCell pen cells).2).Draws lines columns limit
      (writeCells ansiCell pen cells).1 done (current ++ cells) := by
  induction cells generalizing console pen current with
  | nil =>
      rw [writeCells, feed_nil draws.quiet, List.append_nil]
      exact draws
  | cons cell rest inductionHypothesis =>
      rw [List.length_cons] at fits
      have first := draws.cell (by omega) (printable cell List.mem_cons_self)
      have others :=
        inductionHypothesis first
          (by rw [List.length_append, List.length_singleton]; omega)
          fun other member => printable other (List.mem_cons_of_mem cell member)
      rw [List.append_assoc, List.singleton_append] at others
      rw [writeCells]
      dsimp only
      rw [feed_append]
      exact others

end Draws

/-! ## Rows -/

/-- Some rows have been drawn and no part of the next one. The cursor is at the
beginning of that row, or still after the last column of the row before. -/
inductive DrawsRows (lines columns limit : Nat) (pen : Rendition) :
    List (List Cell) → Console → Prop
  | begun {before : List (List Cell)} {console : Console} :
      console.Draws lines columns limit pen before [] →
        DrawsRows lines columns limit pen before console
  | filled {done : List (List Cell)} {current : List Cell} {console : Console} :
      current.length = columns → console.Draws lines columns limit pen done current →
        DrawsRows lines columns limit pen (done ++ [current]) console

/-- Something is drawn in every row after a full one. Nothing would begin such
a row. -/
def Parted (columns : Nat) (rows : List (List Cell)) : Prop :=
  rows.IsChain fun first second => first.length = columns → second ≠ []

namespace DrawsRows

theorem cell_eq
    (draws : DrawsRows lines columns limit pen before console)
    {x y : Nat}
    (column : x < columns)
    (inside : y < lines) :
    console.terminal.cell x y = drawnCell before x y := by
  cases draws with
  | begun draws => rw [draws.drawn.cell_eq x column y inside, drawnCell_append_nil]
  | filled full draws => exact draws.drawn.cell_eq x column y inside

theorem quiet (draws : DrawsRows lines columns limit pen before console) : console.Quiet := by
  cases draws with
  | begun draws => exact draws.quiet
  | filled full draws => exact draws.quiet

theorem select (draws : DrawsRows lines columns limit pen before console) (other : Rendition) :
    DrawsRows lines columns limit other before (console.feed other.sequence) := by
  cases draws with
  | begun draws => exact begun (draws.select other)
  | filled full draws => exact filled full (draws.select other)

/-- Written cells are drawn in the next row. -/
theorem cells
    (draws : DrawsRows lines columns limit pen before console)
    {cells : List Cell}
    (fits : cells.length ≤ columns)
    (printable : ∀ cell ∈ cells, cell.Printable)
    (room : before.length < lines)
    (parted : Parted columns (before ++ [cells])) :
    (console.feed (writeCells ansiCell pen cells).2).Draws lines columns limit
      (writeCells ansiCell pen cells).1 before cells := by
  cases draws with
  | begun draws => exact draws.cells (by rw [List.length_nil]; omega) printable
  | @filled done current _ full draws =>
      have some : cells ≠ [] := by
        rw [Parted, List.append_assoc, List.singleton_append,
          List.isChain_append_cons_cons] at parted
        exact parted.2.1 full
      rcases cells with _ | ⟨cell, rest⟩
      · exact absurd rfl some
      · rw [List.length_append, List.length_singleton] at room
        have first := draws.cell_of_full full room (printable cell List.mem_cons_self)
        rw [writeCells]
        dsimp only
        rw [feed_append]
        exact first.cells (by simpa [Nat.add_comm] using fits) fun other member =>
          printable other (List.mem_cons_of_mem cell member)

/-- A written segment is drawn as the next row, as far as it can be seen. -/
theorem segment
    (draws : DrawsRows lines columns limit pen before console)
    {segment : List Cell}
    (width : segment.length = columns)
    (printable : ∀ cell ∈ segment, cell.Printable)
    (room : before.length + 1 < lines)
    (parted : Parted columns (before ++ [visible segment])) :
    DrawsRows lines columns limit (writeCells ansiCell pen (visible segment)).1
      (before ++ [visible segment])
      (console.feed
        ((writeCells ansiCell pen (visible segment)).2 ++
          if (visible segment).length < segment.length then ['\r', '\n'] else [])) := by
  have shorter : (visible segment).length ≤ columns := width ▸ Text.length_trimEnd_le
  have drawn := draws.cells shorter
    (fun cell member => printable cell (Text.mem_of_mem_trimEnd member)) (by omega) parted
  rw [feed_append]
  split
  · exact begun (drawn.lineBreak room)
  · next full =>
      rw [feed_nil drawn.quiet]
      exact filled (by omega) drawn

/-- Written segments are drawn as rows. -/
theorem segments
    (draws : DrawsRows lines columns limit pen before console)
    {segments : List (List Cell)}
    (widths : ∀ segment ∈ segments, segment.length = columns)
    (printable : ∀ segment ∈ segments, ∀ cell ∈ segment, cell.Printable)
    (room : before.length + segments.length < lines)
    (parted : Parted columns (before ++ segments.map visible)) :
    DrawsRows lines columns limit (styled ansiCell ['\r', '\n'] pen segments).1
      (before ++ segments.map visible)
      (console.feed (styled ansiCell ['\r', '\n'] pen segments).2) := by
  induction segments generalizing before console pen with
  | nil =>
      rw [styled, feed_nil draws.quiet, List.map_nil, List.append_nil]
      exact draws
  | cons segment others inductionHypothesis =>
      rw [List.length_cons] at room
      rw [List.map_cons, List.append_cons] at parted
      have first :=
        draws.segment (widths segment List.mem_cons_self) (printable segment List.mem_cons_self)
          (by omega) parted.left_of_append
      have later :=
        inductionHypothesis first
          (fun other member => widths other (List.mem_cons_of_mem segment member))
          (fun other member => printable other (List.mem_cons_of_mem segment member))
          (by rw [List.length_append, List.length_singleton]; omega) parted
      rw [styled_cons, List.map_cons, List.append_cons]
      dsimp only
      rw [feed_append]
      exact later

/-- An export of segments, read from the beginning, draws them all. -/
theorem ansi
    (draws : DrawsRows lines columns limit {} before console)
    {segments : List (List Cell)}
    (widths : ∀ segment ∈ segments, segment.length = columns)
    (printable : ∀ segment ∈ segments, ∀ cell ∈ segment, cell.Printable)
    (room : before.length + segments.length < lines)
    (parted : Parted columns (before ++ segments.map visible)) :
    DrawsRows lines columns limit {} (before ++ segments.map visible)
      (console.feed (Export.ansi segments)) := by
  have drawn := draws.segments widths printable room parted
  rw [Export.ansi]
  dsimp only
  rw [feed_append]
  split
  · next plain =>
      rw [plain] at drawn
      rw [feed_nil drawn.quiet]
      exact drawn
  · exact drawn.select {}

end DrawsRows

end Console

end VideoTerminal
