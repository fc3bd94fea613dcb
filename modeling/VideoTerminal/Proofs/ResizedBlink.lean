import VideoTerminal.Proofs.BlinkRun
import VideoTerminal.Proofs.HiddenResize
import VideoTerminal.Proofs.Redrawing

/-!
Blink marks and a new size. The cells keep their renditions when their rows are
wrapped anew, cut or filled up, but no mark is kept. So what blinks on the
screen afterwards is not marked, and the next blink has nothing drawn again but
the cursor.
-/

namespace VideoTerminal

/-! ## Damage of a blink without marks -/

namespace DamageLog

variable {log : DamageLog}

theorem not_covers_take (log : DamageLog) (x y : Nat) : ¬log.take.1.Covers x y := by
  rintro ⟨span, found, -⟩
  change (log.rows.map fun _ => none)[y]? = some (some span) at found
  rw [List.getElem?_map] at found
  cases slot : log.rows[y]? <;> rw [slot] at found <;> cases found

/-- A log that was just taken covers what is marked next, and nothing else. -/
theorem covers_mark_take
    {row start stop x y : Nat}
    (inside : row < log.rows.length) :
    (log.take.1.mark row start stop).Covers x y ↔ y = row ∧ start ≤ x ∧ x < stop := by
  have notFull : log.take.1.full = false := rfl
  have found : log.take.1.rows[row]? = some none := by
    change (log.rows.map fun _ => none)[row]? = some none
    rw [List.getElem?_map, List.getElem?_eq_getElem inside]
    rfl
  constructor
  · intro covers
    by_cases marks : start < stop
    · by_cases same : row = y
      · subst same
        obtain ⟨span, here, reached, within⟩ := covers
        rw [getElem?_rows_mark notFull marks found] at here
        obtain rfl : (⟨start, stop⟩ : Span) = span := Option.some.inj (Option.some.inj here)
        exact ⟨rfl, reached, within⟩
      · obtain ⟨span, here, columns⟩ := covers
        rw [getElem?_rows_mark_of_ne _ _ _ same] at here
        exact absurd ⟨span, here, columns⟩ (log.not_covers_take x y)
    · rw [DamageLog.mark, if_pos (Or.inr (Nat.not_lt.mp marks))] at covers
      exact absurd covers (log.not_covers_take x y)
  · rintro ⟨rfl, reached, within⟩
    have rowInside : y < log.take.1.rows.length := (List.getElem?_eq_some_iff.mp found).1
    exact covers_mark notFull rowInside reached within

end DamageLog

namespace Terminal

variable {lines columns limit : Nat} {terminal : Terminal}

/-- The damage of a blink right after the damage was taken. -/
def blinkDamage (terminal : Terminal) : Damage :=
  terminal.takeDamage.1.markBlink.takeDamage.2

/-- Without marks a blink damages the cell of the cursor only. -/
theorem blinkDamage_of_unmarked
    (wellFormed : terminal.WellFormed lines columns limit)
    (unmarked : terminal.blink.positions = []) :
    ∃ spans, terminal.blinkDamage = .spans spans ∧
      ∀ x y, Damage.Names spans x y ↔ ⟨x, y⟩ = terminal.cursorCell := by
  let log := terminal.noteCursor.damage
  let column := terminal.cursorColumn
  have rows : log.rows.length = lines := by
    have taken := wellFormed.takeDamage.damage_rows
    change (log.rows.map fun _ => none).length = lines at taken
    rwa [List.length_map] at taken
  have blinked :
      terminal.takeDamage.1.markBlink =
        { terminal.noteCursor with
          damage := log.take.1.mark terminal.cursor.y column (column + 1) } := by
    have stillUnmarked : terminal.takeDamage.1.blink.positions = [] := by
      rw [takeDamage_frame]
      exact unmarked
    rw [markBlink, stillUnmarked, List.foldl_nil, takeDamage_frame, noteCursor_frame]
    rfl
  have drawn :
      { terminal.noteCursor with
          damage := log.take.1.mark terminal.cursor.y column (column + 1) }.noteCursor =
        { terminal.noteCursor with
          damage := log.take.1.mark terminal.cursor.y column (column + 1) } := by
    refine if_pos ?_
    change terminal.noteCursor.drawnCursor = some terminal.noteCursor.cursor
    rw [noteCursor_frame]
  refine ⟨DamageLog.spansFrom 0 (log.take.1.mark terminal.cursor.y column (column + 1)).rows,
    ?_, ?_⟩
  · rw [blinkDamage, blinked, takeDamage, drawn]
    dsimp only
    rw [DamageLog.take, DamageLog.full_mark]
    rfl
  · intro x y
    have inside : terminal.cursor.y < log.rows.length := by
      rw [rows]
      exact wellFormed.cursor_row
    rw [DamageLog.names_spansFrom, DamageLog.covers_mark_take inside, cursorCell,
      Position.mk.injEq]
    change y = terminal.cursor.y ∧ column ≤ x ∧ x < column + 1 ↔ x = column ∧ y = terminal.cursor.y
    omega

end Terminal

/-! ## Cells after a new size -/

/-- A row that is cut or filled up keeps its cells in the columns that it has
before and after; the others are blank. -/
theorem Row.getD_cells_fit
    {columns x : Nat}
    (inside : x < columns)
    (row : Row) :
    (row.fit columns).cells[x]?.getD {} = row.cells[x]?.getD {} := by
  rw [Row.fit, List.getElem?_append, List.length_take, List.getElem?_take_of_lt inside]
  split
  · rfl
  · next beyond =>
      have missing : row.cells[x]? = none := List.getElem?_eq_none (by omega)
      rw [missing, List.getElem?_replicate]
      split <;> rfl

/-- A row is dark by its columns just if it is by its cells. -/
theorem Row.dark_iff
    {columns : Nat} {row : Row}
    (width : row.cells.length = columns) :
    (∀ x < columns, (row.cells[x]?.getD {}).rendition.blink = false) ↔
      ∀ cell ∈ row.cells, cell.rendition.blink = false := by
  subst width
  constructor
  · intro dark cell member
    obtain ⟨x, column, rfl⟩ := List.getElem_of_mem member
    have here := dark x column
    rwa [List.getElem?_eq_getElem column] at here
  · intro dark x column
    rw [List.getElem?_eq_getElem column]
    exact dark _ (List.getElem_mem column)

/-- The rows of the alternate screen are cut and filled up in this way. -/
theorem ScreenBuffer.getD_alternate_resize
    {lines columns x y : Nat}
    (column : x < columns)
    (row : y < lines)
    (buffer : ScreenBuffer) (cursor : Option (Nat × Nat)) :
    ((buffer.resize lines columns cursor).1.alternate[y]?.getD {}).cells[x]?.getD {} =
      (buffer.alternate[y]?.getD {}).cells[x]?.getD {} := by
  have laidOut :
      (buffer.resize lines columns cursor).1.alternate =
        ((buffer.alternate.toList.map (Row.fit columns)).take lines ++
          List.replicate (lines - buffer.alternate.size) (Row.filled columns {})).toArray := rfl
  rw [laidOut, List.getElem?_toArray, List.getElem?_append, List.length_take, List.length_map,
    Array.length_toList]
  split
  · next kept =>
      rw [List.getElem?_take_of_lt row, List.getElem?_map, Array.getElem?_toList,
        Array.getElem?_eq_getElem (by omega)]
      exact Row.getD_cells_fit column _
  · next beyond =>
      have missing : buffer.alternate[y]? = none := Array.getElem?_eq_none (by omega)
      have blank : ((Row.filled columns {}).cells[x]?.getD {}) = {} := by
        rw [Row.filled, List.getElem?_replicate]
        split <;> rfl
      rw [missing, List.getElem?_replicate]
      split
      · exact blank
      · rfl

namespace Terminal

variable {lines columns oldLines oldColumns limit : Nat} {terminal resized : Terminal}

/-- A new size shows the same screen, with its size, and takes the marks off
both. -/
theorem resize?_frame (accepted : terminal.resize? lines columns = some resized) :
    resized.onAlternate = terminal.onAlternate ∧
      resized.lines = lines ∧ resized.columns = columns ∧
      resized.mainBlink = {} ∧ resized.alternateBlink = {} := by
  unfold resize? at accepted
  split at accepted
  · cases accepted
  · obtain rfl := Option.some.inj accepted
    exact ⟨rfl, rfl, rfl, rfl, rfl⟩

theorem positions_blink_resize (accepted : terminal.resize? lines columns = some resized) :
    resized.blink.positions = [] := by
  obtain ⟨-, -, -, noMain, noAlternate⟩ := resize?_frame accepted
  rw [blink, noMain, noAlternate, ite_self]

instance (terminal : Terminal) : Decidable terminal.MarksExact :=
  decidable_of_iff
    (∀ x < terminal.columns, ∀ y < terminal.lines,
      (⟨x, y⟩ ∈ terminal.blink.positions ↔ (terminal.cell x y).rendition.blink = true))
    ⟨fun exact x y column row => exact x column y row,
      fun exact x column y row => exact x y column row⟩

/-- Without marks the index is exact just if nothing on the screen blinks. -/
theorem marksExact_iff_of_unmarked (unmarked : terminal.blink.positions = []) :
    terminal.MarksExact ↔
      ∀ x y, x < terminal.columns → y < terminal.lines →
        (terminal.cell x y).rendition.blink = false := by
  refine forall₄_congr fun x y _ _ => ?_
  rw [unmarked, iff_false_left List.not_mem_nil, Bool.not_eq_true]

theorem cell_of_alternate (shown : terminal.onAlternate = true) (x y : Nat) :
    terminal.cell x y = (terminal.buffer.alternate[y]?.getD {}).cells[x]?.getD {} := by
  have cellEq : terminal.cell x y = terminal.screenCell terminal.onAlternate x y := rfl
  rw [cellEq, shown, screenCell_alternate, Nat.sub_self, Nat.zero_add]

/-- Nothing blinks outside of the alternate screen. -/
theorem WellFormed.inside_of_blinks
    (wellFormed : terminal.WellFormed lines columns limit)
    (shown : terminal.onAlternate = true)
    {x y : Nat}
    (blinks : (terminal.cell x y).rendition.blink = true) :
    x < columns ∧ y < lines := by
  rw [cell_of_alternate shown] at blinks
  rcases Nat.lt_or_ge y terminal.buffer.alternate.size with row | below
  · rw [Array.getElem?_eq_getElem row, Option.getD_some] at blinks
    have width := wellFormed.shaped.alternate_width _ (Array.getElem_mem row)
    refine ⟨?_, wellFormed.shaped.alternate_size ▸ row⟩
    rw [← width]
    by_contra beyond
    rw [List.getElem?_eq_none (Nat.not_lt.mp beyond)] at blinks
    cases blinks
  · rw [Array.getElem?_eq_none below] at blinks
    cases blinks

/-- The alternate screen keeps its cells where it was and is. -/
theorem cell_resize_of_alternate
    (accepted : terminal.resize? lines columns = some resized)
    (shown : terminal.onAlternate = true)
    {x y : Nat}
    (column : x < columns)
    (row : y < lines) :
    resized.cell x y = terminal.cell x y := by
  obtain ⟨shownAfter, -⟩ := resize?_frame accepted
  rw [cell_of_alternate (shownAfter.trans shown), cell_of_alternate shown]
  unfold resize? at accepted
  split at accepted
  · cases accepted
  · obtain rfl := Option.some.inj accepted
    exact ScreenBuffer.getD_alternate_resize column row _ _

/-- The main screen shows the rewrapped rows that end with the cursor's row or
the last one that is not blank, unless that would hide the cursor's row. -/
theorem exists_cells_resize_of_main
    (wellFormed : terminal.WellFormed oldLines oldColumns limit)
    (accepted : terminal.resize? lines columns = some resized)
    (main : terminal.onAlternate = false) :
    ∃ rows x y,
      terminal.buffer.rewrapped columns (some (terminal.cursor.x, terminal.cursor.y)) =
          (rows, some (x, y)) ∧
        ∀ k < lines,
          (resized.buffer.screenRow k).cells =
            ScreenBuffer.cellsAt rows columns
              (min (max (y + 1) (ScreenBuffer.contentHeight rows) - lines) y + k) := by
  obtain ⟨linesPositive, columnsPositive, bufferEq, -⟩ := resize?_of_main main accepted
  obtain ⟨x, y, found, -, inside⟩ :=
    ScreenBuffer.rewrapped_cursor wellFormed.shaped columnsPositive wellFormed.cursor_column
      wellFormed.cursor_row
  have rewrapped :
      terminal.buffer.rewrapped columns (some (terminal.cursor.x, terminal.cursor.y)) =
        ((terminal.buffer.rewrapped columns
          (some (terminal.cursor.x, terminal.cursor.y))).1, some (x, y)) :=
    Prod.ext rfl found
  refine ⟨_, x, y, rewrapped, fun k row => ?_⟩
  have shown : resized.buffer.onAlternate = false := (resize?_frame accepted).1.trans main
  rw [ScreenBuffer.cells_screenRow_resize (wellFormed.resize accepted).shaped shown
      (congrArg ScreenBuffer.ring bufferEq) row,
    ScreenBuffer.cellsAt_fitted wellFormed.shaped row,
    ScreenBuffer.length_fitted_some rewrapped inside linesPositive]

/-- On the alternate screen the marks stay exact just if all cells that blink
are cut away. -/
theorem marksExact_resize_alternate_iff
    (wellFormed : terminal.WellFormed terminal.lines terminal.columns limit)
    (exact : terminal.MarksExact)
    (accepted : terminal.resize? lines columns = some resized)
    (shown : terminal.onAlternate = true) :
    resized.MarksExact ↔ ∀ mark ∈ terminal.blink.positions, columns ≤ mark.x ∨ lines ≤ mark.y := by
  obtain ⟨shownAfter, linesEq, columnsEq, -⟩ := resize?_frame accepted
  have inside : terminal.blink.Inside terminal.lines terminal.columns := by
    rw [blink, if_pos shown]
    exact wellFormed.alternateBlink_inside
  rw [marksExact_iff_of_unmarked (positions_blink_resize accepted), linesEq, columnsEq]
  constructor
  · intro dark mark marked
    obtain ⟨oldColumn, oldRow⟩ := inside mark marked
    by_contra kept
    rw [not_or, Nat.not_le, Nat.not_le] at kept
    have darkHere := dark mark.x mark.y kept.1 kept.2
    rw [cell_resize_of_alternate accepted shown kept.1 kept.2,
      (exact mark.x mark.y oldColumn oldRow).mp marked] at darkHere
    cases darkHere
  · intro cut x y column row
    rw [cell_resize_of_alternate accepted shown column row, ← Bool.not_eq_true]
    intro blinks
    -- What blinks was inside of the old screen too, where it was marked.
    obtain ⟨oldColumn, oldRow⟩ := wellFormed.inside_of_blinks shown blinks
    have marked : ⟨x, y⟩ ∈ terminal.blink.positions :=
      (exact x y oldColumn oldRow).mpr blinks
    rcases cut _ marked with beyond | below
    · exact absurd column (Nat.not_lt.mpr beyond)
    · exact absurd row (Nat.not_lt.mpr below)

/-- On the main screen they stay exact just if nothing blinks on the rewrapped
rows that it shows. -/
theorem marksExact_resize_main_iff
    (wellFormed : terminal.WellFormed oldLines oldColumns limit)
    (accepted : terminal.resize? lines columns = some resized)
    (main : terminal.onAlternate = false) :
    ∃ rows x y,
      terminal.buffer.rewrapped columns (some (terminal.cursor.x, terminal.cursor.y)) =
          (rows, some (x, y)) ∧
        let top := min (max (y + 1) (ScreenBuffer.contentHeight rows) - lines) y
        (resized.MarksExact ↔
          ∀ k < lines, ∀ cell ∈ ScreenBuffer.cellsAt rows columns (top + k),
            cell.rendition.blink = false) := by
  obtain ⟨rows, x, y, rewrapped, windows⟩ := exists_cells_resize_of_main wellFormed accepted main
  refine ⟨rows, x, y, rewrapped, ?_⟩
  intro top
  obtain ⟨-, linesEq, columnsEq, -⟩ := resize?_frame accepted
  have shaped := (wellFormed.resize accepted).shaped
  have darkRow : ∀ k < lines,
      (∀ x < columns, (resized.cell x k).rendition.blink = false) ↔
        ∀ cell ∈ ScreenBuffer.cellsAt rows columns (top + k), cell.rendition.blink = false := by
    intro k row
    have width : (resized.buffer.screenRow k).cells.length = columns :=
      shaped.composedRow_width (shaped.screenBase_add_lt row)
    rw [← windows k row]
    exact Row.dark_iff width
  rw [marksExact_iff_of_unmarked (positions_blink_resize accepted), linesEq, columnsEq]
  constructor
  · intro dark k row
    exact (darkRow k row).mp fun x column => dark x k column row
  · intro dark x k column row
    exact (darkRow k row).mpr (dark k row) x column

end Terminal

namespace Console

/-- A new size leaves no marks behind, and the next blink damages the cell of
the cursor only. So exact marks stay exact just if nothing blinks on the screen
any more: on the alternate screen, if all that was marked is cut away; on the
main screen, if the rewrapped rows that it shows are dark. -/
theorem marksExact_resize_iff
    {lines columns limit : Nat} {console : Console} {resized : Terminal}
    (reachable : console.Reachable limit)
    (exact : console.terminal.MarksExact)
    (accepted : console.terminal.resize? lines columns = some resized) :
    let terminal := console.terminal
    resized.blink.positions = [] ∧
      (∃ spans, resized.blinkDamage = .spans spans ∧
        ∀ x y, Damage.Names spans x y ↔ ⟨x, y⟩ = resized.cursorCell) ∧
      (terminal.onAlternate = true →
        (resized.MarksExact ↔
          ∀ mark ∈ terminal.blink.positions, columns ≤ mark.x ∨ lines ≤ mark.y)) ∧
      (terminal.onAlternate = false →
        ∃ rows x y,
          terminal.buffer.rewrapped columns (some (terminal.cursor.x, terminal.cursor.y)) =
              (rows, some (x, y)) ∧
            let top := min (max (y + 1) (ScreenBuffer.contentHeight rows) - lines) y
            (resized.MarksExact ↔
              ∀ k < lines, ∀ cell ∈ ScreenBuffer.cellsAt rows columns (top + k),
                cell.rendition.blink = false)) := by
  intro terminal
  have wellFormed : terminal.WellFormed terminal.lines terminal.columns limit :=
    reachable.wellFormed
  have unmarked : resized.blink.positions = [] := Terminal.positions_blink_resize accepted
  exact ⟨unmarked, Terminal.blinkDamage_of_unmarked (wellFormed.resize accepted) unmarked,
    Terminal.marksExact_resize_alternate_iff wellFormed exact accepted,
    Terminal.marksExact_resize_main_iff wellFormed accepted⟩

/-- On the alternate screen, with a blinking cell in the last of four columns:
three columns cut it away, five keep it without its mark. -/
theorem marksExact_resize_iff_last_column :
    let console :=
      (blank 2 4 0).run
        [.request (.configure {} false true {}), .text "\x1b[?1049h\x1b[1;4H\x1b[5mx".toList]
    ∃ narrow wide,
      console.Reachable 0 ∧
        console.terminal.MarksExact ∧
        console.terminal.blink.positions = [⟨3, 0⟩] ∧
        console.terminal.resize? 2 3 = some narrow ∧ narrow.MarksExact ∧
        console.terminal.resize? 2 5 = some wide ∧ ¬wide.MarksExact := by
  intro console
  have reachable : console.Reachable 0 := ⟨2, 4, _, by decide, by decide, rfl⟩
  have exact : console.terminal.MarksExact := by decide +kernel
  have marks : console.terminal.blink.positions = [⟨3, 0⟩] := by decide +kernel
  have shown : console.terminal.onAlternate = true := by decide +kernel
  have narrowed : (console.terminal.resize? 2 3).isSome := by decide +kernel
  have widened : (console.terminal.resize? 2 5).isSome := by decide +kernel
  obtain ⟨narrow, narrowEq⟩ := Option.isSome_iff_exists.mp narrowed
  obtain ⟨wide, wideEq⟩ := Option.isSome_iff_exists.mp widened
  refine ⟨narrow, wide, reachable, exact, marks, narrowEq, ?_, wideEq, ?_⟩
  · rw [(marksExact_resize_iff reachable exact narrowEq).2.2.1 shown, marks]
    decide
  · rw [(marksExact_resize_iff reachable exact wideEq).2.2.1 shown, marks]
    decide

/-- A blinking cell alone in two columns blinks on in three, without a mark. -/
theorem not_marksExact_resize_wider :
    let console :=
      (blank 1 2 0).run [.request (.configure {} false true {}), .text "\x1b[5ma".toList]
    console.Reachable 0 ∧
      console.terminal.MarksExact ∧
      ∃ resized ∈ console.terminal.resize? 1 3,
        (resized.cell 0 0).rendition.blink = true ∧
          resized.blink.positions = [] ∧
          ¬resized.MarksExact := by
  intro console
  have reachable : console.Reachable 0 := ⟨1, 2, _, by decide, by decide, rfl⟩
  refine ⟨reachable, ?_⟩
  decide +kernel

end Console

end VideoTerminal
