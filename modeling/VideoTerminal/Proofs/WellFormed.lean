import VideoTerminal.Control.Function
import VideoTerminal.Proofs.Frame
import VideoTerminal.Proofs.Resizing

/-!
Well-formed terminals: the cursor, the margins and the blink marks are on the
screen, and the screens have the size that the terminal says. Nothing that can
be asked of a terminal makes it otherwise.
-/

namespace VideoTerminal

/-! ## Blink marks and damage -/

namespace BlinkMarks

/-- Every mark is on a screen of `lines` rows of `columns` cells. -/
def Inside (lines columns : Nat) (marks : BlinkMarks) : Prop :=
  ∀ mark ∈ marks.positions, mark.x < columns ∧ mark.y < lines

variable {lines columns : Nat} {marks : BlinkMarks}

theorem inside_empty : Inside lines columns {} := by
  simp [Inside]

theorem mem_insertOrdered {position mark : Position} {positions : List Position} :
    mark ∈ insertOrdered position positions ↔ mark = position ∨ mark ∈ positions := by
  induction positions with
  | nil => simp [insertOrdered]
  | cons head rest inductionHypothesis =>
      unfold insertOrdered
      split
      · next same =>
          subst same
          simp
      · split
        · simp
        · simp only [List.mem_cons, inductionHypothesis]
          exact or_left_comm

theorem Inside.insert
    (inside : marks.Inside lines columns)
    {position : Position}
    (xInside : position.x < columns)
    (yInside : position.y < lines) :
    (marks.insert position).Inside lines columns := by
  intro mark member
  rcases mem_insertOrdered.mp member with rfl | old
  · exact ⟨xInside, yInside⟩
  · exact inside mark old

theorem Inside.filter
    (inside : marks.Inside lines columns) (keep : Position → Bool) :
    (marks.filter keep).Inside lines columns :=
  fun mark member => inside mark (List.mem_filter.mp member).1

/-- Marks that are put down on the screen leave none outside it. -/
theorem Inside.relocate
    (inside : marks.Inside lines columns)
    {moves : Position → Bool} {target : Position → Option Position}
    (lands : ∀ mark ∈ marks.positions, moves mark = true →
      ∀ position ∈ target mark, position.x < columns ∧ position.y < lines) :
    (marks.relocate moves target).Inside lines columns := by
  have moved :
      ∀ mark ∈ marks.positions.filter moves,
        ∀ position ∈ target mark, position.x < columns ∧ position.y < lines := by
    intro mark member
    obtain ⟨here, moving⟩ := List.mem_filter.mp member
    exact lands mark here moving
  unfold BlinkMarks.relocate
  generalize marks.positions.filter moves = moving at moved
  clear lands
  induction moving generalizing marks with
  | nil => exact inside
  | cons mark rest inductionHypothesis =>
      refine inductionHypothesis ?_ fun each member => moved each (List.mem_cons_of_mem _ member)
      have lifted : (marks.erase mark).Inside lines columns := inside.filter _
      cases landing : target mark with
      | none => simpa [landing] using lifted
      | some position =>
          have here := moved mark List.mem_cons_self position (by simp [landing])
          simpa [landing] using lifted.insert here.1 here.2

theorem within?_bounds
    {low high n place : Nat} {amount : Int}
    (found : within? low high n amount = some place) :
    low ≤ place ∧ place ≤ high := by
  simp only [within?] at found
  split at found
  · cases found
    omega
  · cases found

theorem Inside.shiftColumns
    (inside : marks.Inside lines columns) (y start : Nat) (amount : Int) :
    (marks.shiftColumns y start columns amount).Inside lines columns := by
  apply inside.relocate
  intro mark member moving position landed
  have sameRow : mark.y = y := by
    simp only [Bool.and_eq_true, beq_iff_eq] at moving
    exact moving.1
  split at landed
  · cases landed
  · obtain ⟨x, found, rfl⟩ := Option.map_eq_some_iff.mp landed
    have bounds := within?_bounds found
    exact ⟨by dsimp only; omega, sameRow ▸ (inside mark member).2⟩

theorem Inside.shiftRows
    (inside : marks.Inside lines columns)
    {bottom : Nat}
    (bottomInside : bottom < lines)
    (top : Nat) (amount : Int) :
    (marks.shiftRows top bottom amount).Inside lines columns := by
  apply inside.relocate
  intro mark member _ position landed
  obtain ⟨y, found, rfl⟩ := Option.map_eq_some_iff.mp landed
  have bounds := within?_bounds found
  exact ⟨(inside mark member).1, by dsimp only; omega⟩

end BlinkMarks

namespace DamageLog

@[simp]
theorem length_rows_mark (log : DamageLog) (y start stop : Nat) :
    (log.mark y start stop).rows.length = log.rows.length := by
  unfold mark
  split <;> simp

@[simp]
theorem length_rows_markRows (log : DamageLog) (top bottom columns : Nat) :
    (log.markRows top bottom columns).rows.length = log.rows.length := by
  unfold markRows
  generalize List.range (bottom + 1 - top) = steps
  induction steps generalizing log with
  | nil => rfl
  | cons step rest inductionHypothesis =>
      rw [List.foldl_cons, inductionHypothesis, length_rows_mark]

end DamageLog

/-! ## Terminals -/

namespace Terminal

/-- The terminal has a screen of `lines` rows of `columns` cells and a history
of at most `limit` rows, and everything it knows of a position is on the
screen. The cursor may be in the column after the last one. -/
structure WellFormed (lines columns limit : Nat) (terminal : Terminal) : Prop where
  lines_eq : terminal.lines = lines
  columns_eq : terminal.columns = columns
  shaped : terminal.buffer.Shaped lines columns limit
  cursor_column : terminal.cursor.x ≤ columns
  cursor_row : terminal.cursor.y < lines
  margins_ordered : terminal.margins.top ≤ terminal.margins.bottom
  margins_inside : terminal.margins.bottom < lines
  mainBlink_inside : terminal.mainBlink.Inside lines columns
  alternateBlink_inside : terminal.alternateBlink.Inside lines columns
  damage_rows : terminal.damage.rows.length = lines

namespace WellFormed

variable {lines columns limit : Nat} {terminal : Terminal}

theorem blank
    (linesPositive : 0 < lines)
    (columnsPositive : 0 < columns)
    (limit : Nat) :
    (Terminal.blank lines columns limit).WellFormed lines columns limit where
  lines_eq := rfl
  columns_eq := rfl
  shaped := .blank linesPositive columnsPositive limit
  cursor_column := Nat.zero_le columns
  cursor_row := linesPositive
  margins_ordered := Nat.zero_le _
  margins_inside := Nat.sub_lt linesPositive Nat.one_pos
  mainBlink_inside := BlinkMarks.inside_empty
  alternateBlink_inside := BlinkMarks.inside_empty
  damage_rows := List.length_replicate

theorem lines_pos (wellFormed : terminal.WellFormed lines columns limit) :
    0 < lines :=
  wellFormed.shaped.lines_pos

theorem columns_pos (wellFormed : terminal.WellFormed lines columns limit) :
    0 < columns :=
  wellFormed.shaped.columns_pos

theorem cursorColumn_lt (wellFormed : terminal.WellFormed lines columns limit) :
    terminal.cursorColumn < columns := by
  have positive := wellFormed.columns_pos
  rw [cursorColumn, wellFormed.columns_eq]
  omega

/-! ## Parts of a terminal -/

theorem withCursor
    (wellFormed : terminal.WellFormed lines columns limit)
    {x y : Nat}
    (xInside : x ≤ columns)
    (yInside : y < lines) :
    { terminal with cursor := ⟨x, y⟩ }.WellFormed lines columns limit :=
  { wellFormed with cursor_column := xInside, cursor_row := yInside }

theorem withBuffer
    (wellFormed : terminal.WellFormed lines columns limit)
    {buffer : ScreenBuffer}
    (shaped : buffer.Shaped lines columns limit) :
    { terminal with buffer }.WellFormed lines columns limit :=
  { wellFormed with shaped }

theorem withPen
    (wellFormed : terminal.WellFormed lines columns limit) (pen : Rendition) :
    { terminal with pen }.WellFormed lines columns limit :=
  { wellFormed with }

theorem withModes
    (wellFormed : terminal.WellFormed lines columns limit) (modes : Modes) :
    { terminal with modes }.WellFormed lines columns limit :=
  { wellFormed with }

theorem withMargins
    (wellFormed : terminal.WellFormed lines columns limit)
    {margins : Margins}
    (ordered : margins.top ≤ margins.bottom)
    (inside : margins.bottom < lines) :
    { terminal with margins }.WellFormed lines columns limit :=
  { wellFormed with margins_ordered := ordered, margins_inside := inside }

theorem modifyRow
    (wellFormed : terminal.WellFormed lines columns limit)
    (y : Nat) {change : Row → Row}
    (keeps : ∀ row : Row, row.cells.length = columns → (change row).cells.length = columns) :
    (terminal.modifyRow y change).WellFormed lines columns limit :=
  wellFormed.withBuffer (wellFormed.shaped.modifyScreen y keeps)

theorem modifyBlink
    (wellFormed : terminal.WellFormed lines columns limit)
    {change : BlinkMarks → BlinkMarks}
    (keeps : ∀ marks : BlinkMarks,
      marks.Inside lines columns → (change marks).Inside lines columns) :
    (terminal.modifyBlink change).WellFormed lines columns limit := by
  unfold Terminal.modifyBlink
  split
  · exact { wellFormed with alternateBlink_inside := keeps _ wellFormed.alternateBlink_inside }
  · exact { wellFormed with mainBlink_inside := keeps _ wellFormed.mainBlink_inside }

theorem withDamage
    (wellFormed : terminal.WellFormed lines columns limit)
    {damage : DamageLog}
    (rows : damage.rows.length = terminal.damage.rows.length) :
    { terminal with damage }.WellFormed lines columns limit :=
  { wellFormed with damage_rows := rows.trans wellFormed.damage_rows }

theorem markDamage
    (wellFormed : terminal.WellFormed lines columns limit) (y start stop : Nat) :
    (terminal.markDamage y start stop).WellFormed lines columns limit :=
  wellFormed.withDamage (DamageLog.length_rows_mark _ _ _ _)

theorem markCursor
    (wellFormed : terminal.WellFormed lines columns limit) (cursor : Position) :
    (terminal.markCursor cursor).WellFormed lines columns limit :=
  wellFormed.markDamage _ _ _

/-- A loop over steps that keep a terminal well-formed keeps it so. -/
theorem foldl
    {item : Type} {items : List item} {step : Terminal → item → Terminal}
    (keeps : ∀ current each, current.WellFormed lines columns limit →
      (step current each).WellFormed lines columns limit)
    (wellFormed : terminal.WellFormed lines columns limit) :
    (items.foldl step terminal).WellFormed lines columns limit := by
  induction items generalizing terminal with
  | nil => exact wellFormed
  | cons head rest inductionHypothesis =>
      exact inductionHypothesis (keeps terminal head wellFormed)

theorem setTitle
    (wellFormed : terminal.WellFormed lines columns limit) (title : String) :
    (terminal.setTitle title).WellFormed lines columns limit := by
  unfold Terminal.setTitle
  split
  · exact wellFormed
  · exact { wellFormed with }

/-! ## What a renderer takes -/

theorem takeDamage (wellFormed : terminal.WellFormed lines columns limit) :
    terminal.takeDamage.1.WellFormed lines columns limit := by
  have noted : terminal.noteCursor.WellFormed lines columns limit := by
    unfold noteCursor
    split
    · exact wellFormed
    · cases terminal.drawnCursor with
      | none => exact { wellFormed.markCursor _ with }
      | some drawn => exact { (wellFormed.markCursor drawn).markCursor _ with }
  exact noted.withDamage (by simp)

theorem markBlink (wellFormed : terminal.WellFormed lines columns limit) :
    terminal.markBlink.WellFormed lines columns limit :=
  markCursor (foldl (fun _ _ current => current.markDamage _ _ _) wellFormed) _

/-! ## Scrolling -/

theorem advance
    (wellFormed : terminal.WellFormed lines columns limit) (fill : Cell) (count : Nat) :
    (terminal.advance fill count).WellFormed lines columns limit := by
  induction count generalizing terminal with
  | zero => exact wellFormed
  | succ count inductionHypothesis =>
      exact inductionHypothesis
        { wellFormed with shaped := wellFormed.shaped.advance fill }

theorem scroll
    (wellFormed : terminal.WellFormed lines columns limit)
    (top bottom : Nat) (amount : Int) :
    (terminal.scroll top bottom amount).WellFormed lines columns limit := by
  unfold Terminal.scroll
  split
  · exact wellFormed
  · next valid =>
      have bottomInside : bottom < lines := by
        rw [wellFormed.lines_eq] at valid
        omega
      extract_lets height clamped fill whole moved marked
      have movedWellFormed : moved.WellFormed lines columns limit := by
        dsimp only [moved]
        split
        · exact wellFormed.advance _ _
        · exact wellFormed.withBuffer (wellFormed.shaped.scrollRows _ _ _ _)
      have markedWellFormed : marked.WellFormed lines columns limit :=
        movedWellFormed.modifyBlink fun _ inside => inside.shiftRows bottomInside top clamped
      exact
        { markedWellFormed with
          damage_rows :=
            (DamageLog.length_rows_markRows _ _ _ _).trans markedWellFormed.damage_rows }

theorem index (wellFormed : terminal.WellFormed lines columns limit) :
    terminal.index.1.WellFormed lines columns limit := by
  unfold Terminal.index
  dsimp only
  split
  · exact wellFormed.scroll _ _ _
  · split
    · next below =>
        exact wellFormed.withCursor wellFormed.cursor_column (wellFormed.lines_eq ▸ below)
    · exact wellFormed

theorem reverseIndex (wellFormed : terminal.WellFormed lines columns limit) :
    terminal.reverseIndex.WellFormed lines columns limit := by
  unfold Terminal.reverseIndex
  dsimp only
  split
  · exact wellFormed.scroll _ _ _
  · exact wellFormed.withCursor wellFormed.cursor_column
      (Nat.lt_of_le_of_lt (Nat.sub_le _ _) wellFormed.cursor_row)

theorem shiftLines
    (wellFormed : terminal.WellFormed lines columns limit) (amount : Int) :
    (terminal.shiftLines amount).WellFormed lines columns limit := by
  unfold Terminal.shiftLines
  split
  · have moved :=
      wellFormed.scroll terminal.cursor.y terminal.margins.bottom amount
    exact moved.withCursor (Nat.zero_le columns) moved.cursor_row
  · exact wellFormed

/-! ## Motion -/

theorem moveTo
    (wellFormed : terminal.WellFormed lines columns limit) (x y : Nat) :
    (terminal.moveTo x y).WellFormed lines columns limit := by
  have linesPositive := wellFormed.lines_pos
  refine wellFormed.withCursor ?_ ?_
  · rw [wellFormed.columns_eq]
    omega
  · rw [wellFormed.lines_eq]
    omega

theorem moveUp
    (wellFormed : terminal.WellFormed lines columns limit) (count : Nat) :
    (terminal.moveUp count).WellFormed lines columns limit := by
  have row := wellFormed.cursor_row
  refine wellFormed.withCursor (Nat.le_of_lt wellFormed.cursorColumn_lt) ?_
  split <;> omega

theorem moveDown
    (wellFormed : terminal.WellFormed lines columns limit) (count : Nat) :
    (terminal.moveDown count).WellFormed lines columns limit := by
  have linesPositive := wellFormed.lines_pos
  have bottomInside := wellFormed.margins_inside
  refine wellFormed.withCursor (Nat.le_of_lt wellFormed.cursorColumn_lt) ?_
  rw [wellFormed.lines_eq]
  split <;> omega

theorem moveRight
    (wellFormed : terminal.WellFormed lines columns limit) (count : Nat) :
    (terminal.moveRight count).WellFormed lines columns limit := by
  refine wellFormed.withCursor ?_ wellFormed.cursor_row
  rw [wellFormed.columns_eq]
  omega

theorem moveLeft
    (wellFormed : terminal.WellFormed lines columns limit) (count : Nat) :
    (terminal.moveLeft count).WellFormed lines columns limit := by
  have column := wellFormed.cursorColumn_lt
  exact wellFormed.withCursor (by omega) wellFormed.cursor_row

theorem backspace (wellFormed : terminal.WellFormed lines columns limit) :
    terminal.backspace.WellFormed lines columns limit := by
  have row := wellFormed.cursor_row
  obtain rfl := wellFormed.columns_eq
  unfold Terminal.backspace
  split
  · split
    · exact wellFormed
    · exact wellFormed.withCursor (Nat.sub_le _ _) (by omega)
  · exact wellFormed.withCursor (by omega) row

theorem horizontalTab (wellFormed : terminal.WellFormed lines columns limit) :
    terminal.horizontalTab.WellFormed lines columns limit := by
  refine wellFormed.withCursor ?_ wellFormed.cursor_row
  rw [wellFormed.columns_eq]
  omega

theorem completeLine (wellFormed : terminal.WellFormed lines columns limit) :
    terminal.completeLine.WellFormed lines columns limit :=
  wellFormed.withBuffer (wellFormed.shaped.completeLine _ _)

theorem carriageReturn (wellFormed : terminal.WellFormed lines columns limit) :
    terminal.carriageReturn.WellFormed lines columns limit :=
  wellFormed.completeLine.withCursor (Nat.zero_le columns) wellFormed.cursor_row

theorem beginNextLine (wellFormed : terminal.WellFormed lines columns limit) :
    terminal.beginNextLine.WellFormed lines columns limit := by
  have moved := wellFormed.index
  unfold Terminal.beginNextLine
  dsimp only
  split
  · exact moved.withBuffer (moved.shaped.beginLine _)
  · exact moved

theorem lineFeed (wellFormed : terminal.WellFormed lines columns limit) :
    terminal.lineFeed.WellFormed lines columns limit := by
  have completed := wellFormed.completeLine
  apply beginNextLine
  refine completed.withCursor ?_ completed.cursor_row
  split
  · exact Nat.zero_le columns
  · exact Nat.le_of_lt completed.cursorColumn_lt

theorem setMargins
    (wellFormed : terminal.WellFormed lines columns limit) (top bottom : Nat) :
    (terminal.setMargins top bottom).WellFormed lines columns limit := by
  have linesPositive := wellFormed.lines_pos
  obtain rfl := wellFormed.lines_eq
  unfold Terminal.setMargins
  dsimp only
  split
  · next ordered =>
      apply moveTo
      exact wellFormed.withMargins (Nat.le_of_lt ordered) (by dsimp only; omega)
  · exact wellFormed

theorem restoreState (wellFormed : terminal.WellFormed lines columns limit) :
    terminal.restoreState.WellFormed lines columns limit := by
  have linesPositive := wellFormed.lines_pos
  obtain rfl := wellFormed.lines_eq
  obtain rfl := wellFormed.columns_eq
  unfold Terminal.restoreState
  split
  · exact (wellFormed.withPen {}).moveTo _ _
  · next saved _ =>
      dsimp only
      split
      · next fits =>
          exact
            { wellFormed with
              cursor_column := Nat.min_le_right _ _
              cursor_row := by dsimp only; omega
              margins_ordered := Nat.le_of_lt fits.2
              margins_inside := fits.1 }
      · exact
          { wellFormed with
            cursor_column := Nat.min_le_right _ _
            cursor_row := by dsimp only; omega }

/-! ## Erasing and editing -/

theorem clearRow
    (wellFormed : terminal.WellFormed lines columns limit) (y : Nat) :
    (terminal.clearRow y).WellFormed lines columns limit :=
  ((wellFormed.modifyRow y (by simp)).modifyBlink fun _ inside => inside.filter _).markDamage
    _ _ _

theorem clearRows
    (wellFormed : terminal.WellFormed lines columns limit) (top count : Nat) :
    (terminal.clearRows top count).WellFormed lines columns limit :=
  foldl (fun _ _ current => current.clearRow _) wellFormed

theorem eraseSpan
    (wellFormed : terminal.WellFormed lines columns limit)
    {start stop : Nat}
    (ordered : start ≤ stop)
    (stopInside : stop ≤ columns)
    (y : Nat) :
    (terminal.eraseSpan y start stop).WellFormed lines columns limit := by
  refine ((wellFormed.modifyRow y ?_).modifyBlink fun _ inside => inside.filter _).markDamage
    _ _ _
  intro row width
  split
  · simpa using width
  · rw [row.length_fillSpan ordered (by omega), width]

theorem eraseInLine
    (wellFormed : terminal.WellFormed lines columns limit) (part : Nat) :
    (terminal.eraseInLine part).WellFormed lines columns limit := by
  have column := wellFormed.cursorColumn_lt
  obtain rfl := wellFormed.columns_eq
  unfold Terminal.eraseInLine
  dsimp only
  split
  · exact wellFormed.eraseSpan (Nat.le_of_lt column) (Nat.le_refl _) _
  · exact wellFormed.eraseSpan (Nat.zero_le _) column _
  · exact wellFormed.eraseSpan (Nat.zero_le _) (Nat.le_refl _) _
  · exact wellFormed

theorem clearHistory (wellFormed : terminal.WellFormed lines columns limit) :
    terminal.clearHistory.WellFormed lines columns limit := by
  unfold Terminal.clearHistory
  split
  · exact wellFormed
  · exact wellFormed.withBuffer wellFormed.shaped.clearHistory

theorem eraseInDisplay
    (wellFormed : terminal.WellFormed lines columns limit) (part : Nat) :
    (terminal.eraseInDisplay part).WellFormed lines columns limit := by
  unfold Terminal.eraseInDisplay
  dsimp only
  split
  · exact (wellFormed.eraseInLine 0).clearRows _ _
  · exact (wellFormed.clearRows _ _).eraseInLine 1
  · exact wellFormed.clearRows _ _
  · exact (wellFormed.clearRows _ _).clearHistory
  · exact wellFormed

theorem insertChars
    (wellFormed : terminal.WellFormed lines columns limit) (count : Nat) :
    (terminal.insertChars count).WellFormed lines columns limit := by
  obtain rfl := wellFormed.columns_eq
  unfold Terminal.insertChars
  exact ((wellFormed.modifyRow _ (by simp)).modifyBlink
    fun _ inside => (inside.shiftColumns _ _ _).filter _).markDamage _ _ _

theorem deleteChars
    (wellFormed : terminal.WellFormed lines columns limit) (count : Nat) :
    (terminal.deleteChars count).WellFormed lines columns limit := by
  have column := wellFormed.cursorColumn_lt
  obtain rfl := wellFormed.columns_eq
  unfold Terminal.deleteChars
  refine ((wellFormed.modifyRow _ ?_).modifyBlink
    fun _ inside => BlinkMarks.Inside.shiftColumns (inside.filter _) _ _ _).markDamage _ _ _
  intro row width
  rw [row.length_closeGap (by omega), width]

theorem eraseChars
    (wellFormed : terminal.WellFormed lines columns limit) (count : Nat) :
    (terminal.eraseChars count).WellFormed lines columns limit := by
  have column := wellFormed.cursorColumn_lt
  obtain rfl := wellFormed.columns_eq
  unfold Terminal.eraseChars
  exact wellFormed.eraseSpan (by omega) (Nat.min_le_right _ _) _

/-! ## Printing -/

/-- After a wrap the cursor is in one of the columns. -/
theorem wrap (wellFormed : terminal.WellFormed lines columns limit) :
    terminal.wrap.WellFormed lines columns limit ∧ terminal.wrap.cursor.x < columns := by
  obtain rfl := wellFormed.columns_eq
  have positive := wellFormed.columns_pos
  unfold Terminal.wrap
  split
  · next inside => exact ⟨wellFormed, inside⟩
  · split
    · have returned :=
        (wellFormed.withCursor (Nat.zero_le _) wellFormed.cursor_row).index
      have column :
          (Terminal.index { terminal with cursor := { terminal.cursor with x := 0 } }).1.cursor.x <
            terminal.columns := by
        rw [index_cursor_x]
        exact positive
      dsimp only
      split
      · exact ⟨returned.withBuffer (returned.shaped.continueLine _), column⟩
      · exact ⟨returned, column⟩
    · exact ⟨wellFormed.withCursor (Nat.sub_le _ _) wellFormed.cursor_row,
        Nat.sub_lt positive Nat.one_pos⟩

theorem putCell
    (wellFormed : terminal.WellFormed lines columns limit)
    (column : terminal.cursor.x < columns)
    (cell : Cell) :
    (terminal.putCell cell).WellFormed lines columns limit := by
  obtain rfl := wellFormed.columns_eq
  unfold Terminal.putCell
  dsimp only
  refine modifyBlink ?_ ?_
  · split
    · exact ((wellFormed.modifyRow _ (by simp)).modifyBlink
        fun _ inside => inside.shiftColumns _ _ _).markDamage _ _ _
    · exact (wellFormed.modifyRow _ (by simp)).markDamage _ _ _
  · intro marks inside
    split
    · exact inside.insert column wellFormed.cursor_row
    · exact inside.filter _

theorem print
    (wellFormed : terminal.WellFormed lines columns limit) (char : Char) :
    (terminal.print char).WellFormed lines columns limit := by
  obtain ⟨wrapped, column⟩ := wellFormed.wrap
  have written := wrapped.putCell column ⟨char, terminal.wrap.pen⟩
  refine written.withCursor ?_ written.cursor_row
  rw [putCell_cursor]
  exact column

theorem printAll
    (wellFormed : terminal.WellFormed lines columns limit) (chars : List Char) :
    (terminal.printAll chars).WellFormed lines columns limit :=
  foldl (fun _ _ current => current.print _) wellFormed

/-! ## Switches -/

theorem showScreen
    (wellFormed : terminal.WellFormed lines columns limit) (alternate clear : Bool) :
    (terminal.showScreen alternate clear).WellFormed lines columns limit := by
  unfold Terminal.showScreen
  split
  · exact wellFormed
  · extract_lets cleared
    have clearedWellFormed : cleared.WellFormed lines columns limit := by
      dsimp only [cleared]
      split
      · exact
          { wellFormed with
            shaped := wellFormed.shaped.clearAlternate _
            alternateBlink_inside := BlinkMarks.inside_empty }
      · exact wellFormed
    exact (clearedWellFormed.withBuffer (clearedWellFormed.shaped.showAlternate _)).withDamage rfl

theorem setMode
    (wellFormed : terminal.WellFormed lines columns limit) (mode : Nat) (on : Bool) :
    (terminal.setMode mode on).WellFormed lines columns limit := by
  unfold Terminal.setMode
  split
  · exact wellFormed.withModes _
  · exact wellFormed.withModes _
  · exact wellFormed

theorem saveMainPosition (wellFormed : terminal.WellFormed lines columns limit) :
    terminal.saveMainPosition.WellFormed lines columns limit :=
  { wellFormed with }

theorem setPrivateMode
    (wellFormed : terminal.WellFormed lines columns limit) (mode : Nat) (on : Bool) :
    (terminal.setPrivateMode mode on).WellFormed lines columns limit := by
  refine terminal.setPrivateMode_cases on mode ?modes ?visible ?screen ?save ?restore ?enter ?leave
  case modes => exact wellFormed.withModes
  case visible => exact (wellFormed.withModes _).markCursor _
  case screen => exact wellFormed.showScreen on
  case save => exact wellFormed.saveMainPosition
  case restore => exact wellFormed.moveTo _ _
  case enter => exact wellFormed.saveMainPosition.showScreen _ _
  case leave => exact (wellFormed.showScreen _ _).moveTo _ _

/-- The screen filled for an alignment, before the cursor moves. -/
theorem alignmentFilled (wellFormed : terminal.WellFormed lines columns limit) :
    WellFormed lines columns limit
      { Terminal.modifyBlink
          { terminal with
            buffer := terminal.buffer.clearScreenRows 0 terminal.lines ⟨'E', {}⟩ }
          (fun _ => {}) with
        margins := { bottom := terminal.lines - 1 } } := by
  have linesPositive := wellFormed.lines_pos
  obtain rfl := wellFormed.lines_eq
  apply withMargins
  · apply modifyBlink
    · exact wellFormed.withBuffer (wellFormed.shaped.clearScreenRows _ _ _)
    · exact fun _ _ => BlinkMarks.inside_empty
  · exact Nat.zero_le _
  · exact Nat.sub_lt linesPositive Nat.one_pos

theorem alignmentTest (wellFormed : terminal.WellFormed lines columns limit) :
    terminal.alignmentTest.WellFormed lines columns limit :=
  (wellFormed.alignmentFilled.moveTo 0 0).withDamage rfl

theorem reset (wellFormed : terminal.WellFormed lines columns limit) :
    terminal.reset.WellFormed lines columns limit := by
  have linesPositive := wellFormed.lines_pos
  have columnsPositive := wellFormed.columns_pos
  obtain rfl := wellFormed.lines_eq
  obtain rfl := wellFormed.columns_eq
  obtain rfl := wellFormed.shaped.limit_eq
  exact
    { WellFormed.blank linesPositive columnsPositive terminal.buffer.historyLimit with
      damage_rows := wellFormed.damage_rows }

/-- A new size makes a terminal of that size. -/
theorem resize
    (wellFormed : terminal.WellFormed lines columns limit)
    {newLines newColumns : Nat} {resized : Terminal}
    (accepted : terminal.resize? newLines newColumns = some resized) :
    resized.WellFormed newLines newColumns limit := by
  unfold Terminal.resize? at accepted
  split at accepted
  · cases accepted
  · next valid =>
      obtain rfl := Option.some.inj accepted
      have linesPositive : 0 < newLines := by omega
      have columnsPositive : 0 < newColumns := by omega
      have inside :
          ∀ x y,
            (terminal.buffer.resize newLines newColumns
              (if terminal.onAlternate then none
                else some (terminal.cursor.x, terminal.cursor.y))).2 = some (x, y) →
            x ≤ newColumns ∧ y < newLines := by
        intro x y found
        split at found
        · rw [ScreenBuffer.resize_without_cursor] at found
          cases found
        · obtain ⟨newX, newY, moved, xBound, yBound⟩ :=
            ScreenBuffer.resize_cursor wellFormed.shaped linesPositive columnsPositive
              wellFormed.cursor_column wellFormed.cursor_row
          rw [moved] at found
          cases found
          exact ⟨xBound, yBound⟩
      refine
        { lines_eq := rfl
          columns_eq := rfl
          shaped := wellFormed.shaped.resize linesPositive columnsPositive _
          cursor_column := ?_
          cursor_row := ?_
          margins_ordered := Nat.zero_le _
          margins_inside := Nat.sub_lt linesPositive Nat.one_pos
          mainBlink_inside := BlinkMarks.inside_empty
          alternateBlink_inside := BlinkMarks.inside_empty
          damage_rows := List.length_replicate }
      · dsimp only
        split
        · next x y found => exact (inside x y found).1
        · exact Nat.min_le_right _ _
      · dsimp only
        split
        · next x y found => exact (inside x y found).2
        · dsimp only
          omega

/-! ## Control functions -/

theorem perform
    (wellFormed : terminal.WellFormed lines columns limit) (function : ControlFunction) :
    (terminal.perform function).WellFormed lines columns limit := by
  cases function with
  | nothing => exact wellFormed
  | backspace => exact wellFormed.backspace
  | horizontalTab => exact wellFormed.horizontalTab
  | lineFeed => exact wellFormed.lineFeed
  | carriageReturn => exact wellFormed.carriageReturn
  | index => exact wellFormed.index
  | nextLine => exact wellFormed.carriageReturn.beginNextLine
  | reverseIndex => exact wellFormed.reverseIndex
  | moveUp count => exact wellFormed.moveUp count
  | moveDown count => exact wellFormed.moveDown count
  | moveRight count => exact wellFormed.moveRight count
  | moveLeft count => exact wellFormed.moveLeft count
  | moveUpLines count => exact (wellFormed.moveUp count).moveTo _ _
  | moveDownLines count => exact (wellFormed.moveDown count).moveTo _ _
  | moveTo x y => exact wellFormed.moveTo x y
  | moveToColumn x => exact wellFormed.moveTo _ _
  | moveToRow y => exact wellFormed.moveTo _ _
  | moveRowsDown count => exact wellFormed.moveTo _ _
  | eraseInDisplay part => exact wellFormed.eraseInDisplay part
  | eraseInLine part => exact wellFormed.eraseInLine part
  | insertLines count => exact wellFormed.shiftLines _
  | deleteLines count => exact wellFormed.shiftLines _
  | insertChars count => exact wellFormed.insertChars count
  | deleteChars count => exact wellFormed.deleteChars count
  | eraseChars count => exact wellFormed.eraseChars count
  | scrollUp count => exact wellFormed.scroll _ _ _
  | scrollDown count => exact wellFormed.scroll _ _ _
  | selectRendition codes => exact wellFormed.withPen _
  | setMargins top bottom => exact wellFormed.setMargins _ _
  | savePosition => exact { wellFormed with }
  | restorePosition => exact wellFormed.moveTo _ _
  | saveState => exact { wellFormed with }
  | restoreState => exact wellFormed.restoreState
  | setModes modes on => exact foldl (fun _ _ current => current.setMode _ _) wellFormed
  | setPrivateModes modes on =>
      exact foldl (fun _ _ current => current.setPrivateMode _ _) wellFormed
  | reset => exact wellFormed.reset
  | alignmentTest => exact wellFormed.alignmentTest
  | setTitle title => exact wellFormed.setTitle _
  | reportDevice => exact wellFormed
  | reportSecondary => exact wellFormed
  | reportStatus question => exact wellFormed
  | reportWindow question => exact wellFormed
  | reportPalette indices => exact wellFormed
  | reportDynamic code => exact wellFormed

end WellFormed

end Terminal

end VideoTerminal
