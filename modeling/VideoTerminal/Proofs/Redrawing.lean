import VideoTerminal.Proofs.DamageMarks
import VideoTerminal.Proofs.Requests
import VideoTerminal.Proofs.ScreenRows

/-!
Redrawing. A renderer that has drawn a terminal and is told the damage since
draws it as it has become: every cell that differs is damaged, and so are the
cells that the cursor left and came to.
-/

namespace VideoTerminal

namespace Terminal

/-- The damage covers the cell of a cursor. -/
def CoversCursor (terminal : Terminal) (cursor : Position) : Prop :=
  terminal.damage.Covers (min cursor.x (terminal.columns - 1)) cursor.y

/-- The damage of the second terminal makes up for all that differs from the
first. -/
structure Reports (first second : Terminal) : Prop where
  lines_eq : second.lines = first.lines
  columns_eq : second.columns = first.columns
  covers : ∀ x y, first.damage.Covers x y → second.damage.Covers x y
  bounded : first.damage.Bounded first.columns → second.damage.Bounded second.columns
  cell : ∀ x y, x < first.columns → y < first.lines →
    second.cell x y ≠ first.cell x y → second.damage.Covers x y
  drawn : ∀ old, first.drawnCursor = some old → old.y < first.lines →
    ∃ new, second.drawnCursor = some new ∧ new.y < second.lines ∧
      (new = old ∨ second.CoversCursor old ∧ second.CoversCursor new)

/-- The second terminal is to be drawn as a whole, or reports on the first. -/
def Tells (first second : Terminal) : Prop :=
  second.damage.full = false → first.damage.full = false ∧ first.Reports second

variable {first second third terminal : Terminal} {lines columns limit : Nat}

theorem Reports.trans (before : first.Reports second) (after : second.Reports third) :
    first.Reports third := by
  have coversCursor : ∀ cursor, second.CoversCursor cursor → third.CoversCursor cursor := by
    intro cursor covered
    unfold CoversCursor
    rw [after.columns_eq]
    exact after.covers _ _ covered
  refine
    { lines_eq := after.lines_eq.trans before.lines_eq
      columns_eq := after.columns_eq.trans before.columns_eq
      covers := fun x y covered => after.covers x y (before.covers x y covered)
      bounded := fun bounded => after.bounded (before.bounded bounded)
      cell := ?_
      drawn := ?_ }
  · intro x y column row differs
    by_cases same : third.cell x y = second.cell x y
    · rw [same] at differs
      exact after.covers x y (before.cell x y column row differs)
    · exact after.cell x y (before.columns_eq ▸ column) (before.lines_eq ▸ row) same
  · intro old wasDrawn oldInside
    obtain ⟨between, betweenDrawn, betweenInside, fromOld⟩ := before.drawn old wasDrawn oldInside
    obtain ⟨new, newDrawn, newInside, toNew⟩ := after.drawn between betweenDrawn betweenInside
    refine ⟨new, newDrawn, newInside, ?_⟩
    rcases fromOld with rfl | ⟨oldCovered, betweenCovered⟩
    · exact toNew
    · rcases toNew with rfl | ⟨_, newCovered⟩
      · exact Or.inr ⟨coversCursor old oldCovered, coversCursor new betweenCovered⟩
      · exact Or.inr ⟨coversCursor old oldCovered, newCovered⟩

namespace Tells

theorem trans (before : first.Tells second) (after : second.Tells third) :
    first.Tells third := by
  intro notFull
  obtain ⟨stillNotFull, later⟩ := after notFull
  obtain ⟨fromNotFull, earlier⟩ := before stillNotFull
  exact ⟨fromNotFull, earlier.trans later⟩

theorem of_full (full : second.damage.full = true) : first.Tells second := by
  intro notFull
  rw [full] at notFull
  cases notFull

theorem of_cells
    (linesEq : second.lines = first.lines)
    (columnsEq : second.columns = first.columns)
    (damageEq : second.damage = first.damage)
    (drawnEq : second.drawnCursor = first.drawnCursor)
    (cells : ∀ y, y < first.lines →
      (second.buffer.screenRow y).cells = (first.buffer.screenRow y).cells) :
    first.Tells second := by
  intro notFull
  rw [damageEq] at notFull
  refine ⟨notFull, linesEq, columnsEq, ?_, ?_, ?_, ?_⟩
  · intro x y covered
    rw [damageEq]
    exact covered
  · intro bounded
    rw [damageEq, columnsEq]
    exact bounded
  · intro x y _ row differs
    unfold cell at differs
    rw [cells y row] at differs
    exact absurd rfl differs
  · intro old wasDrawn oldInside
    rw [drawnEq, linesEq]
    exact ⟨old, wasDrawn, oldInside, Or.inl rfl⟩

theorem of_eq
    (linesEq : second.lines = first.lines)
    (columnsEq : second.columns = first.columns)
    (damageEq : second.damage = first.damage)
    (drawnEq : second.drawnCursor = first.drawnCursor)
    (bufferEq : second.buffer = first.buffer) :
    first.Tells second :=
  of_cells linesEq columnsEq damageEq drawnEq fun _ _ => by rw [bufferEq]

theorem refl (terminal : Terminal) : terminal.Tells terminal :=
  of_eq rfl rfl rfl rfl rfl

theorem foldl
    {item : Type} {items : List item} {step : Terminal → item → Terminal}
    (wellFormed : terminal.WellFormed lines columns limit)
    (shapes : ∀ (current : Terminal) (each : item), current.WellFormed lines columns limit →
      (step current each).WellFormed lines columns limit)
    (tells : ∀ (current : Terminal) (each : item), each ∈ items →
      current.WellFormed lines columns limit → current.Tells (step current each)) :
    terminal.Tells (items.foldl step terminal) := by
  refine (List.foldlRecOn items step
    (motive := fun current => current.WellFormed lines columns limit ∧ terminal.Tells current)
    ⟨wellFormed, refl terminal⟩ ?_).2
  intro current kept each member
  exact ⟨shapes current each kept.1, kept.2.trans (tells current each member kept.1)⟩

theorem modifyBlink (terminal : Terminal) (change : BlinkMarks → BlinkMarks) :
    terminal.Tells (terminal.modifyBlink change) := by
  rw [modifyBlink_frame]
  exact of_eq rfl rfl rfl rfl rfl

theorem markDamage
    (terminal : Terminal) (y start : Nat) {stop : Nat}
    (inside : stop ≤ terminal.columns) :
    terminal.Tells (terminal.markDamage y start stop) := by
  intro notFull
  rw [Terminal.markDamage, DamageLog.full_mark] at notFull
  refine ⟨notFull, rfl, rfl, ?_, ?_, ?_, ?_⟩
  · exact fun _ _ covered => covered.mark _ _ _
  · exact fun bounded => bounded.mark inside _ _
  · exact fun _ _ _ _ differs => absurd rfl differs
  · exact fun old wasDrawn oldInside => ⟨old, wasDrawn, oldInside, Or.inl rfl⟩

theorem markCursor
    (wellFormed : terminal.WellFormed lines columns limit) (cursor : Position) :
    terminal.Tells (terminal.markCursor cursor) := by
  have positive := wellFormed.columns_pos
  refine markDamage terminal _ _ ?_
  rw [wellFormed.columns_eq]
  omega

/-- A change of one row is told by a mark on the columns that it may
change. -/
theorem modifyRow
    (wellFormed : terminal.WellFormed lines columns limit)
    {y : Nat} (start stop : Nat) {change : Row → Row}
    (inside : y < lines)
    (stopInside : stop ≤ columns)
    (keeps : ∀ row : Row, row.cells.length = columns → (change row).cells.length = columns)
    (same : ∀ row : Row, row.cells.length = columns → ∀ x, x < columns →
      x < start ∨ stop ≤ x → (change row).cells[x]? = row.cells[x]?) :
    terminal.Tells ((terminal.modifyRow y change).markDamage y start stop) := by
  intro notFull
  rw [Terminal.markDamage, DamageLog.full_mark] at notFull
  refine ⟨notFull, rfl, rfl, ?_, ?_, ?_, ?_⟩
  · exact fun _ _ covered => covered.mark _ _ _
  · exact fun bounded => bounded.mark (wellFormed.columns_eq ▸ stopInside) _ _
  · intro x row column rowInside differs
    rw [wellFormed.columns_eq] at column
    rw [wellFormed.lines_eq] at rowInside
    have shaped := wellFormed.shaped
    change ((terminal.buffer.modifyScreen y change).screenRow row).cells[x]?.getD {} ≠
      (terminal.buffer.screenRow row).cells[x]?.getD {} at differs
    by_cases here : row = y
    · subst here
      rw [shaped.screenRow_modifyScreen_self keeps inside] at differs
      have width : (terminal.buffer.screenRow row).cells.length = columns :=
        shaped.composedRow_width (shaped.screenBase_add_lt inside)
      by_cases outside : x < start ∨ stop ≤ x
      · rw [same _ width x column outside] at differs
        exact absurd rfl differs
      · have rowMarked : row < terminal.damage.rows.length := by
          rw [wellFormed.damage_rows]
          exact inside
        exact DamageLog.covers_mark notFull rowMarked (by omega) (by omega)
    · rw [shaped.screenRow_modifyScreen_of_ne keeps inside rowInside here] at differs
      exact absurd rfl differs
  · exact fun old wasDrawn oldInside => ⟨old, wasDrawn, oldInside, Or.inl rfl⟩

/-! ## Scrolling -/

/-- A scroll marks its rows and takes the drawn cursor with it. Unless it is
one of the whole screen, the rows move as those of the buffer do. -/
theorem scroll_of_valid
    {top bottom : Nat} {amount : Int}
    (valid : ¬(amount = 0 ∨ top > bottom ∨ bottom ≥ terminal.lines)) :
    ∃ clamped buffer evicted mainBlink alternateBlink,
      terminal.scroll top bottom amount =
          { terminal with
            buffer, evicted, mainBlink, alternateBlink
            drawnCursor := terminal.drawnCursor.map (followScroll top bottom clamped)
            damage := terminal.damage.markRows top bottom terminal.columns } ∧
        (buffer = terminal.buffer.scrollRows top bottom clamped terminal.fill ∨
          top = 0 ∧ bottom = terminal.lines - 1) := by
  unfold Terminal.scroll
  rw [if_neg valid]
  extract_lets height clamped fill whole moved marked
  have markedFrame :
      marked =
        { moved with
          mainBlink := marked.mainBlink
          alternateBlink := marked.alternateBlink } :=
    modifyBlink_frame moved _
  have movedFrame :
      moved = { terminal with buffer := moved.buffer, evicted := moved.evicted } := by
    dsimp only [moved]
    split
    · exact advance_frame terminal _ _
    · rfl
  refine ⟨clamped, moved.buffer, moved.evicted, marked.mainBlink, marked.alternateBlink, ?_, ?_⟩
  · rw [markedFrame, movedFrame]
  · dsimp only [moved]
    by_cases rises : whole ∧ clamped > 0
    · have parts := rises.1
      simp only [whole, Bool.and_eq_true, beq_iff_eq] at parts
      exact Or.inr ⟨parts.1.2, parts.2⟩
    · rw [if_neg rises]
      exact Or.inl rfl

theorem scroll
    (wellFormed : terminal.WellFormed lines columns limit)
    (top bottom : Nat) (amount : Int) :
    terminal.Tells (terminal.scroll top bottom amount) := by
  by_cases nothing : amount = 0 ∨ top > bottom ∨ bottom ≥ terminal.lines
  · unfold Terminal.scroll
    rw [if_pos nothing]
    exact refl terminal
  · obtain ⟨clamped, buffer, evicted, mainBlink, alternateBlink, result, moves⟩ :=
      scroll_of_valid nothing
    rw [result]
    have positive := wellFormed.columns_pos
    have bottomInside : bottom < terminal.lines := by omega
    have outside : ∀ y, y < terminal.lines → (y < top ∨ bottom < y) →
        buffer.screenRow y = terminal.buffer.screenRow y := by
      intro y inside apart
      rcases moves with rfl | ⟨rfl, rfl⟩
      · rw [wellFormed.lines_eq] at inside
        exact wellFormed.shaped.screenRow_scrollRows_of_outside clamped _ inside apart
      · -- The whole screen is scrolled: no row is outside.
        omega
    intro notFull
    have wasNotFull : terminal.damage.full = false :=
      (DamageLog.full_markRows _ _ _ _).symm.trans notFull
    have region : ∀ x y, x < terminal.columns → top ≤ y → y ≤ bottom →
        (terminal.damage.markRows top bottom terminal.columns).Covers x y := by
      intro x y column lower upper
      refine DamageLog.covers_markRows wasNotFull ?_ column lower upper
      rw [wellFormed.damage_rows, ← wellFormed.lines_eq]
      exact bottomInside
    refine ⟨wasNotFull, rfl, rfl, ?_, ?_, ?_, ?_⟩
    · exact fun _ _ covered => covered.markRows _ _ _
    · exact fun bounded => bounded.markRows _ _
    · intro x y column row differs
      by_cases apart : y < top ∨ bottom < y
      · change (buffer.screenRow y).cells[x]?.getD {} ≠
          (terminal.buffer.screenRow y).cells[x]?.getD {} at differs
        rw [outside y row apart] at differs
        exact absurd rfl differs
      · exact region x y column (by omega) (by omega)
    · intro old wasDrawn oldInside
      have lastColumn : ∀ x, min x (terminal.columns - 1) < terminal.columns := by
        intro x
        rw [wellFormed.columns_eq]
        omega
      refine ⟨followScroll top bottom clamped old, by rw [wasDrawn]; rfl, ?_⟩
      unfold followScroll
      by_cases within : top ≤ old.y ∧ old.y ≤ bottom
      · rw [if_pos within]
        have lower : top ≤ (max (top : Int) (min ((old.y : Int) - clamped) bottom)).toNat := by
          omega
        have upper : (max (top : Int) (min ((old.y : Int) - clamped) bottom)).toNat ≤ bottom := by
          omega
        exact ⟨Nat.lt_of_le_of_lt upper bottomInside,
          Or.inr ⟨region _ _ (lastColumn _) within.1 within.2,
            region _ _ (lastColumn _) lower upper⟩⟩
      · rw [if_neg within]
        exact ⟨oldInside, Or.inl rfl⟩

theorem index (wellFormed : terminal.WellFormed lines columns limit) :
    terminal.Tells terminal.index.1 := by
  unfold Terminal.index
  dsimp only
  split
  · exact scroll wellFormed _ _ _
  · split <;> exact of_eq rfl rfl rfl rfl rfl

theorem reverseIndex (wellFormed : terminal.WellFormed lines columns limit) :
    terminal.Tells terminal.reverseIndex := by
  unfold Terminal.reverseIndex
  dsimp only
  split
  · exact scroll wellFormed _ _ _
  · exact of_eq rfl rfl rfl rfl rfl

theorem shiftLines (wellFormed : terminal.WellFormed lines columns limit) (amount : Int) :
    terminal.Tells (terminal.shiftLines amount) := by
  unfold Terminal.shiftLines
  split
  · have moved := scroll wellFormed terminal.cursor.y terminal.margins.bottom amount
    exact moved.trans (of_eq rfl rfl rfl rfl rfl)
  · exact refl terminal

/-! ## Lines -/

theorem withBuffer
    (wellFormed : terminal.WellFormed lines columns limit)
    {buffer : ScreenBuffer}
    (shaped : buffer.Shaped lines columns limit)
    (same : terminal.buffer.SameCells buffer) :
    terminal.Tells { terminal with buffer } := by
  refine of_cells rfl rfl rfl rfl fun y inside => ?_
  rw [wellFormed.lines_eq] at inside
  exact wellFormed.shaped.cells_screenRow_of_sameCells shaped same inside

theorem completeLine (wellFormed : terminal.WellFormed lines columns limit) :
    terminal.Tells terminal.completeLine :=
  withBuffer wellFormed (wellFormed.shaped.completeLine _ _) (.completeLine _ _ _)

theorem beginNextLine (wellFormed : terminal.WellFormed lines columns limit) :
    terminal.Tells terminal.beginNextLine := by
  have moved := index wellFormed
  have stillWellFormed := wellFormed.index
  unfold Terminal.beginNextLine
  dsimp only
  split
  · exact moved.trans
      (withBuffer stillWellFormed (stillWellFormed.shaped.beginLine _) (.beginLine _ _))
  · exact moved

theorem carriageReturn (wellFormed : terminal.WellFormed lines columns limit) :
    terminal.Tells terminal.carriageReturn :=
  (completeLine wellFormed).trans (of_eq rfl rfl rfl rfl rfl)

theorem lineFeed (wellFormed : terminal.WellFormed lines columns limit) :
    terminal.Tells terminal.lineFeed := by
  have completed := wellFormed.completeLine
  have moved :
      terminal.Tells
        { terminal.completeLine with
          cursor :=
            { terminal.completeLine.cursor with
              x :=
                if terminal.completeLine.modes.newLine then 0
                else terminal.completeLine.cursorColumn } } :=
    (completeLine wellFormed).trans (of_eq rfl rfl rfl rfl rfl)
  refine moved.trans (beginNextLine (completed.withCursor ?_ completed.cursor_row))
  split
  · exact Nat.zero_le columns
  · exact Nat.le_of_lt completed.cursorColumn_lt

/-! ## Erasing and editing -/

theorem modifyRow_modifyBlink
    (wellFormed : terminal.WellFormed lines columns limit)
    {y : Nat} (start stop : Nat) {change : Row → Row}
    (changeBlink : BlinkMarks → BlinkMarks)
    (inside : y < lines)
    (stopInside : stop ≤ columns)
    (keeps : ∀ row : Row, row.cells.length = columns → (change row).cells.length = columns)
    (same : ∀ row : Row, row.cells.length = columns → ∀ x, x < columns →
      x < start ∨ stop ≤ x → (change row).cells[x]? = row.cells[x]?) :
    terminal.Tells
      (((terminal.modifyRow y change).modifyBlink changeBlink).markDamage y start stop) := by
  have marked := modifyRow wellFormed start stop inside stopInside keeps same
  rw [modifyBlink_frame]
  exact marked.trans (of_eq rfl rfl rfl rfl rfl)

theorem clearRow
    (wellFormed : terminal.WellFormed lines columns limit)
    {y : Nat}
    (inside : y < lines) :
    terminal.Tells (terminal.clearRow y) := by
  have columnsEq := wellFormed.columns_eq
  unfold Terminal.clearRow
  refine modifyRow_modifyBlink wellFormed 0 _ _ inside (Nat.le_of_eq columnsEq) (by simp) ?_
  intro row width x column outside
  change x < 0 ∨ terminal.columns ≤ x at outside
  omega

theorem clearRows
    (wellFormed : terminal.WellFormed lines columns limit)
    {top count : Nat}
    (inside : top + count ≤ lines) :
    terminal.Tells (terminal.clearRows top count) := by
  apply foldl wellFormed
  · exact fun _ _ current => current.clearRow _
  · intro current k member currentWellFormed
    rw [List.mem_range] at member
    exact clearRow currentWellFormed (by omega)

theorem eraseSpan
    (wellFormed : terminal.WellFormed lines columns limit)
    {start stop : Nat}
    (ordered : start ≤ stop)
    (stopInside : stop ≤ columns) :
    terminal.Tells (terminal.eraseSpan terminal.cursor.y start stop) := by
  refine modifyRow_modifyBlink wellFormed start stop _ wellFormed.cursor_row stopInside ?_ ?_
  · intro row width
    split
    · rw [row.length_clear, width]
    · rw [row.length_fillSpan ordered (by omega), width]
  · intro row width x column outside
    split
    · omega
    · exact Row.getElem?_fillSpan_of_outside ordered (by omega) outside _

theorem eraseInLine
    (wellFormed : terminal.WellFormed lines columns limit) (part : Nat) :
    terminal.Tells (terminal.eraseInLine part) := by
  have column := wellFormed.cursorColumn_lt
  obtain rfl := wellFormed.columns_eq
  unfold Terminal.eraseInLine
  dsimp only
  split
  · exact eraseSpan wellFormed (Nat.le_of_lt column) (Nat.le_refl _)
  · exact eraseSpan wellFormed (Nat.zero_le _) column
  · exact eraseSpan wellFormed (Nat.zero_le _) (Nat.le_refl _)
  · exact refl terminal

theorem clearHistory (wellFormed : terminal.WellFormed lines columns limit) :
    terminal.Tells terminal.clearHistory := by
  unfold Terminal.clearHistory
  by_cases onAlternate : terminal.onAlternate = true
  · rw [if_pos onAlternate]
    exact refl terminal
  · rw [if_neg onAlternate]
    refine of_cells rfl rfl rfl rfl fun y inside => ?_
    rw [wellFormed.lines_eq] at inside
    have main : terminal.buffer.onAlternate = false := Bool.eq_false_iff.mpr onAlternate
    exact congrArg Row.cells (wellFormed.shaped.screenRow_clearHistory main inside)

theorem eraseInDisplay
    (wellFormed : terminal.WellFormed lines columns limit) (part : Nat) :
    terminal.Tells (terminal.eraseInDisplay part) := by
  have row := wellFormed.cursor_row
  obtain rfl := wellFormed.lines_eq
  unfold Terminal.eraseInDisplay
  dsimp only
  split
  · exact (eraseInLine wellFormed 0).trans (clearRows (wellFormed.eraseInLine 0) (by omega))
  · exact (clearRows wellFormed (by omega)).trans (eraseInLine (wellFormed.clearRows _ _) 1)
  · exact clearRows wellFormed (by omega)
  · exact (clearRows wellFormed (by omega)).trans (clearHistory (wellFormed.clearRows _ _))
  · exact refl terminal

theorem insertChars
    (wellFormed : terminal.WellFormed lines columns limit) (count : Nat) :
    terminal.Tells (terminal.insertChars count) := by
  have columnsEq := wellFormed.columns_eq
  refine modifyRow_modifyBlink wellFormed terminal.cursorColumn terminal.columns _
    wellFormed.cursor_row (Nat.le_of_eq columnsEq) (by simp) ?_
  intro row width x column outside
  exact Row.getElem?_openGap_of_lt (by omega) (by omega) _ _

theorem deleteChars
    (wellFormed : terminal.WellFormed lines columns limit) (count : Nat) :
    terminal.Tells (terminal.deleteChars count) := by
  have columnsEq := wellFormed.columns_eq
  have cursorInside := wellFormed.cursorColumn_lt
  refine modifyRow_modifyBlink wellFormed terminal.cursorColumn terminal.columns _
    wellFormed.cursor_row (Nat.le_of_eq columnsEq) ?_ ?_
  · intro row width
    rw [row.length_closeGap (by omega), width]
  · intro row width x column outside
    exact Row.getElem?_closeGap_of_lt (by omega) (by omega) _ _

theorem eraseChars
    (wellFormed : terminal.WellFormed lines columns limit) (count : Nat) :
    terminal.Tells (terminal.eraseChars count) := by
  have cursorInside := wellFormed.cursorColumn_lt
  have columnsEq := wellFormed.columns_eq
  exact eraseSpan wellFormed (by omega) (by omega)

/-! ## Printing -/

theorem wrap (wellFormed : terminal.WellFormed lines columns limit) :
    terminal.Tells terminal.wrap := by
  unfold Terminal.wrap
  split
  · exact refl terminal
  · split
    · have returned := wellFormed.withCursor (Nat.zero_le _) wellFormed.cursor_row
      have first :
          terminal.Tells { terminal with cursor := { terminal.cursor with x := 0 } } :=
        of_eq rfl rfl rfl rfl rfl
      have moved := first.trans (index returned)
      have stillWellFormed := returned.index
      dsimp only
      split
      · exact moved.trans
          (withBuffer stillWellFormed (stillWellFormed.shaped.continueLine _) (.continueLine _ _))
      · exact moved
    · exact of_eq rfl rfl rfl rfl rfl

theorem putCell
    (wellFormed : terminal.WellFormed lines columns limit)
    (column : terminal.cursor.x < columns)
    (cell : Cell) :
    terminal.Tells (terminal.putCell cell) := by
  have row := wellFormed.cursor_row
  have columnsEq := wellFormed.columns_eq
  unfold Terminal.putCell
  dsimp only
  refine trans ?_ (modifyBlink _ _)
  split
  · refine modifyRow_modifyBlink wellFormed _ _ _ row (Nat.le_of_eq columnsEq) (by simp) ?_
    intro each width x _ outside
    exact Row.getElem?_insert_of_lt (by omega) (by omega) cell
  · refine modifyRow wellFormed _ _ row column (by simp) ?_
    intro each _ x _ outside
    exact Row.getElem?_put_of_ne (by omega) cell

theorem print (wellFormed : terminal.WellFormed lines columns limit) (char : Char) :
    terminal.Tells (terminal.print char) := by
  obtain ⟨wrapped, column⟩ := wellFormed.wrap
  have written := (wrap wellFormed).trans (putCell wrapped column ⟨char, terminal.wrap.pen⟩)
  exact written.trans (of_eq rfl rfl rfl rfl rfl)

theorem printAll (wellFormed : terminal.WellFormed lines columns limit) (text : List Char) :
    terminal.Tells (terminal.printAll text) :=
  foldl wellFormed (fun _ _ current => current.print _) fun _ _ _ current => print current _

/-! ## Switches -/

theorem showScreen (terminal : Terminal) (alternate clear : Bool) :
    terminal.Tells (terminal.showScreen alternate clear) := by
  unfold Terminal.showScreen
  split
  · exact refl terminal
  · exact of_full rfl

theorem setMode (terminal : Terminal) (mode : Nat) (on : Bool) :
    terminal.Tells (terminal.setMode mode on) := by
  unfold Terminal.setMode
  split <;> exact of_eq rfl rfl rfl rfl rfl

theorem setCursorVisible
    (wellFormed : terminal.WellFormed lines columns limit) (on : Bool) :
    terminal.Tells (terminal.setCursorVisible on) := by
  have switched :
      terminal.Tells { terminal with modes := { terminal.modes with cursorVisible := on } } :=
    of_eq rfl rfl rfl rfl rfl
  exact switched.trans (markCursor (wellFormed.withModes _) _)

theorem setPrivateMode
    (wellFormed : terminal.WellFormed lines columns limit) (mode : Nat) (on : Bool) :
    terminal.Tells (terminal.setPrivateMode mode on) := by
  have saved : terminal.Tells terminal.saveMainPosition := of_eq rfl rfl rfl rfl rfl
  refine terminal.setPrivateMode_cases on mode ?modes ?visible ?screen ?save ?restore ?enter ?leave
  case modes => exact fun _ => of_eq rfl rfl rfl rfl rfl
  case visible => exact setCursorVisible wellFormed on
  case screen => exact showScreen terminal on
  case save => exact saved
  case restore => exact of_eq rfl rfl rfl rfl rfl
  case enter => exact saved.trans (showScreen _ _ _)
  case leave => exact (showScreen terminal _ _).trans (of_eq rfl rfl rfl rfl rfl)

theorem setTitle (terminal : Terminal) (title : String) :
    terminal.Tells (terminal.setTitle title) := by
  unfold Terminal.setTitle
  split <;> exact of_eq rfl rfl rfl rfl rfl

theorem backspace (terminal : Terminal) : terminal.Tells terminal.backspace := by
  unfold Terminal.backspace
  split
  · split <;> exact of_eq rfl rfl rfl rfl rfl
  · exact of_eq rfl rfl rfl rfl rfl

theorem setMargins (terminal : Terminal) (top bottom : Nat) :
    terminal.Tells (terminal.setMargins top bottom) := by
  unfold Terminal.setMargins
  dsimp only
  split <;> exact of_eq rfl rfl rfl rfl rfl

theorem restoreState (terminal : Terminal) : terminal.Tells terminal.restoreState := by
  unfold Terminal.restoreState
  split <;> exact of_eq rfl rfl rfl rfl rfl

theorem resize
    {newLines newColumns : Nat} {resized : Terminal}
    (accepted : terminal.resize? newLines newColumns = some resized) :
    terminal.Tells resized := by
  unfold Terminal.resize? at accepted
  split at accepted
  · cases accepted
  · obtain rfl := Option.some.inj accepted
    exact of_full rfl

/-! ## Requests -/

theorem perform
    (wellFormed : terminal.WellFormed lines columns limit) (function : ControlFunction) :
    terminal.Tells (terminal.perform function) := by
  cases function with
  | backspace => exact backspace terminal
  | lineFeed => exact lineFeed wellFormed
  | carriageReturn => exact carriageReturn wellFormed
  | index => exact index wellFormed
  | nextLine =>
      exact (carriageReturn wellFormed).trans (beginNextLine wellFormed.carriageReturn)
  | reverseIndex => exact reverseIndex wellFormed
  | eraseInDisplay part => exact eraseInDisplay wellFormed part
  | eraseInLine part => exact eraseInLine wellFormed part
  | insertLines count => exact shiftLines wellFormed _
  | deleteLines count => exact shiftLines wellFormed _
  | insertChars count => exact insertChars wellFormed count
  | deleteChars count => exact deleteChars wellFormed count
  | eraseChars count => exact eraseChars wellFormed count
  | scrollUp count => exact scroll wellFormed _ _ _
  | scrollDown count => exact scroll wellFormed _ _ _
  | setMargins top bottom => exact setMargins terminal _ _
  | restoreState => exact restoreState terminal
  | setModes modes on =>
      exact foldl wellFormed (fun _ _ current => current.setMode _ _)
        fun current _ _ _ => setMode current _ _
  | setPrivateModes modes on =>
      exact foldl wellFormed (fun _ _ current => current.setPrivateMode _ _)
        fun _ _ _ current => setPrivateMode current _ _
  | reset => exact of_full rfl
  | alignmentTest => exact of_full rfl
  | setTitle title => exact setTitle terminal _
  | nothing | horizontalTab | moveUp | moveDown | moveRight | moveLeft | moveUpLines
  | moveDownLines | moveTo | moveToColumn | moveToRow | moveRowsDown | selectRendition
  | savePosition | restorePosition | saveState | reportDevice | reportSecondary | reportStatus
  | reportWindow | reportPalette | reportDynamic => exact of_eq rfl rfl rfl rfl rfl

theorem markBlink (wellFormed : terminal.WellFormed lines columns limit) :
    terminal.Tells terminal.markBlink := by
  have shapes : ∀ (current : Terminal) (mark : Position),
      current.WellFormed lines columns limit →
      (current.markDamage mark.y mark.x (mark.x + 1)).WellFormed lines columns limit :=
    fun _ _ current => current.markDamage _ _ _
  have inside : terminal.blink.Inside lines columns := by
    unfold blink
    split
    · exact wellFormed.alternateBlink_inside
    · exact wellFormed.mainBlink_inside
  have marked :
      terminal.Tells
        (terminal.blink.positions.foldl
          (fun current mark => current.markDamage mark.y mark.x (mark.x + 1)) terminal) := by
    refine foldl wellFormed shapes fun current mark member currentWellFormed => ?_
    refine markDamage current _ _ ?_
    rw [currentWellFormed.columns_eq]
    exact (inside mark member).1
  exact marked.trans (markCursor (.foldl shapes wellFormed) _)

theorem drawAt
    (told : first.Tells second)
    {new : Position}
    (newInside : new.y < second.lines)
    (marked : second.damage.full = false → ∀ old, first.drawnCursor = some old →
      old.y < first.lines → second.CoversCursor old ∧ second.CoversCursor new) :
    first.Tells { second with drawnCursor := some new } := by
  intro notFull
  obtain ⟨wasNotFull, reports⟩ := told notFull
  refine ⟨wasNotFull, { reports with drawn := ?_ }⟩
  intro old wasDrawn oldInside
  exact ⟨new, rfl, newInside, Or.inr (marked notFull old wasDrawn oldInside)⟩

theorem coversCursor_markCursor
    (wellFormed : terminal.WellFormed lines columns limit)
    {cursor : Position}
    (notFull : terminal.damage.full = false)
    (inside : cursor.y < lines) :
    (terminal.markCursor cursor).CoversCursor cursor := by
  have rowMarked : cursor.y < terminal.damage.rows.length := by
    rw [wellFormed.damage_rows]
    exact inside
  exact DamageLog.covers_mark notFull rowMarked (Nat.le_refl _) (Nat.lt_succ_self _)

/-- The cursor is noted as drawn only after its old place and its new one are
marked. -/
theorem noteCursor (wellFormed : terminal.WellFormed lines columns limit) :
    terminal.Tells terminal.noteCursor := by
  have row := wellFormed.cursor_row
  have rowInside : terminal.cursor.y < terminal.lines := by rwa [wellFormed.lines_eq]
  unfold Terminal.noteCursor
  by_cases still : terminal.drawnCursor = some terminal.cursor
  · rw [if_pos still]
    exact refl terminal
  · rw [if_neg still]
    cases wasDrawn : terminal.drawnCursor with
    | none =>
        refine drawAt (markCursor wellFormed terminal.cursor) rowInside ?_
        intro _ old drawn
        rw [wasDrawn] at drawn
        cases drawn
    | some drawn =>
        have erased := wellFormed.markCursor drawn
        refine drawAt
          ((markCursor wellFormed drawn).trans (markCursor erased terminal.cursor)) rowInside ?_
        intro notFull old sameDrawn oldInside
        rw [wasDrawn] at sameDrawn
        cases sameDrawn
        rw [wellFormed.lines_eq] at oldInside
        have erasedNotFull : (terminal.markCursor drawn).damage.full = false :=
          (DamageLog.full_mark _ _ _ _).symm.trans notFull
        have wasNotFull : terminal.damage.full = false :=
          (DamageLog.full_mark _ _ _ _).symm.trans erasedNotFull
        exact ⟨(coversCursor_markCursor wellFormed wasNotFull oldInside).mark _ _ _,
          coversCursor_markCursor erased erasedNotFull row⟩

/-- Whatever is asked of a terminal but to take its damage is told by the
damage. -/
theorem serve
    (wellFormed : terminal.WellFormed lines columns limit)
    {request : Request}
    (kept : request ≠ .takeDamage) :
    terminal.Tells (terminal.serve request) := by
  cases request with
  | perform function => exact perform wellFormed function
  | print text => exact printAll wellFormed text
  | scroll top bottom amount => exact scroll wellFormed top bottom amount
  | resize newLines newColumns =>
      cases accepted : terminal.resize? newLines newColumns with
      | none =>
          rw [Terminal.serve, accepted]
          exact refl terminal
      | some resized =>
          rw [Terminal.serve, accepted]
          exact resize accepted
  | markBlink => exact markBlink wellFormed
  | takeDamage => exact absurd rfl kept
  | setPen | configure | takeTitle | takeReset | takeEvicted => exact of_eq rfl rfl rfl rfl rfl

theorem foldl_serve
    (wellFormed : terminal.WellFormed lines columns limit)
    {requests : List Request}
    (kept : .takeDamage ∉ requests) :
    terminal.Tells (requests.foldl Terminal.serve terminal) := by
  induction requests generalizing terminal lines columns with
  | nil => exact refl terminal
  | cons request rest inductionHypothesis =>
      have served : terminal.Tells (terminal.serve request) :=
        serve wellFormed fun same => kept (same ▸ List.mem_cons_self)
      obtain ⟨newLines, newColumns, stillWellFormed⟩ := wellFormed.serve request
      exact served.trans
        (inductionHypothesis stillWellFormed fun member =>
          kept (List.mem_cons_of_mem request member))

end Tells

/-! ## Damage that is taken -/

/-- The cell that the cursor is drawn in. -/
def cursorCell (terminal : Terminal) : Position :=
  ⟨terminal.cursorColumn, terminal.cursor.y⟩

@[simp]
theorem lines_noteCursor (terminal : Terminal) :
    terminal.noteCursor.lines = terminal.lines := by
  rw [noteCursor_frame]

@[simp]
theorem columns_noteCursor (terminal : Terminal) :
    terminal.noteCursor.columns = terminal.columns := by
  rw [noteCursor_frame]

@[simp]
theorem drawnCursor_noteCursor (terminal : Terminal) :
    terminal.noteCursor.drawnCursor = some terminal.cursor := by
  rw [noteCursor_frame]

@[simp]
theorem cell_noteCursor (terminal : Terminal) (x y : Nat) :
    terminal.noteCursor.cell x y = terminal.cell x y := by
  rw [noteCursor_frame]
  rfl

namespace Reports

variable {before after : Terminal} (reports : before.takeDamage.1.Reports after.noteCursor)
include reports

theorem size_eq : after.lines = before.lines ∧ after.columns = before.columns := by
  have linesEq : after.noteCursor.lines = before.noteCursor.lines := reports.lines_eq
  have columnsEq : after.noteCursor.columns = before.noteCursor.columns := reports.columns_eq
  rw [lines_noteCursor, lines_noteCursor] at linesEq
  rw [columns_noteCursor, columns_noteCursor] at columnsEq
  exact ⟨linesEq, columnsEq⟩

theorem span_inside
    (wellFormed : after.WellFormed lines columns limit)
    {y : Nat} {span : Span}
    (member : (y, span) ∈ DamageLog.spansFrom 0 after.noteCursor.damage.rows) :
    y < after.lines ∧ span.start < span.stop ∧ span.stop ≤ after.columns := by
  have found := (DamageLog.mem_spansFrom.mp member).2
  have rowInside : y < after.lines := by
    have rows := wellFormed.takeDamage.damage_rows
    change (after.noteCursor.damage.rows.map fun _ => none).length = lines at rows
    rw [List.length_map] at rows
    rw [wellFormed.lines_eq, ← rows]
    exact (List.getElem?_eq_some_iff.mp found).1
  -- A log that was just taken has no spans that could be too wide.
  have columnsInside := reports.bounded (DamageLog.bounded_take _ _) y span found
  rw [columns_noteCursor] at columnsInside
  exact ⟨rowInside, columnsInside⟩

theorem names_cell
    {x y : Nat}
    (column : x < after.columns)
    (row : y < after.lines)
    (differs : after.cell x y ≠ before.cell x y) :
    Damage.Names (DamageLog.spansFrom 0 after.noteCursor.damage.rows) x y := by
  rw [DamageLog.names_spansFrom]
  refine reports.cell x y ?_ ?_ ?_
  · rwa [← reports.columns_eq, columns_noteCursor]
  · rwa [← reports.lines_eq, lines_noteCursor]
  · change after.noteCursor.cell x y ≠ before.noteCursor.cell x y
    rwa [cell_noteCursor, cell_noteCursor]

theorem names_cursor
    (inside : before.cursor.y < before.lines)
    (differs : after.cursorCell ≠ before.cursorCell) :
    Damage.Names (DamageLog.spansFrom 0 after.noteCursor.damage.rows) before.cursorCell.x
        before.cursorCell.y ∧
      Damage.Names (DamageLog.spansFrom 0 after.noteCursor.damage.rows) after.cursorCell.x
        after.cursorCell.y := by
  have wasDrawn : before.takeDamage.1.drawnCursor = some before.cursor :=
    before.drawnCursor_noteCursor
  have wasInside : before.cursor.y < before.takeDamage.1.lines := by
    change before.cursor.y < before.noteCursor.lines
    rwa [lines_noteCursor]
  obtain ⟨new, newDrawn, _, covered⟩ := reports.drawn before.cursor wasDrawn wasInside
  rw [drawnCursor_noteCursor] at newDrawn
  obtain rfl := Option.some.inj newDrawn
  rw [DamageLog.names_spansFrom, DamageLog.names_spansFrom]
  unfold CoversCursor at covered
  rw [columns_noteCursor] at covered
  unfold cursorCell cursorColumn at differs ⊢
  rw [← reports.size_eq.2] at differs ⊢
  rcases covered with same | ⟨oldCovered, newCovered⟩
  · rw [same] at differs
    exact absurd rfl differs
  · exact ⟨oldCovered, newCovered⟩

end Reports

end Terminal

namespace Console

/-- Damage that is taken as spans names every cell that differs since damage
was last taken, and the cells that the cursor left and came to. -/
theorem takeDamage_run
    {limit : Nat} {console : Console}
    (reachable : console.Reachable limit)
    {inputs : List Input}
    (kept : .request .takeDamage ∉ inputs)
    {spans : List (Nat × Span)}
    (taken :
      (((console.receive (.request .takeDamage)).run inputs).terminal.takeDamage).2 =
        .spans spans) :
    let before := console.terminal
    let after := ((console.receive (.request .takeDamage)).run inputs).terminal
    (after.lines = before.lines ∧ after.columns = before.columns) ∧
      (∀ y (span : Span), (y, span) ∈ spans →
        y < after.lines ∧ span.start < span.stop ∧ span.stop ≤ after.columns) ∧
      (spans.map Prod.fst).Nodup ∧
      (∀ x y, x < after.columns → y < after.lines → after.cell x y ≠ before.cell x y →
        Damage.Names spans x y) ∧
      (after.cursorCell ≠ before.cursorCell →
        Damage.Names spans before.cursorCell.x before.cursorCell.y ∧
          Damage.Names spans after.cursorCell.x after.cursorCell.y) := by
  intro before after
  have wellFormed :
      (console.receive (.request .takeDamage)).terminal.WellFormed before.lines before.columns
        limit :=
    reachable.wellFormed.takeDamage
  have served :
      after =
        ((console.receive (.request .takeDamage)).runRequests inputs).foldl Terminal.serve
          before.takeDamage.1 :=
    terminal_run _ inputs
  have keptServed :
      .takeDamage ∉ (console.receive (.request .takeDamage)).runRequests inputs := by
    intro member
    rcases mem_runRequests member with asked | ⟨text, printed⟩ | ⟨function, performed⟩
    · exact kept asked
    · cases printed
    · cases performed
  obtain ⟨newLines, newColumns, stillWellFormed⟩ := run_wellFormed wellFormed inputs
  have told : before.takeDamage.1.Tells after.noteCursor := by
    refine Terminal.Tells.trans ?_ (.noteCursor stillWellFormed)
    rw [served]
    exact Terminal.Tells.foldl_serve wellFormed keptServed
  obtain ⟨notFull, rfl⟩ := DamageLog.of_take_eq_spans taken
  obtain ⟨_, reports⟩ := told notFull
  exact
    ⟨reports.size_eq, fun _ _ member => reports.span_inside stillWellFormed member,
      DamageLog.nodup_spansFrom _ 0, fun _ _ column row differs =>
        reports.names_cell column row differs,
      reports.names_cursor reachable.wellFormed.cursor_row⟩

/-- A character written over another one, and the cursor gone from the row
below it. -/
theorem takeDamage_run_two_rows :
    let console := (blank 3 3 1).run [.text "abc\r\nde".toList]
    let inputs := [.text "\x1b[1;2Hx".toList, .request .markBlink]
    let spans := [(0, ⟨1, 3⟩), (1, ⟨2, 3⟩)]
    let before := console.terminal
    let after := ((console.receive (.request .takeDamage)).run inputs).terminal
    console.Reachable 1 ∧ .request .takeDamage ∉ inputs ∧
      after.takeDamage.2 = .spans spans ∧
      (after.lines = before.lines ∧ after.columns = before.columns) ∧
      (∀ y (span : Span), (y, span) ∈ spans →
        y < after.lines ∧ span.start < span.stop ∧ span.stop ≤ after.columns) ∧
      (spans.map Prod.fst).Nodup ∧
      (∀ x y, x < after.columns → y < after.lines → after.cell x y ≠ before.cell x y →
        Damage.Names spans x y) ∧
      (after.cursorCell ≠ before.cursorCell →
        Damage.Names spans before.cursorCell.x before.cursorCell.y ∧
          Damage.Names spans after.cursorCell.x after.cursorCell.y) := by
  intro console inputs spans before after
  have reachable : console.Reachable 1 := ⟨3, 3, _, by decide, by decide, rfl⟩
  have kept : .request .takeDamage ∉ inputs := by simp [inputs]
  have taken : after.takeDamage.2 = .spans spans := by decide +kernel
  exact ⟨reachable, kept, taken, takeDamage_run reachable kept taken⟩

end Console

end VideoTerminal
