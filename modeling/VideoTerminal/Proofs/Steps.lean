import VideoTerminal.Proofs.Requests

/-!
Small steps. Whatever is asked of a terminal, as long as it does not exchange
the screens or replace their rows, is a sequence of small steps on the screen
that is shown: a row is edited, rows are scrolled, a logical line is stamped,
or nothing happens that a cell or a blink mark could tell.

A step also says whether marks collide in it. Marks move one after the other;
one that is put down on another one that has yet to move goes with it, which
happens when two marks are just as far apart as they move right or down.
-/

namespace VideoTerminal

namespace BlinkMarks

/-- Two marks of a row are `count` columns apart, from column `start` on. -/
def collidesRight (marks : BlinkMarks) (y start count : Nat) : Bool :=
  decide (0 < count) &&
    marks.positions.any fun mark =>
      mark.y == y && decide (start ≤ mark.x) && marks.positions.contains ⟨mark.x + count, y⟩

/-- Two marks of a column are `count` rows apart, in the rows `top` to
`bottom`. -/
def collidesDown (marks : BlinkMarks) (top bottom count : Nat) : Bool :=
  decide (0 < count) &&
    marks.positions.any fun mark =>
      decide (top ≤ mark.y) && decide (mark.y + count ≤ bottom) &&
        marks.positions.contains ⟨mark.x, mark.y + count⟩

end BlinkMarks

/-- The edits that a terminal makes in a row of the screen. -/
inductive RowEdit where
  | clear
  | erase (start stop : Nat)
  | put (column : Nat) (cell : Cell)
  | insert (column : Nat) (cell : Cell)
  | openGap (column count : Nat)
  | closeGap (column count : Nat)

namespace RowEdit

/-- What an edit makes of the row. -/
def change (fill : Cell) : RowEdit → Row → Row
  | clear, row => row.clear fill
  | erase start stop, row =>
      if start = 0 ∧ stop = row.cells.length then row.clear fill else row.fillSpan start stop fill
  | put column cell, row => row.put column cell
  | insert column cell, row => row.insert column cell
  | openGap column count, row => row.openGap column count fill
  | closeGap column count, row => row.closeGap column count fill

/-- The mark of a cell that is written. -/
def writeMark (cell : Cell) (position : Position) (marks : BlinkMarks) : BlinkMarks :=
  if cell.rendition.blink then marks.insert position else marks.erase position

/-- What an edit of row `y` makes of the blink marks. -/
def marking (columns y : Nat) : RowEdit → BlinkMarks → BlinkMarks
  | clear, marks => marks.eraseRow y
  | erase start stop, marks => marks.eraseSpan y start stop
  | put column cell, marks => writeMark cell ⟨column, y⟩ marks
  | insert column cell, marks =>
      writeMark cell ⟨column, y⟩ (marks.shiftColumns y column columns 1)
  | openGap column count, marks =>
      (marks.shiftColumns y column columns count).eraseSpan y column (column + count)
  | closeGap column count, marks =>
      (marks.eraseSpan y column (column + count)).shiftColumns y (column + count) columns
        (-(count : Int))

/-- Whether marks of row `y` collide in an edit. -/
def collides (marks : BlinkMarks) (y : Nat) : RowEdit → Bool
  | insert column _ => marks.collidesRight y column 1
  | openGap column count => marks.collidesRight y column count
  | clear | erase _ _ | put _ _ | closeGap _ _ => false

/-- The columns that an edit is about are those of a row of `columns` cells. -/
def Fits (columns : Nat) : RowEdit → Prop
  | clear => True
  | erase start stop => start ≤ stop ∧ stop ≤ columns
  | put column _ | insert column _ => column < columns
  | openGap column count | closeGap column count => column + count ≤ columns

end RowEdit

namespace Terminal

/-- Edit a row of the screen, and its marks. -/
def edit (terminal : Terminal) (y : Nat) (edit : RowEdit) : Terminal :=
  (terminal.modifyRow y (edit.change terminal.fill)).modifyBlink
    (edit.marking terminal.columns y)

/-- Fill the screen with cells of one kind. -/
def fillScreen (terminal : Terminal) (cell : Cell) : Terminal :=
  modifyBlink
    { terminal with buffer := terminal.buffer.clearScreenRows 0 terminal.lines cell }
    fun _ => {}

/-! ## Collisions -/

/-- Whether marks collide in a scroll. -/
def scrollCollides (terminal : Terminal) (top bottom : Nat) (amount : Int) : Bool :=
  decide (bottom < terminal.lines) &&
    terminal.blink.collidesDown top bottom (-amount).toNat

def performCollides (terminal : Terminal) : ControlFunction → Bool
  | .reverseIndex =>
      terminal.cursor.y == terminal.margins.top &&
        terminal.scrollCollides terminal.margins.top terminal.margins.bottom (-1)
  | .insertLines count =>
      terminal.insideMargins &&
        terminal.scrollCollides terminal.cursor.y terminal.margins.bottom
          (-(terminal.clampLines count : Int))
  | .scrollDown count =>
      terminal.scrollCollides terminal.margins.top terminal.margins.bottom
        (-(terminal.clampLines count : Int))
  | .insertChars count =>
      terminal.blink.collidesRight terminal.cursor.y terminal.cursorColumn
        (min count (terminal.columns - terminal.cursorColumn))
  | _ => false

/-- Whether marks collide when a character is written. -/
def printCollides (terminal : Terminal) : Bool :=
  terminal.wrap.modes.insert &&
    terminal.wrap.blink.collidesRight terminal.wrap.cursor.y terminal.wrap.cursor.x 1

def printAllCollides (terminal : Terminal) : List Char → Bool
  | [] => false
  | char :: rest => terminal.printCollides || (terminal.print char).printAllCollides rest

/-- Whether marks collide while a request is served. -/
def serveCollides (terminal : Terminal) : Request → Bool
  | .perform function => terminal.performCollides function
  | .print text => terminal.printAllCollides text
  | .scroll top bottom amount => terminal.scrollCollides top bottom amount
  | _ => false

/-- Whether marks collide anywhere while some requests are served. -/
def collidesIn (terminal : Terminal) : List Request → Bool
  | [] => false
  | request :: rest =>
      terminal.serveCollides request || (terminal.serve request).collidesIn rest

theorem scrollCollides_of_nonneg
    (terminal : Terminal) (top bottom : Nat) {amount : Int}
    (nonneg : 0 ≤ amount) :
    terminal.scrollCollides top bottom amount = false := by
  have nothing : (-amount).toNat = 0 := by omega
  simp [scrollCollides, BlinkMarks.collidesDown, nothing]

/-! ## Steps -/

/-- The terminals have the same rows and marks, and both the same size. Only if
the first was reset is the second. -/
structure SameContent (first second : Terminal) : Prop where
  lines_eq : second.lines = first.lines
  columns_eq : second.columns = first.columns
  buffer_eq : second.buffer = first.buffer
  mainBlink_eq : second.mainBlink = first.mainBlink
  alternateBlink_eq : second.alternateBlink = first.alternateBlink
  savedMainPosition_eq : second.savedMainPosition = first.savedMainPosition
  wasReset_of : second.wasReset = true → first.wasReset = true

/-- Move the rows `top` to `bottom` by `amount`, which is at most their number.
The whole main screen scrolled up becomes history. -/
def moveRows (terminal : Terminal) (top bottom : Nat) (amount : Int) : Terminal :=
  if (!terminal.onAlternate && top == 0 && bottom == terminal.lines - 1) ∧ amount > 0 then
    terminal.advance terminal.fill amount.toNat
  else
    { terminal with buffer := terminal.buffer.scrollRows top bottom amount terminal.fill }

/-- An amount of rows, at most all from `top` to `bottom`. -/
def clampAmount (top bottom : Nat) (amount : Int) : Int :=
  max (-((bottom - top + 1 : Nat) : Int)) (min amount ((bottom - top + 1 : Nat) : Int))

/-- A scroll moves rows, and their marks with them. -/
theorem scroll_content
    (terminal : Terminal) {top bottom : Nat} {amount : Int}
    (valid : ¬(amount = 0 ∨ top > bottom ∨ bottom ≥ terminal.lines)) :
    ((terminal.moveRows top bottom (clampAmount top bottom amount)).modifyBlink fun marks =>
        marks.shiftRows top bottom (clampAmount top bottom amount)).SameContent
      (terminal.scroll top bottom amount) := by
  simp only [Terminal.scroll]
  rw [if_neg valid]
  exact ⟨rfl, rfl, rfl, rfl, rfl, rfl, id⟩

/-- A small step on the screen that is shown, in which marks collide or not. -/
inductive Step (lines columns limit : Nat) : Bool → Terminal → Terminal → Prop
  | still {first second : Terminal} :
      first.SameContent second → Step lines columns limit false first second
  | edit {first : Terminal} {y : Nat} {edit : RowEdit} :
      first.WellFormed lines columns limit → y < lines → edit.Fits columns →
        Step lines columns limit (edit.collides first.blink y) first (first.edit y edit)
  | scroll {first : Terminal} (top bottom : Nat) (amount : Int) :
      first.WellFormed lines columns limit →
        Step lines columns limit (first.scrollCollides top bottom amount) first
          (first.scroll top bottom amount)
  | fillScreen {first : Terminal} {cell : Cell} :
      first.WellFormed lines columns limit → cell.rendition.blink = false →
        Step lines columns limit false first (first.fillScreen cell)
  | clearHistory {first : Terminal} :
      first.WellFormed lines columns limit →
        Step lines columns limit false first first.clearHistory
  | continueLine {first : Terminal} (y : Nat) :
      first.WellFormed lines columns limit →
        Step lines columns limit false first
          { first with buffer := first.buffer.continueLine y }
  | completeLine {first : Terminal} (x y : Nat) :
      first.WellFormed lines columns limit →
        Step lines columns limit false first
          { first with buffer := first.buffer.completeLine x y }
  | beginLine {first : Terminal} (y : Nat) :
      first.WellFormed lines columns limit →
        Step lines columns limit false first { first with buffer := first.buffer.beginLine y }

/-- Some small steps, with a collision of marks in one of them or in none. -/
inductive Steps (lines columns limit : Nat) : Bool → Terminal → Terminal → Prop
  | refl (terminal : Terminal) : Steps lines columns limit false terminal terminal
  | head {early late : Bool} {first second third : Terminal} :
      Step lines columns limit early first second →
        Steps lines columns limit late second third →
          Steps lines columns limit (early || late) first third

namespace Steps

variable {lines columns limit : Nat} {early late : Bool}
variable {first second third terminal : Terminal}

theorem trans
    (before : Steps lines columns limit early first second)
    (after : Steps lines columns limit late second third) :
    Steps lines columns limit (early || late) first third := by
  induction before with
  | refl => exact after
  | head step _ inductionHypothesis =>
      rw [Bool.or_assoc]
      exact head step (inductionHypothesis after)

theorem single (step : Step lines columns limit early first second) :
    Steps lines columns limit early first second := by
  have steps := head step (refl second)
  rwa [Bool.or_false] at steps

theorem of_same (same : first.SameContent second) :
    Steps lines columns limit false first second :=
  single (.still same)

/-- Steps without a collision may come after any others. -/
theorem append
    (before : Steps lines columns limit early first second)
    (after : Steps lines columns limit false second third) :
    Steps lines columns limit early first third := by
  have steps := before.trans after
  rwa [Bool.or_false] at steps

theorem still
    (before : Steps lines columns limit early first second)
    (same : second.SameContent third) :
    Steps lines columns limit early first third :=
  before.append (of_same same)

/-- A loop over steps without a collision is one itself. -/
theorem foldl
    {item : Type} {items : List item} {step : Terminal → item → Terminal}
    (wellFormed : terminal.WellFormed lines columns limit)
    (shapes : ∀ (current : Terminal) (each : item), current.WellFormed lines columns limit →
      (step current each).WellFormed lines columns limit)
    (steps : ∀ (current : Terminal) (each : item), each ∈ items →
      current.WellFormed lines columns limit →
        Steps lines columns limit false current (step current each)) :
    Steps lines columns limit false terminal (items.foldl step terminal) := by
  induction items generalizing terminal with
  | nil => exact refl terminal
  | cons item rest inductionHypothesis =>
      have here := steps terminal item List.mem_cons_self wellFormed
      exact here.append
        (inductionHypothesis (shapes terminal item wellFormed) fun current each member =>
          steps current each (List.mem_cons_of_mem item member))

/-! ## Scrolling -/

theorem index (wellFormed : terminal.WellFormed lines columns limit) :
    Steps lines columns limit false terminal terminal.index.1 := by
  simp only [Terminal.index]
  split
  · have steps : Steps lines columns limit _ terminal _ :=
      single (.scroll terminal.margins.top terminal.margins.bottom 1 wellFormed)
    rwa [scrollCollides_of_nonneg _ _ _ (by decide)] at steps
  · split
    · exact of_same ⟨rfl, rfl, rfl, rfl, rfl, rfl, id⟩
    · exact refl terminal

theorem reverseIndex (wellFormed : terminal.WellFormed lines columns limit) :
    Steps lines columns limit (terminal.performCollides .reverseIndex) terminal
      terminal.reverseIndex := by
  simp only [Terminal.reverseIndex, performCollides]
  by_cases atMargin : terminal.cursor.y = terminal.margins.top
  · rw [if_pos atMargin, beq_iff_eq.mpr atMargin, Bool.true_and]
    exact single (.scroll _ _ _ wellFormed)
  · rw [if_neg atMargin, beq_eq_false_iff_ne.mpr atMargin, Bool.false_and]
    exact of_same ⟨rfl, rfl, rfl, rfl, rfl, rfl, id⟩

theorem shiftLines (wellFormed : terminal.WellFormed lines columns limit) (amount : Int) :
    Steps lines columns limit
      (terminal.insideMargins &&
        terminal.scrollCollides terminal.cursor.y terminal.margins.bottom amount)
      terminal (terminal.shiftLines amount) := by
  simp only [Terminal.shiftLines]
  cases between : terminal.insideMargins with
  | true =>
      rw [if_pos rfl, Bool.true_and]
      exact still (single (.scroll _ _ amount wellFormed)) ⟨rfl, rfl, rfl, rfl, rfl, rfl, id⟩
  | false =>
      rw [if_neg Bool.false_ne_true, Bool.false_and]
      exact refl terminal

theorem shiftLines_up
    (wellFormed : terminal.WellFormed lines columns limit)
    {amount : Int}
    (nonneg : 0 ≤ amount) :
    Steps lines columns limit false terminal (terminal.shiftLines amount) := by
  have steps := shiftLines wellFormed amount
  rwa [scrollCollides_of_nonneg _ _ _ nonneg, Bool.and_false] at steps

/-! ## Lines -/

theorem completeLine (wellFormed : terminal.WellFormed lines columns limit) :
    Steps lines columns limit false terminal terminal.completeLine :=
  single (.completeLine _ _ wellFormed)

theorem beginNextLine (wellFormed : terminal.WellFormed lines columns limit) :
    Steps lines columns limit false terminal terminal.beginNextLine := by
  have moved := index wellFormed
  simp only [Terminal.beginNextLine]
  split
  · exact moved.append (single (.beginLine _ wellFormed.index))
  · exact moved

theorem carriageReturn (wellFormed : terminal.WellFormed lines columns limit) :
    Steps lines columns limit false terminal terminal.carriageReturn :=
  (completeLine wellFormed).still ⟨rfl, rfl, rfl, rfl, rfl, rfl, id⟩

theorem lineFeed (wellFormed : terminal.WellFormed lines columns limit) :
    Steps lines columns limit false terminal terminal.lineFeed := by
  have completed := wellFormed.completeLine
  have column : (if terminal.modes.newLine then 0 else terminal.completeLine.cursorColumn) ≤
      columns := by
    split
    · exact Nat.zero_le columns
    · exact Nat.le_of_lt completed.cursorColumn_lt
  have placed := completed.withCursor column completed.cursor_row
  apply append _ (beginNextLine placed)
  exact (completeLine wellFormed).still ⟨rfl, rfl, rfl, rfl, rfl, rfl, id⟩

theorem nextLine (wellFormed : terminal.WellFormed lines columns limit) :
    Steps lines columns limit false terminal terminal.nextLine :=
  (carriageReturn wellFormed).append (beginNextLine wellFormed.carriageReturn)

/-! ## Erasing and editing -/

theorem edit
    (wellFormed : terminal.WellFormed lines columns limit)
    {y : Nat}
    (inside : y < lines)
    (edit : RowEdit)
    (fits : edit.Fits columns)
    (start stop : Nat) :
    Steps lines columns limit (edit.collides terminal.blink y) terminal
      ((terminal.edit y edit).markDamage y start stop) :=
  still (single (.edit wellFormed inside fits)) ⟨rfl, rfl, rfl, rfl, rfl, rfl, id⟩

theorem clearRow
    (wellFormed : terminal.WellFormed lines columns limit)
    {y : Nat}
    (inside : y < lines) :
    Steps lines columns limit false terminal (terminal.clearRow y) :=
  edit wellFormed inside .clear trivial 0 terminal.columns

theorem clearRows
    (wellFormed : terminal.WellFormed lines columns limit)
    {top count : Nat}
    (inside : top + count ≤ lines) :
    Steps lines columns limit false terminal (terminal.clearRows top count) := by
  apply foldl wellFormed
  · exact fun _ _ current => current.clearRow _
  · intro current k member currentWellFormed
    rw [List.mem_range] at member
    exact clearRow currentWellFormed (by omega)

theorem eraseSpan
    (wellFormed : terminal.WellFormed lines columns limit)
    {start stop : Nat}
    (ordered : start ≤ stop)
    (stopInside : stop ≤ columns) :
    Steps lines columns limit false terminal
      (terminal.eraseSpan terminal.cursor.y start stop) :=
  edit wellFormed wellFormed.cursor_row (.erase start stop) ⟨ordered, stopInside⟩ start stop

theorem eraseInLine
    (wellFormed : terminal.WellFormed lines columns limit) (part : Nat) :
    Steps lines columns limit false terminal (terminal.eraseInLine part) := by
  have column := wellFormed.cursorColumn_lt
  obtain rfl := wellFormed.columns_eq
  simp only [Terminal.eraseInLine]
  split
  · exact eraseSpan wellFormed (Nat.le_of_lt column) (Nat.le_refl _)
  · exact eraseSpan wellFormed (Nat.zero_le _) column
  · exact eraseSpan wellFormed (Nat.zero_le _) (Nat.le_refl _)
  · exact refl terminal

theorem eraseInDisplay
    (wellFormed : terminal.WellFormed lines columns limit) (part : Nat) :
    Steps lines columns limit false terminal (terminal.eraseInDisplay part) := by
  have row := wellFormed.cursor_row
  obtain rfl := wellFormed.lines_eq
  simp only [Terminal.eraseInDisplay]
  split
  · exact (eraseInLine wellFormed 0).append (clearRows (wellFormed.eraseInLine 0) (by omega))
  · exact (clearRows wellFormed (by omega)).append (eraseInLine (wellFormed.clearRows _ _) 1)
  · exact clearRows wellFormed (by omega)
  · exact (clearRows wellFormed (by omega)).append
      (single (.clearHistory (wellFormed.clearRows _ _)))
  · exact refl terminal

/-- A gap at the cursor is not longer than the rest of the row. -/
theorem gap_inside (wellFormed : terminal.WellFormed lines columns limit) (count : Nat) :
    terminal.cursorColumn + min count (terminal.columns - terminal.cursorColumn) ≤ columns := by
  have column := wellFormed.cursorColumn_lt
  rw [wellFormed.columns_eq]
  omega

theorem insertChars
    (wellFormed : terminal.WellFormed lines columns limit) (count : Nat) :
    Steps lines columns limit (terminal.performCollides (.insertChars count)) terminal
      (terminal.insertChars count) :=
  edit wellFormed wellFormed.cursor_row (.openGap _ _) (gap_inside wellFormed count) _ _

theorem deleteChars
    (wellFormed : terminal.WellFormed lines columns limit) (count : Nat) :
    Steps lines columns limit false terminal (terminal.deleteChars count) :=
  edit wellFormed wellFormed.cursor_row (.closeGap _ _) (gap_inside wellFormed count) _ _

theorem eraseChars
    (wellFormed : terminal.WellFormed lines columns limit) (count : Nat) :
    Steps lines columns limit false terminal (terminal.eraseChars count) := by
  have column := wellFormed.cursorColumn_lt
  obtain rfl := wellFormed.columns_eq
  exact eraseSpan wellFormed (by omega) (Nat.min_le_right _ _)

/-! ## Printing -/

theorem wrap (wellFormed : terminal.WellFormed lines columns limit) :
    Steps lines columns limit false terminal terminal.wrap := by
  have returned := wellFormed.withCursor (Nat.zero_le _) wellFormed.cursor_row
  have still : terminal.SameContent { terminal with cursor := ⟨0, terminal.cursor.y⟩ } :=
    ⟨rfl, rfl, rfl, rfl, rfl, rfl, id⟩
  have moved := (of_same still).append (index returned)
  simp only [Terminal.wrap]
  split
  · exact refl terminal
  · split
    · split
      · exact moved.append (single (.continueLine _ returned.index))
      · exact moved
    · exact of_same ⟨rfl, rfl, rfl, rfl, rfl, rfl, id⟩

/-- The edit that writes a cell at the cursor. -/
def writing (terminal : Terminal) (cell : Cell) : RowEdit :=
  if terminal.modes.insert then .insert terminal.cursor.x cell else .put terminal.cursor.x cell

theorem modifyBlink_modifyBlink (terminal : Terminal) (change other : BlinkMarks → BlinkMarks) :
    (terminal.modifyBlink change).modifyBlink other =
      terminal.modifyBlink fun marks => other (change marks) := by
  cases alternate : terminal.buffer.onAlternate <;>
    simp [Terminal.modifyBlink, Terminal.onAlternate, alternate]

theorem modifyBlink_markDamage
    (terminal : Terminal) (y start stop : Nat) (change : BlinkMarks → BlinkMarks) :
    (terminal.markDamage y start stop).modifyBlink change =
      (terminal.modifyBlink change).markDamage y start stop := by
  cases alternate : terminal.buffer.onAlternate <;>
    simp [Terminal.modifyBlink, Terminal.markDamage, Terminal.onAlternate, alternate]

theorem putCell_eq (terminal : Terminal) (cell : Cell) :
    terminal.putCell cell =
      (terminal.edit terminal.cursor.y (writing terminal cell)).markDamage terminal.cursor.y
        terminal.cursor.x
        (if terminal.modes.insert then terminal.columns else terminal.cursor.x + 1) := by
  cases inserting : terminal.modes.insert with
  | true =>
      simp only [Terminal.putCell, writing, inserting, if_pos]
      rw [modifyBlink_markDamage, modifyBlink_modifyBlink]
      rfl
  | false =>
      simp only [Terminal.putCell, writing, inserting, Bool.false_eq_true, if_false]
      rw [modifyBlink_markDamage]
      rfl

theorem writing_fits {cell : Cell} (column : terminal.cursor.x < columns) :
    (writing terminal cell).Fits columns := by
  simp only [writing]
  split <;> exact column

theorem collides_writing (terminal : Terminal) (cell : Cell) (y : Nat) :
    (writing terminal cell).collides terminal.blink y =
      (terminal.modes.insert && terminal.blink.collidesRight y terminal.cursor.x 1) := by
  cases inserting : terminal.modes.insert <;> simp [writing, inserting, RowEdit.collides]

theorem print (wellFormed : terminal.WellFormed lines columns limit) (char : Char) :
    Steps lines columns limit terminal.printCollides terminal (terminal.print char) := by
  obtain ⟨wrapped, column⟩ := wellFormed.wrap
  have written :
      Steps lines columns limit terminal.printCollides terminal.wrap
        (terminal.wrap.putCell ⟨char, terminal.wrap.pen⟩) := by
    rw [putCell_eq, printCollides, ← collides_writing terminal.wrap ⟨char, terminal.wrap.pen⟩]
    exact edit wrapped wrapped.cursor_row _ (writing_fits column) _ _
  exact ((wrap wellFormed).trans written).still ⟨rfl, rfl, rfl, rfl, rfl, rfl, id⟩

theorem printAll (wellFormed : terminal.WellFormed lines columns limit) (text : List Char) :
    Steps lines columns limit (terminal.printAllCollides text) terminal
      (terminal.printAll text) := by
  induction text generalizing terminal with
  | nil => exact refl terminal
  | cons char rest inductionHypothesis =>
      exact (print wellFormed char).trans (inductionHypothesis (wellFormed.print char))

end Steps

/-! ## Requests -/

/-- The private modes that exchange the screens, or save the cursor for it. -/
def switchModes : List Nat :=
  [47, 1047, 1048, 1049]

/-- The request is for something on the screen that is shown. It neither
exchanges the screens nor replaces their rows. -/
def Request.staysOnScreen : Request → Bool
  | .resize _ _ | .perform .reset => false
  | .perform (.setPrivateModes modes _) => modes.all fun mode => !switchModes.contains mode
  | _ => true

theorem SameContent.setMode (terminal : Terminal) (mode : Nat) (on : Bool) :
    terminal.SameContent (terminal.setMode mode on) := by
  simp only [Terminal.setMode]
  split <;> exact ⟨rfl, rfl, rfl, rfl, rfl, rfl, id⟩

theorem SameContent.setPrivateMode
    (terminal : Terminal) {mode : Nat}
    (stays : switchModes.contains mode = false)
    (on : Bool) :
    terminal.SameContent (terminal.setPrivateMode mode on) := by
  simp only [Terminal.setPrivateMode]
  split
  · exact ⟨rfl, rfl, rfl, rfl, rfl, rfl, id⟩
  · exact ⟨rfl, rfl, rfl, rfl, rfl, rfl, id⟩
  · split <;> exact ⟨rfl, rfl, rfl, rfl, rfl, rfl, id⟩
  · exact ⟨rfl, rfl, rfl, rfl, rfl, rfl, id⟩
  · cases stays
  · cases stays
  · cases stays
  · cases stays
  · exact ⟨rfl, rfl, rfl, rfl, rfl, rfl, id⟩
  · exact ⟨rfl, rfl, rfl, rfl, rfl, rfl, id⟩

theorem SameContent.backspace (terminal : Terminal) :
    terminal.SameContent terminal.backspace := by
  simp only [Terminal.backspace]
  split
  · split <;> exact ⟨rfl, rfl, rfl, rfl, rfl, rfl, id⟩
  · exact ⟨rfl, rfl, rfl, rfl, rfl, rfl, id⟩

theorem SameContent.setMargins (terminal : Terminal) (top bottom : Nat) :
    terminal.SameContent (terminal.setMargins top bottom) := by
  simp only [Terminal.setMargins]
  split <;> exact ⟨rfl, rfl, rfl, rfl, rfl, rfl, id⟩

theorem SameContent.restoreState (terminal : Terminal) :
    terminal.SameContent terminal.restoreState := by
  simp only [Terminal.restoreState]
  split <;> exact ⟨rfl, rfl, rfl, rfl, rfl, rfl, id⟩

theorem SameContent.setTitle (terminal : Terminal) (title : String) :
    terminal.SameContent (terminal.setTitle title) := by
  simp only [Terminal.setTitle]
  split <;> exact ⟨rfl, rfl, rfl, rfl, rfl, rfl, id⟩

theorem SameContent.takeDamage (terminal : Terminal) :
    terminal.SameContent terminal.takeDamage.1 := by
  rw [takeDamage_frame]
  exact ⟨rfl, rfl, rfl, rfl, rfl, rfl, id⟩

theorem SameContent.markBlink (terminal : Terminal) :
    terminal.SameContent terminal.markBlink := by
  rw [markBlink_frame]
  exact ⟨rfl, rfl, rfl, rfl, rfl, rfl, id⟩

namespace Steps

variable {lines columns limit : Nat} {terminal : Terminal}

theorem perform
    (wellFormed : terminal.WellFormed lines columns limit)
    {function : ControlFunction}
    (stays : (Request.perform function).staysOnScreen = true) :
    Steps lines columns limit (terminal.performCollides function) terminal
      (terminal.perform function) := by
  cases function with
  | lineFeed => exact lineFeed wellFormed
  | carriageReturn => exact carriageReturn wellFormed
  | index => exact index wellFormed
  | nextLine => exact nextLine wellFormed
  | reverseIndex => exact reverseIndex wellFormed
  | eraseInDisplay part => exact eraseInDisplay wellFormed part
  | eraseInLine part => exact eraseInLine wellFormed part
  | insertLines count => exact shiftLines wellFormed _
  | deleteLines count => exact shiftLines_up wellFormed (Int.natCast_nonneg _)
  | insertChars count => exact insertChars wellFormed count
  | deleteChars count => exact deleteChars wellFormed count
  | eraseChars count => exact eraseChars wellFormed count
  | scrollUp count =>
      have steps : Steps lines columns limit _ terminal (terminal.scrollUp count) :=
        single (.scroll _ _ _ wellFormed)
      rwa [scrollCollides_of_nonneg _ _ _ (Int.natCast_nonneg _)] at steps
  | scrollDown count => exact single (.scroll _ _ _ wellFormed)
  | setModes modes on =>
      exact foldl wellFormed (fun _ _ current => current.setMode _ _)
        fun current _ _ _ => of_same (.setMode current _ _)
  | setPrivateModes modes on =>
      refine foldl wellFormed (fun _ _ current => current.setPrivateMode _ _) ?_
      intro current mode member _
      have allowed := List.all_eq_true.mp stays mode member
      exact of_same (.setPrivateMode current (by simpa using allowed) on)
  | reset => exact absurd stays Bool.false_ne_true
  | alignmentTest =>
      exact still (single (.fillScreen wellFormed rfl)) ⟨rfl, rfl, rfl, rfl, rfl, rfl, id⟩
  | backspace => exact of_same (.backspace terminal)
  | setMargins top bottom => exact of_same (.setMargins terminal _ _)
  | restoreState => exact of_same (.restoreState terminal)
  | setTitle title => exact of_same (.setTitle terminal _)
  | nothing | horizontalTab | moveUp | moveDown | moveRight | moveLeft | moveUpLines
  | moveDownLines | moveTo | moveToColumn | moveToRow | moveRowsDown | selectRendition
  | savePosition | restorePosition | saveState | reportDevice | reportSecondary | reportStatus
  | reportWindow | reportPalette | reportDynamic =>
      exact of_same ⟨rfl, rfl, rfl, rfl, rfl, rfl, id⟩

/-- What is asked of the screen that is shown is done in small steps. -/
theorem serve
    (wellFormed : terminal.WellFormed lines columns limit)
    {request : Request}
    (stays : request.staysOnScreen = true) :
    Steps lines columns limit (terminal.serveCollides request) terminal
      (terminal.serve request) := by
  cases request with
  | perform function => exact perform wellFormed stays
  | print text => exact printAll wellFormed text
  | scroll top bottom amount => exact single (.scroll top bottom amount wellFormed)
  | resize newLines newColumns => exact absurd stays Bool.false_ne_true
  | markBlink => exact of_same (.markBlink terminal)
  | takeDamage => exact of_same (.takeDamage terminal)
  | setPen | configure | takeTitle | takeEvicted =>
      exact of_same ⟨rfl, rfl, rfl, rfl, rfl, rfl, id⟩
  | takeReset => exact of_same ⟨rfl, rfl, rfl, rfl, rfl, rfl, nofun⟩

end Steps

end Terminal

end VideoTerminal
