import VideoTerminal.Proofs.RewrappedLines

/-!
Reflow in several steps. A reflow reads the logical lines off the rows and lays
them out at the new width. Reading what was laid out gives back the lines that
were read, so a width in between leaves no trace on the rows or on the cursor.
-/

namespace VideoTerminal.Reflow

variable {oldColumns columns : Nat}

/-! ## Reading and laying out -/

/-- A logical line as reflow keeps it: its cells, and the offset of the cursor
when the cursor is in it. -/
structure TextLine where
  cells : List Cell
  cursor : Option Nat

/-- What is kept of each of some lines, which begin at row `start`. -/
def readLines (oldColumns : Nat) (cursor : Option (Nat × Nat)) (start : Nat) :
    List (List Row) → List TextLine
  | [] => []
  | line :: others =>
      let offset := cursorOffset? oldColumns start line cursor
      ⟨(joined line).take (lineLength line offset), offset⟩ ::
        readLines oldColumns cursor (start + line.length) others

/-- The rows cut from some lines, the first of which is row `first`, and the
place of the cursor among them. -/
def layOut (columns first : Nat) : List TextLine → List Row × Option (Nat × Nat)
  | [] => ([], none)
  | text :: others =>
      let rows := slice columns text.cells
      let rest := layOut columns (first + rows.length) others
      let found :=
        match text.cursor with
        | some offset =>
            let (x, row) := place columns rows.length offset
            some (x, first + row)
        | none => rest.2
      (rows ++ rest.1, found)

theorem rewrapFrom_eq_layOut
    (oldColumns columns : Nat) (cursor : Option (Nat × Nat)) (start first : Nat)
    (groups : List (List Row)) :
    rewrapFrom oldColumns columns cursor start first groups =
      layOut columns first (readLines oldColumns cursor start groups) := by
  induction groups generalizing start first with
  | nil => rfl
  | cons line others inductionHypothesis =>
      cases found : cursorOffset? oldColumns start line cursor <;>
        simp only [rewrapFrom, readLines, layOut, inductionHypothesis, found]

theorem layOut_cursor_of_some
    {text : TextLine} {offset : Nat}
    (here : text.cursor = some offset)
    (first : Nat) (others : List TextLine) :
    (layOut columns first (text :: others)).2 =
      some
        ((place columns (slice columns text.cells).length offset).1,
          first + (place columns (slice columns text.cells).length offset).2) := by
  simp only [layOut, here]

theorem layOut_cursor_of_none
    {text : TextLine}
    (elsewhere : text.cursor = none)
    (first : Nat) (others : List TextLine) :
    (layOut columns first (text :: others)).2 =
      (layOut columns (first + (slice columns text.cells).length) others).2 := by
  simp only [layOut, elsewhere]

/-- The cursor is in one of the lines at most, and not past its cells. -/
def CursorFits : List TextLine → Prop
  | [] => True
  | text :: others =>
      (∀ offset ∈ text.cursor, offset ≤ text.cells.length ∧ ∀ other ∈ others, other.cursor = none) ∧
        CursorFits others

/-! ## The cursor among the lines -/

theorem layOut_without_cursor
    {texts : List TextLine}
    (absent : ∀ text ∈ texts, text.cursor = none)
    (first : Nat) :
    (layOut columns first texts).2 = none := by
  induction texts generalizing first with
  | nil => rfl
  | cons text others inductionHypothesis =>
      rw [layOut_cursor_of_none (absent text List.mem_cons_self)]
      exact inductionHypothesis (fun each member => absent each (List.mem_cons_of_mem _ member)) _

/-- The cursor is not above the rows that are laid out. -/
theorem le_of_mem_layOut_cursor
    {texts : List TextLine} {first x y : Nat}
    (found : (layOut columns first texts).2 = some (x, y)) :
    first ≤ y := by
  induction texts generalizing first with
  | nil => cases found
  | cons text others inductionHypothesis =>
      cases here : text.cursor with
      | none =>
          rw [layOut_cursor_of_none here] at found
          exact Nat.le_trans (Nat.le_add_right _ _) (inductionHypothesis found)
      | some offset =>
          rw [layOut_cursor_of_some here] at found
          obtain ⟨-, rfl⟩ := Prod.mk.inj (Option.some.inj found)
          exact Nat.le_add_right _ _

/-- A cursor above some lines is in none of them. -/
theorem readLines_of_lt
    {start x y : Nat}
    (above : y < start)
    (groups : List (List Row)) :
    readLines oldColumns (some (x, y)) start groups = readLines oldColumns none start groups := by
  induction groups generalizing start with
  | nil => rfl
  | cons line others inductionHypothesis =>
      have elsewhere : cursorOffset? oldColumns start line (some (x, y)) = none :=
        cursorOffset?_of_not_mem (by omega)
      rw [readLines, readLines, elsewhere, inductionHypothesis (by omega)]
      rfl

theorem readLines_cursor_of_lt
    {start x y : Nat}
    (above : y < start)
    {groups : List (List Row)} {text : TextLine}
    (member : text ∈ readLines oldColumns (some (x, y)) start groups) :
    text.cursor = none := by
  induction groups generalizing start with
  | nil => cases member
  | cons line others inductionHypothesis =>
      rcases List.mem_cons.mp member with rfl | later
      · exact cursorOffset?_of_not_mem (by omega)
      · exact inductionHypothesis (by omega) later

/-- The cursor of rows that are all of one width is read at a cell that is
kept, or at the end of its line. -/
theorem cursorFits_readLines
    {cursor : Option (Nat × Nat)} {start : Nat} {groups : List (List Row)}
    (width : ∀ row ∈ groups.flatten, row.cells.length = oldColumns)
    (inside : ∀ place ∈ cursor, place.1 ≤ oldColumns) :
    CursorFits (readLines oldColumns cursor start groups) := by
  induction groups generalizing start with
  | nil => exact trivial
  | cons line others inductionHypothesis =>
      have lineWidth : ∀ row ∈ line, row.cells.length = oldColumns := fun row member =>
        width row (by simp [member])
      have othersWidth : ∀ row ∈ others.flatten, row.cells.length = oldColumns :=
        fun row member => width row (by
          rw [List.flatten_cons]
          exact List.mem_append_right _ member)
      refine ⟨?_, inductionHypothesis othersWidth⟩
      intro offset here
      change cursorOffset? oldColumns start line cursor = some offset at here
      cases cursor with
      | none => cases here
      | some position =>
          obtain ⟨x, y⟩ := position
          by_cases inLine : start ≤ y ∧ y < start + line.length
          · rw [cursorOffset?_of_mem inLine.1 inLine.2] at here
            obtain rfl := Option.some.inj here
            have bound :=
              offset_le_length_joined lineWidth (inside _ rfl) inLine.1 inLine.2
            refine ⟨?_, fun _ => readLines_cursor_of_lt inLine.2⟩
            dsimp only
            rw [cursorOffset?_of_mem inLine.1 inLine.2, List.length_take,
              Nat.min_eq_left (lineLength_le _ _)]
            exact le_lineLength bound
          · rw [cursorOffset?_of_not_mem inLine] at here
            cases here

/-! ## Reading what was laid out -/

theorem head?_layOut
    {first : Nat} {texts : List TextLine} {next : Row}
    (found : next ∈ (layOut columns first texts).1.head?) :
    next.wrap.continues = false := by
  cases texts with
  | nil => exact nomatch found
  | cons text others => exact head?_stampedRows_append (fun _ => rfl) found

/-- Each line that is laid out is a logical line of the rows. -/
theorem lines_layOut (columns first : Nat) (texts : List TextLine) :
    lines (layOut columns first texts).1 = texts.map fun text => slice columns text.cells := by
  induction texts generalizing first with
  | nil => rfl
  | cons text others inductionHypothesis =>
      rw [List.map_cons, ← inductionHypothesis (first + (slice columns text.cells).length)]
      exact lines_stampedRows_append (fun _ => rfl) fun _ => head?_layOut

/-- The offset of a cursor that was placed in a line by its offset. -/
theorem cursorOffset?_place
    (columnsPositive : 0 < columns)
    {cells : List Cell} {offset : Nat}
    (inside : offset ≤ cells.length)
    (first : Nat) :
    let rows := slice columns cells
    let found := place columns rows.length offset
    cursorOffset? columns first rows (some (found.1, first + found.2)) = some offset := by
  intro rows found
  have count : rows.length = rowCount columns cells.length := length_slice columns cells
  obtain ⟨-, rowInside, offsetEq, -⟩ := place_spec columnsPositive inside
  rw [← count] at rowInside offsetEq
  rw [cursorOffset?_of_mem (Nat.le_add_right _ _) (Nat.add_lt_add_left rowInside first),
    Nat.add_sub_cancel_left, offsetEq]

/-- The cells of a line are read back from the rows cut from it, as its stamp
tells how many there are. -/
theorem take_lineLength_slice
    (columnsPositive : 0 < columns)
    {cells : List Cell} {offset : Option Nat}
    (inside : ∀ place ∈ offset, place ≤ cells.length) :
    (joined (slice columns cells)).take (lineLength (slice columns cells) offset) = cells := by
  rw [slice_eq_stampedRows]
  apply take_lineLength_stampedRows columnsPositive
  have stated : (completeStamp columns cells.length 0).length = cells.length := by
    simp [completeStamp]
  rw [stated]
  apply Nat.max_eq_left
  cases offset with
  | none => exact Nat.zero_le _
  | some place => exact inside place rfl

theorem readLines_layOut
    (columnsPositive : 0 < columns)
    {texts : List TextLine}
    (fits : CursorFits texts)
    (first : Nat) :
    readLines columns (layOut columns first texts).2 first
        (texts.map fun text => slice columns text.cells) =
      texts := by
  induction texts generalizing first with
  | nil => rfl
  | cons text others inductionHypothesis =>
      obtain ⟨cells, cursor⟩ := text
      obtain ⟨here, othersFit⟩ := fits
      have rest := inductionHypothesis othersFit (first + (slice columns cells).length)
      have cellsEq :=
        take_lineLength_slice columnsPositive fun place member => (here place member).1
      rw [List.map_cons, readLines]
      cases cursor with
      | none =>
          -- the cursor, if there is one, is in a later line
          have below :
              cursorOffset? columns first (slice columns cells)
                  (layOut columns (first + (slice columns cells).length) others).2 =
                none := by
            cases found : (layOut columns (first + (slice columns cells).length) others).2 with
            | none => rfl
            | some position =>
                have lower := le_of_mem_layOut_cursor found
                exact cursorOffset?_of_not_mem (by omega)
          rw [layOut_cursor_of_none rfl, below, rest, cellsEq]
      | some offset =>
          obtain ⟨inside, alone⟩ := here offset rfl
          rw [layOut_without_cursor alone] at rest
          have rowInside := (place_spec columnsPositive inside).2.1
          rw [← length_slice] at rowInside
          rw [layOut_cursor_of_some rfl, cursorOffset?_place columnsPositive inside, cellsEq,
            readLines_of_lt (Nat.add_lt_add_left rowInside first), rest]

/-! ## Several reflows -/

/-- Rows that are cut at one width and then at another are what cutting them at
the last width gives, with all their stamps and with the place of the cursor,
the column after the last one included; in particular, cutting them again at
the same width changes nothing. -/
theorem rewrap_rewrap
    {middle : Nat} {rows : List Row} {cursor : Option (Nat × Nat)}
    (middlePositive : 0 < middle)
    (width : ∀ row ∈ rows, row.cells.length = oldColumns)
    (inside : ∀ place ∈ cursor, place.1 ≤ oldColumns) :
    let once := rewrap rows oldColumns middle cursor
    (∀ columns, rewrap once.1 middle columns once.2 = rewrap rows oldColumns columns cursor) ∧
      rewrap once.1 middle middle once.2 = once := by
  intro once
  have linesWidth : ∀ row ∈ (lines rows).flatten, row.cells.length = oldColumns := by
    rwa [flatten_lines]
  let texts := readLines oldColumns cursor 0 (lines rows)
  have fits : CursorFits texts := cursorFits_readLines linesWidth inside
  have onceEq : once = layOut middle 0 texts := rewrapFrom_eq_layOut _ _ _ _ _ _
  have again : ∀ columns,
      rewrap once.1 middle columns once.2 = rewrap rows oldColumns columns cursor := by
    intro columns
    calc
      rewrap once.1 middle columns once.2 =
          layOut columns 0 (readLines middle once.2 0 (lines once.1)) :=
        rewrapFrom_eq_layOut _ _ _ _ _ _
      _ = layOut columns 0 texts := by
        rw [onceEq, lines_layOut, readLines_layOut middlePositive fits]
      _ = rewrap rows oldColumns columns cursor := (rewrapFrom_eq_layOut _ _ _ _ _ _).symm
  exact ⟨again, again middle⟩

/-- A long line with a stale stamp and blanks at its end, cut at two columns and
then at four; the cursor is after its last column all the way. -/
theorem rewrap_rewrap_blank_tail :
    let cells := fun text : String => text.toList.map fun char => ({ char } : Cell)
    let rows : List Row :=
      [⟨cells "abc", ⟨0, 9, true⟩⟩, ⟨cells "   ", ⟨5, 0, true⟩⟩, ⟨cells "  d", ⟨0, 1, false⟩⟩]
    let once := rewrap rows 3 2 (some (3, 1))
    (∀ row ∈ rows, row.cells.length = 3) ∧ once.2 = some (2, 2) ∧
      rewrap once.1 2 4 once.2 = rewrap rows 3 4 (some (3, 1)) ∧
      (rewrap rows 3 4 (some (3, 1))).2 = some (2, 1) ∧
      rewrap once.1 2 2 once.2 = once := by
  intro cells rows once
  have width : ∀ row ∈ rows, row.cells.length = 3 := by decide
  have inside : ∀ place ∈ some (3, 1), place.1 ≤ 3 := by decide
  obtain ⟨again, same⟩ := rewrap_rewrap Nat.two_pos width inside
  exact ⟨width, by decide, again 4, by decide, same⟩

end VideoTerminal.Reflow
