import VideoTerminal.Proofs.Figures
import VideoTerminal.Proofs.Layout

/-!
The logical lines of the main screen: what applications wrote, however it is
broken into rows. Reflow keeps all of them. A new size keeps what is not
farther below the cursor than the new screen reaches.
-/

namespace VideoTerminal

namespace Reflow

/-! ## Logical lines and their content -/

/-- The cells of a logical line up to the last one that is not blank. -/
def content (line : List Row) : List Cell :=
  Text.trimEnd Cell.isBlank (joined line)

/-- The contents of the logical lines of some rows, but for empty ones at the
end. -/
def logicalLines (rows : List Row) : List (List Cell) :=
  Text.trimEnd List.isEmpty ((lines rows).map content)

/-- A line and a row after it, which continues it or is a line of its own. -/
def followedBy (line : List Row) (row : Row) : List (List Row) :=
  if row.wrap.continues then [line ++ [row]] else [line, [row]]

theorem followedBy_cons
    {line after : List Row} {row : Row} {more : List (List Row)}
    (whole : followedBy line row = after :: more)
    (first : Row) :
    followedBy (first :: line) row = (first :: after) :: more := by
  unfold followedBy at whole ⊢
  by_cases continues : row.wrap.continues = true
  · rw [if_pos continues] at whole ⊢
    obtain ⟨rfl, rfl⟩ := List.cons.inj whole
    rfl
  · rw [if_neg continues] at whole ⊢
    obtain ⟨rfl, rfl⟩ := List.cons.inj whole
    rfl

/-- A row after others changes no line of theirs but the last. -/
theorem lines_concat
    {rows : List Row}
    (someRows : rows ≠ [])
    (row : Row) :
    ∃ before last,
      lines rows = before ++ [last] ∧
        lines (rows ++ [row]) = before ++ followedBy last row := by
  induction rows with
  | nil => exact absurd rfl someRows
  | cons first rest inductionHypothesis =>
      cases rest with
      | nil => exact ⟨[], [first], rfl, rfl⟩
      | cons next others =>
          obtain ⟨before, last, restLines, restMore⟩ := inductionHypothesis (by simp)
          obtain ⟨line, more, sameLines, allLines⟩ := lines_cons_cons first next others
          obtain ⟨lineAfter, moreAfter, sameAfter, allAfter⟩ :=
            lines_cons_cons first next (others ++ [row])
          rw [List.cons_append, sameAfter] at restMore
          rw [sameLines] at restLines
          rw [List.cons_append, List.cons_append, allLines, allAfter]
          by_cases joins : next.wrap.continues = true
          · rw [if_pos joins, if_pos joins]
            -- the first line may be the last one too
            cases before with
            | nil =>
                obtain ⟨rfl, rfl⟩ := List.cons.inj restLines
                exact ⟨[], first :: line, rfl, (followedBy_cons restMore.symm first).symm⟩
            | cons initial between =>
                obtain ⟨rfl, rfl⟩ := List.cons.inj restLines
                obtain ⟨rfl, rfl⟩ := List.cons.inj restMore
                exact ⟨(first :: lineAfter) :: between, last, rfl, rfl⟩
          · rw [if_neg joins, if_neg joins, restLines, restMore]
            exact ⟨[first] :: before, last, rfl, rfl⟩

/-- Blank cells at the end of a line are not content. -/
theorem content_concat_of_isEmpty
    {row : Row}
    (empty : row.isEmpty = true)
    (line : List Row) :
    content (line ++ [row]) = content line := by
  have cellsEq : joined (line ++ [row]) = joined line ++ row.cells := by
    simp [joined]
  rw [content, cellsEq]
  exact Text.trimEnd_append_of_all _ (List.all_eq_true.mp empty)

theorem logicalLines_concat_of_isEmpty
    {row : Row}
    (empty : row.isEmpty = true)
    (rows : List Row) :
    logicalLines (rows ++ [row]) = logicalLines rows := by
  have alone : content [row] = [] := content_concat_of_isEmpty empty []
  by_cases someRows : rows = []
  · subst someRows
    show Text.trimEnd List.isEmpty [content [row]] = []
    rw [alone]
    rfl
  · obtain ⟨before, last, rowsLines, allLines⟩ := lines_concat someRows row
    rw [logicalLines, logicalLines, rowsLines, allLines, followedBy]
    split
    · -- the row continues the last line
      rw [List.map_append, List.map_append, List.map_singleton, List.map_singleton,
        content_concat_of_isEmpty empty]
    · -- the row is an empty line at the end
      have oneMore :
          (before ++ [last, [row]]).map content = (before ++ [last]).map content ++ [[]] := by
        simp [alone]
      rw [oneMore]
      exact Text.trimEnd_append_of_all _ (by simp)

/-- Rows without content below others add nothing to the logical lines. -/
theorem logicalLines_append_of_isEmpty
    (rows : List Row) {more : List Row}
    (empty : ∀ row ∈ more, row.isEmpty = true) :
    logicalLines (rows ++ more) = logicalLines rows := by
  induction more generalizing rows with
  | nil => rw [List.append_nil]
  | cons row rest inductionHypothesis =>
      have regrouped : rows ++ row :: rest = rows ++ [row] ++ rest := by simp
      rw [regrouped, inductionHypothesis _ fun each member =>
          empty each (List.mem_cons_of_mem _ member)]
      exact logicalLines_concat_of_isEmpty (empty row List.mem_cons_self) rows

theorem logicalLines_take_append_of_isEmpty
    (rows : List Row) {more : List Row}
    (empty : ∀ row ∈ more, row.isEmpty = true)
    (count : Nat) :
    logicalLines ((rows ++ more).take count) = logicalLines (rows.take count) := by
  rw [List.take_append]
  exact logicalLines_append_of_isEmpty _ fun row member =>
    empty row (List.mem_of_mem_take member)

/-! ## Reflow keeps the logical lines -/

variable {columns : Nat}

/-- The rows cut from a line hold all of its content. -/
theorem content_rewrapLine
    (columnsPositive : 0 < columns)
    (oldColumns start : Nat) (cursor : Option (Nat × Nat)) (line : List Row) :
    content (rewrapLine oldColumns columns start cursor line) = content line := by
  have reaches :
      (Text.trimEnd Cell.isBlank (joined line)).length ≤
        lineLength line (cursorOffset? oldColumns start line cursor) := by
    have fits : (Text.trimEnd Cell.isBlank (joined line)).length ≤ (joined line).length :=
      Text.length_trimEnd_le
    unfold lineLength
    dsimp only
    omega
  rw [rewrapLine, content, trimEnd_joined_slice columnsPositive, Text.trimEnd_take reaches,
    content]

/-- The rows cut from lines begin with one that continues none. -/
theorem head?_rewrapFrom
    {oldColumns start first : Nat} {cursor : Option (Nat × Nat)}
    {groups : List (List Row)} {next : Row}
    (found : next ∈ (rewrapFrom oldColumns columns cursor start first groups).1.head?) :
    next.wrap.continues = false := by
  cases groups with
  | nil => exact nomatch found
  | cons line others =>
      rw [rewrapFrom_cons, rewrapLine, slice_eq_stampedRows] at found
      exact head?_stampedRows_append (fun _ => rfl) found

theorem map_content_lines_rewrapFrom
    (columnsPositive : 0 < columns)
    (oldColumns start first : Nat) (cursor : Option (Nat × Nat)) (groups : List (List Row)) :
    (lines (rewrapFrom oldColumns columns cursor start first groups).1).map content =
      groups.map content := by
  induction groups generalizing start first with
  | nil => rfl
  | cons line others inductionHypothesis =>
      have parted :
          lines (rewrapFrom oldColumns columns cursor start first (line :: others)).1 =
            rewrapLine oldColumns columns start cursor line ::
              lines
                (rewrapFrom oldColumns columns cursor (start + line.length)
                  (first + (rewrapLine oldColumns columns start cursor line).length)
                  others).1 := by
        rw [rewrapFrom_cons]
        exact lines_stampedRows_append (fun _ => rfl) fun _ => head?_rewrapFrom
      rw [parted, List.map_cons, List.map_cons, content_rewrapLine columnsPositive,
        inductionHypothesis]

theorem logicalLines_rewrap
    (columnsPositive : 0 < columns)
    (rows : List Row) (oldColumns : Nat) (cursor : Option (Nat × Nat)) :
    logicalLines (rewrap rows oldColumns columns cursor).1 = logicalLines rows := by
  rw [logicalLines, rewrap, map_content_lines_rewrapFrom columnsPositive]
  rfl

/-! ## What is lost with rows that are cut off -/

/-- The cells of some rows that are not blank, in their order. -/
def written (rows : List Row) : List Cell :=
  (joined rows).filter fun cell => !cell.isBlank

theorem joined_flatten (groups : List (List Row)) :
    joined groups.flatten = (groups.map joined).flatten := by
  induction groups with
  | nil => rfl
  | cons line rest inductionHypothesis =>
      rw [List.flatten_cons, List.map_cons, List.flatten_cons, ← inductionHypothesis]
      exact List.flatMap_append

theorem written_append (rows more : List Row) :
    written (rows ++ more) = written rows ++ written more := by
  simp [written, joined]

theorem written_eq_nil_iff (rows : List Row) :
    written rows = [] ↔ ∀ row ∈ rows, row.isEmpty = true := by
  constructor
  · intro nothing row member
    apply List.all_eq_true.mpr
    intro cell here
    have notKept := List.filter_eq_nil_iff.mp nothing cell (List.mem_flatMap_of_mem member here)
    simpa using notKept
  · intro empty
    apply List.filter_eq_nil_iff.mpr
    intro cell member
    obtain ⟨row, rowMember, here⟩ := List.mem_flatMap.mp member
    simp [List.all_eq_true.mp (empty row rowMember) cell here]

/-- The logical lines tell all that was written. -/
theorem filter_flatten_logicalLines (rows : List Row) :
    (logicalLines rows).flatten.filter (fun cell => !cell.isBlank) = written rows := by
  obtain ⟨dropped, whole, allDropped⟩ :=
    Text.exists_trimEnd_append List.isEmpty ((lines rows).map content)
  have nothing : dropped.flatten = [] := by
    rw [List.flatten_eq_nil_iff]
    intro line member
    exact List.isEmpty_iff.mp (allDropped line member)
  have sameContent :
      ((lines rows).map content).flatten.filter (fun cell => !cell.isBlank) =
        ((lines rows).map joined).flatten.filter fun cell => !cell.isBlank := by
    rw [List.filter_flatten, List.filter_flatten, List.map_map, List.map_map]
    congr 1
    apply List.map_congr_left
    intro line _
    exact Text.filter_trimEnd Cell.isBlank (joined line)
  have sameCells : ((lines rows).map joined).flatten = joined rows := by
    rw [← joined_flatten, flatten_lines]
  calc
    (logicalLines rows).flatten.filter (fun cell => !cell.isBlank) =
        ((lines rows).map content).flatten.filter fun cell => !cell.isBlank := by
      conv_rhs => rw [← whole, List.flatten_append, nothing, List.append_nil]
      rfl
    _ = written rows := by rw [sameContent, sameCells, written]

/-- The logical lines stay the same only when the rows that are cut off hold no
content. -/
theorem logicalLines_take_eq_iff (rows : List Row) (count : Nat) :
    logicalLines (rows.take count) = logicalLines rows ↔
      ∀ row ∈ rows.drop count, row.isEmpty = true := by
  constructor
  · intro same
    have sameWritten : written (rows.take count) = written rows := by
      rw [← filter_flatten_logicalLines, ← filter_flatten_logicalLines, same]
    have parted : written rows = written (rows.take count) ++ written (rows.drop count) := by
      rw [← written_append, List.take_append_drop]
    rw [parted] at sameWritten
    exact (written_eq_nil_iff _).mp (List.self_eq_append_right.mp sameWritten)
  · intro empty
    conv_rhs => rw [← List.take_append_drop count rows]
    exact (logicalLines_append_of_isEmpty _ empty).symm

end Reflow

/-! ## A new size -/

namespace ScreenBuffer

/-- The logical lines of the main screen and its history. -/
def logicalLines (buffer : ScreenBuffer) : List (List Cell) :=
  Reflow.logicalLines buffer.ring.toList

/-- Fitting rows to a screen loses no content but below the screen. -/
theorem logicalLines_fitRows (rows : List Row) (anchor lines columns : Nat) :
    Reflow.logicalLines (fitRows rows anchor lines columns) =
      Reflow.logicalLines (rows.take (anchor + lines)) := by
  obtain ⟨dropped, whole, allDropped⟩ :=
    Text.exists_trimEnd_append Row.isBlank (rows.drop (anchor + 1))
  have droppedEmpty : ∀ row ∈ dropped, row.isEmpty = true := by
    intro row member
    exact Reflow.isEmpty_of_isBlank (allDropped row member)
  have filledEmpty :
      ∀ count, ∀ row ∈ List.replicate count (Row.filled columns {}), row.isEmpty = true := by
    intro count row member
    rw [List.eq_of_mem_replicate member]
    exact Reflow.isEmpty_of_isBlank (Reflow.isBlank_filled columns)
  have rowsEq :
      rows.take (anchor + 1) ++ Text.trimEnd Row.isBlank (rows.drop (anchor + 1)) ++ dropped =
        rows := by
    rw [List.append_assoc, whole, List.take_append_drop]
  unfold fitRows
  dsimp only
  conv_rhs => rw [← rowsEq]
  rw [Reflow.logicalLines_take_append_of_isEmpty _ (filledEmpty _),
    Reflow.logicalLines_take_append_of_isEmpty _ droppedEmpty]

/-- No more rows than there were, or than the screen needs. -/
theorem length_fitRows_le_max (rows : List Row) (anchor lines columns : Nat) :
    (fitRows rows anchor lines columns).length ≤ max rows.length lines := by
  have trimmed :
      (Text.trimEnd Row.isBlank (rows.drop (anchor + 1))).length ≤
        (rows.drop (anchor + 1)).length := Text.length_trimEnd_le
  rw [List.length_drop] at trimmed
  simp only [fitRows, List.length_take, List.length_append, List.length_replicate]
  omega

variable {lines columns limit newLines newColumns : Nat} {buffer : ScreenBuffer}

theorem logicalLines_rewrapped
    (newColumnsPositive : 0 < newColumns)
    (buffer : ScreenBuffer) (cursor : Option (Nat × Nat)) :
    Reflow.logicalLines (buffer.rewrapped newColumns cursor).1 = buffer.logicalLines := by
  unfold rewrapped
  split
  · rfl
  · exact Reflow.logicalLines_rewrap newColumnsPositive _ _ _

/-- While the ring has room for the rewrapped rows, only those below the
screen of the cursor are lost. -/
theorem logicalLines_resize
    {cursor : Option (Nat × Nat)} {rows : List Row} {x y : Nat}
    (limitEq : buffer.historyLimit = limit)
    (rewrapped : buffer.rewrapped newColumns cursor = (rows, some (x, y)))
    (room : rows.length ≤ limit + newLines) :
    (buffer.resize newLines newColumns cursor).1.logicalLines =
      Reflow.logicalLines (rows.take (y + newLines)) := by
  have fittedEq :
      buffer.fitted newLines newColumns cursor = fitRows rows y newLines newColumns := by
    rw [fitted, rewrapped]
    rfl
  have noneEvicted : buffer.evictedBy newLines newColumns cursor = 0 := by
    have atMost := length_fitRows_le_max rows y newLines newColumns
    rw [evictedBy, fittedEq, limitEq]
    omega
  rw [logicalLines, ring_resize, noneEvicted, fittedEq, List.drop_zero, Ring.toList_ofList,
    logicalLines_fitRows]

end ScreenBuffer

namespace Console

variable {limit newLines newColumns : Nat} {console : Console} {resized : Terminal}

/-- A new size of the main screen, when the rows that the ring may hold at it can
be counted and it has room for the rewrapped rows: it loses only what is a screen
or more below the cursor, so that it keeps the logical lines exactly when there
is no content as far down as that. -/
theorem logicalLines_resizedInWords_eq_iff
    (reachable : console.Reachable limit)
    (main : console.terminal.onAlternate = false)
    (accepted : console.terminal.resize? newLines newColumns = some resized)
    (countable : limit + newLines < Text.wordSize)
    (room :
      (console.terminal.buffer.rewrapped newColumns
        (some (console.terminal.cursor.x, console.terminal.cursor.y))).1.length ≤
          limit + newLines) :
    console.receiveInWords (.request (.resize newLines newColumns)) =
        .ok { console with terminal := resized } ∧
      ∃ rows x y,
        console.terminal.buffer.rewrapped newColumns
            (some (console.terminal.cursor.x, console.terminal.cursor.y)) =
            (rows, some (x, y)) ∧
          y < rows.length ∧
          resized.buffer.logicalLines = Reflow.logicalLines (rows.take (y + newLines)) ∧
          (resized.buffer.logicalLines = console.terminal.buffer.logicalLines ↔
            ∀ row ∈ rows.drop (y + newLines), row.isEmpty = true) := by
  have wellFormed := reachable.wellFormed
  obtain ⟨-, newColumnsPositive, bufferEq, -⟩ := Terminal.resize?_of_main main accepted
  obtain ⟨x, y, found, -, inside⟩ :=
    ScreenBuffer.rewrapped_cursor wellFormed.shaped newColumnsPositive
      wellFormed.cursor_column wellFormed.cursor_row
  have sameLines :=
    ScreenBuffer.logicalLines_rewrapped newColumnsPositive console.terminal.buffer
      (some (console.terminal.cursor.x, console.terminal.cursor.y))
  generalize rewrappedEq :
    console.terminal.buffer.rewrapped newColumns
      (some (console.terminal.cursor.x, console.terminal.cursor.y)) = rewrapped at *
  obtain ⟨rows, moved⟩ := rewrapped
  dsimp only at found inside sameLines room
  subst found
  have kept :
      resized.buffer.logicalLines = Reflow.logicalLines (rows.take (y + newLines)) := by
    rw [bufferEq]
    exact ScreenBuffer.logicalLines_resize wellFormed.shaped.limit_eq rewrappedEq room
  refine ⟨receiveInWords_resize wellFormed accepted countable, rows, x, y, rfl, inside, kept, ?_⟩
  rw [kept, ← sameLines]
  exact Reflow.logicalLines_take_eq_iff rows (y + newLines)

/-- A long line with the cursor at its end, cut into rows of other columns. -/
theorem logicalLines_resizedInWords_eq_iff_long_line :
    let console := (blank 2 4 3).run [.text "ab\r\ncdefg".toList]
    let columns := 2
    ∃ resized,
      console.Reachable 3 ∧
        console.terminal.onAlternate = false ∧
        console.terminal.resize? 1 columns = some resized ∧
        3 + 1 < Text.wordSize ∧
        (console.terminal.buffer.rewrapped columns
          (some (console.terminal.cursor.x, console.terminal.cursor.y))).1.length ≤ 3 + 1 ∧
        console.receiveInWords (.request (.resize 1 columns)) =
          .ok { console with terminal := resized } ∧
        ∃ rows x y,
          console.terminal.buffer.rewrapped columns
              (some (console.terminal.cursor.x, console.terminal.cursor.y)) =
              (rows, some (x, y)) ∧
            y < rows.length ∧
            resized.buffer.logicalLines = Reflow.logicalLines (rows.take (y + 1)) ∧
            (resized.buffer.logicalLines = console.terminal.buffer.logicalLines ↔
              ∀ row ∈ rows.drop (y + 1), row.isEmpty = true) := by
  intro console columns
  have reachable : console.Reachable 3 := ⟨2, 4, _, by decide, by decide, rfl⟩
  have main : console.terminal.onAlternate = false := by decide
  have countable : 3 + 1 < Text.wordSize := by decide
  have room :
      (console.terminal.buffer.rewrapped columns
        (some (console.terminal.cursor.x, console.terminal.cursor.y))).1.length ≤ 3 + 1 := by
    decide
  exact ⟨_, reachable, main, rfl, countable, room,
    logicalLines_resizedInWords_eq_iff reachable main rfl countable room⟩

/-- A line below the cursor is lost when the new screen does not reach it. -/
theorem logicalLines_resized_ne_cursor_above :
    let console := (blank 2 5 10).run [.text "a\r\nb\x1b[H".toList]
    ∃ resized,
      console.Reachable 10 ∧
        console.terminal.onAlternate = false ∧
        console.terminal.resize? 1 5 = some resized ∧
        (console.terminal.buffer.rewrapped 5
          (some (console.terminal.cursor.x, console.terminal.cursor.y))).1.length ≤ 10 + 1 ∧
        resized.buffer.logicalLines ≠ console.terminal.buffer.logicalLines := by
  intro console
  have reachable : console.Reachable 10 := ⟨2, 5, _, by decide, by decide, rfl⟩
  exact ⟨_, reachable, by decide, rfl, by decide, by decide⟩

end Console

end VideoTerminal
