import VideoTerminal.Proofs.Isolation
import VideoTerminal.Proofs.ScreenRows

/-!
The stamps of logical lines among the composed rows. A line is a longest run of
rows of which each but the first continues the one above it. Completing a line
stamps its rows with their places in it, whatever they said before; beginning a
line parts it from the one above, which then ends with its last row that has
been written to. The rows of all other lines stay as they are.
-/

namespace VideoTerminal

namespace ScreenBuffer

variable {lines columns limit first last : Nat} {buffer other : ScreenBuffer}

/-! ## Lines -/

/-- The composed rows from `first` to `last` are a logical line. The first of
all composed rows begins a line whatever it says. -/
structure IsLine (buffer : ScreenBuffer) (first last : Nat) : Prop where
  ordered : first ≤ last
  inside : last < buffer.composedSize
  begins : first = 0 ∨ (buffer.composedRow first).wrap.continues = false
  joined : ∀ row, first < row → row ≤ last → (buffer.composedRow row).wrap.continues = true
  ends :
    last + 1 < buffer.composedSize → (buffer.composedRow (last + 1)).wrap.continues = false

namespace IsLine

variable {otherFirst otherLast : Nat}

/-- A line that begins in another one begins where that does. -/
theorem first_le
    (line : buffer.IsLine first last)
    (otherLine : buffer.IsLine otherFirst otherLast)
    (reached : first ≤ otherLast) :
    first ≤ otherFirst := by
  by_contra later
  have continues := otherLine.joined first (by omega) reached
  rcases line.begins with zero | begins
  · omega
  · exact Bool.noConfusion (begins.symm.trans continues)

theorem last_le
    (line : buffer.IsLine first last)
    (otherLine : buffer.IsLine otherFirst otherLast)
    (reached : first ≤ otherLast) :
    last ≤ otherLast := by
  by_contra later
  have inside := line.inside
  have continues := line.joined (otherLast + 1) (by omega) (by omega)
  exact Bool.noConfusion ((otherLine.ends (by omega)).symm.trans continues)

/-- A row is in one line only. -/
theorem unique
    {index : Nat}
    (line : buffer.IsLine first last)
    (otherLine : buffer.IsLine otherFirst otherLast)
    (here : first ≤ index ∧ index ≤ last)
    (there : otherFirst ≤ index ∧ index ≤ otherLast) :
    first = otherFirst ∧ last = otherLast := by
  have reached : first ≤ otherLast := Nat.le_trans here.1 there.2
  have otherReached : otherFirst ≤ last := Nat.le_trans there.1 here.2
  exact
    ⟨Nat.le_antisymm (line.first_le otherLine reached) (otherLine.first_le line otherReached),
      Nat.le_antisymm (line.last_le otherLine reached) (otherLine.last_le line otherReached)⟩

/-- The rows after the first one of a line are those that continue a row above
them. -/
theorem lt_iff
    {index : Nat}
    (line : buffer.IsLine first last)
    (here : first ≤ index ∧ index ≤ last) :
    first < index ↔ (buffer.composedRow index).wrap.continues = true ∧ index > 0 := by
  constructor
  · intro isAfter
    exact ⟨line.joined index isAfter here.2, Nat.zero_lt_of_lt isAfter⟩
  · rintro ⟨continues, positive⟩
    by_contra notAfter
    obtain rfl : first = index := by omega
    rcases line.begins with zero | begins
    · omega
    · exact Bool.noConfusion (begins.symm.trans continues)

/-- What the first of all rows says is of no matter to a line. -/
theorem congr
    (line : buffer.IsLine first last)
    (sizeEq : other.composedSize = buffer.composedSize)
    (same : ∀ row, 0 < row → row < buffer.composedSize →
      (other.composedRow row).wrap.continues = (buffer.composedRow row).wrap.continues) :
    other.IsLine first last where
  ordered := line.ordered
  inside := sizeEq ▸ line.inside
  begins := by
    rcases Nat.eq_zero_or_pos first with zero | positive
    · exact Or.inl zero
    · rw [same first positive (Nat.lt_of_le_of_lt line.ordered line.inside)]
      exact line.begins
  joined := by
    intro row isAfter upTo
    rw [same row (by omega) (Nat.lt_of_le_of_lt upTo line.inside)]
    exact line.joined row isAfter upTo
  ends := by
    rw [sizeEq]
    intro below
    rw [same (last + 1) (Nat.succ_pos last) below]
    exact line.ends below

/-- A row that no longer continues its line parts the line in two. -/
theorem part
    {index : Nat}
    (line : buffer.IsLine first last)
    (isAfter : first < index)
    (upTo : index ≤ last)
    (sizeEq : other.composedSize = buffer.composedSize)
    (parted : (other.composedRow index).wrap.continues = false)
    (same : ∀ row, row ≠ index → row < buffer.composedSize →
      (other.composedRow row).wrap.continues = (buffer.composedRow row).wrap.continues) :
    other.IsLine first (index - 1) ∧ other.IsLine index last := by
  have inside := line.inside
  have next : index - 1 + 1 = index := by omega
  constructor
  · refine ⟨by omega, by omega, ?_, ?_, ?_⟩
    · rw [same first (by omega) (by omega)]
      exact line.begins
    · intro row rowAfter rowUpTo
      rw [same row (by omega) (by omega)]
      exact line.joined row rowAfter (by omega)
    · rw [next]
      exact fun _ => parted
  · refine ⟨upTo, by omega, Or.inr parted, ?_, ?_⟩
    · intro row rowAfter rowUpTo
      rw [same row (by omega) (by omega)]
      exact line.joined row (by omega) rowUpTo
    · rw [sizeEq]
      intro below
      rw [same (last + 1) (by omega) below]
      exact line.ends below

end IsLine

theorem lineStart_spec (buffer : ScreenBuffer) (index : Nat) :
    (buffer.lineStart index = 0 ∨
        (buffer.composedRow (buffer.lineStart index)).wrap.continues = false) ∧
      ∀ row, buffer.lineStart index < row → row ≤ index →
        (buffer.composedRow row).wrap.continues = true := by
  induction index with
  | zero => exact ⟨Or.inl rfl, fun row positive zero => absurd zero (by omega)⟩
  | succ index inductionHypothesis =>
      unfold lineStart
      split
      · next continues =>
          refine ⟨inductionHypothesis.1, fun row isAfter upTo => ?_⟩
          rcases Nat.eq_or_lt_of_le upTo with rfl | before
          · exact continues
          · exact inductionHypothesis.2 row isAfter (Nat.le_of_lt_succ before)
      · next begins =>
          exact ⟨Or.inr (eq_false_of_ne_true begins), fun row isAfter upTo => by omega⟩

theorem lineEndWithin_spec (buffer : ScreenBuffer) (index remaining : Nat) :
    (∀ row, index < row → row ≤ buffer.lineEndWithin index remaining →
        (buffer.composedRow row).wrap.continues = true) ∧
      (buffer.lineEndWithin index remaining < index + remaining →
        (buffer.composedRow (buffer.lineEndWithin index remaining + 1)).wrap.continues =
          false) := by
  induction remaining generalizing index with
  | zero => exact ⟨fun row isAfter upTo => absurd upTo (Nat.not_le.mpr isAfter), fun short =>
      absurd short (Nat.lt_irrefl index)⟩
  | succ remaining inductionHypothesis =>
      unfold lineEndWithin
      split
      · next continues =>
          obtain ⟨joined, ends⟩ := inductionHypothesis (index + 1)
          refine ⟨fun row isAfter upTo => ?_, fun short => ends (by omega)⟩
          rcases Nat.eq_or_lt_of_le (Nat.succ_le_of_lt isAfter) with rfl | later
          · exact continues
          · exact joined row later upTo
      · next ends =>
          exact ⟨fun row isAfter upTo => absurd upTo (Nat.not_le.mpr isAfter), fun _ =>
            eq_false_of_ne_true ends⟩

/-- Every row is in a line, which is the one that is looked for from it. -/
theorem isLine_lineStart_lineEnd
    {index : Nat}
    (inside : index < buffer.composedSize) :
    buffer.IsLine (buffer.lineStart index) (buffer.lineEnd index) := by
  have startLe := buffer.lineStart_le index
  have endBounds := lineEnd_bounds inside
  obtain ⟨begins, above⟩ := buffer.lineStart_spec index
  obtain ⟨below, ends⟩ :=
    buffer.lineEndWithin_spec index (buffer.composedSize - (index + 1))
  refine ⟨by omega, endBounds.2, begins, ?_, fun more => ends ?_⟩
  · intro row isAfter upTo
    rcases Nat.lt_or_ge index row with later | notLater
    · exact below row later upTo
    · exact above row isAfter notLater
  · rw [lineEnd] at more
    omega

theorem IsLine.lineStart_lineEnd_eq
    {index : Nat}
    (line : buffer.IsLine first last)
    (here : first ≤ index ∧ index ≤ last) :
    buffer.lineStart index = first ∧ buffer.lineEnd index = last := by
  have inside : index < buffer.composedSize := Nat.lt_of_le_of_lt here.2 line.inside
  have around : buffer.lineStart index ≤ index ∧ index ≤ buffer.lineEnd index :=
    ⟨buffer.lineStart_le index, (lineEnd_bounds inside).1⟩
  exact (isLine_lineStart_lineEnd inside).unique line around here

/-! ## The rows that a loop changes -/

theorem Shaped.composedRow_modifyComposed
    (shaped : buffer.Shaped lines columns limit)
    (change : Row → Row)
    {index row : Nat}
    (inside : index < buffer.composedSize)
    (rowInside : row < buffer.composedSize)
    (keeps : ∀ row : Row, (change row).cells.length = row.cells.length) :
    (buffer.modifyComposed index change).composedRow row =
      if row = index then change (buffer.composedRow row) else buffer.composedRow row := by
  have after := shaped.modifyComposed index fun row width => (keeps row).trans width
  have rowFound : row < buffer.rowLists.shown.length := by
    rwa [shaped.length_shown]
  rw [shaped.composedRow_of_modifyShown after (shaped.rowLists_modifyComposed inside change)
      (List.length_modify _ _ _) rowInside, shaped.composedRow_eq rowInside, List.getElem?_modify,
    List.getElem?_eq_getElem rowFound]
  by_cases here : row = index
  · rw [if_pos here]
    simp [here]
  · rw [if_neg here]
    simp [Ne.symm here]

/-- Consecutive rows are changed one by one, and no others. -/
theorem Shaped.composedRow_foldl_modifyComposed
    (shaped : buffer.Shaped lines columns limit)
    {count row : Nat} {change : Nat → Row → Row}
    (inside : first + count ≤ buffer.composedSize)
    (rowInside : row < buffer.composedSize)
    (keeps : ∀ k row, (change k row).cells.length = row.cells.length) :
    ((List.range count).foldl
        (fun current k => current.modifyComposed (first + k) (change k)) buffer).composedRow row =
      if first ≤ row ∧ row < first + count then
        change (row - first) (buffer.composedRow row)
      else buffer.composedRow row := by
  induction count with
  | zero =>
      rw [if_neg (by omega)]
      rfl
  | succ count inductionHypothesis =>
      have shapedBefore :
          ((List.range count).foldl
            (fun current k => current.modifyComposed (first + k) (change k)) buffer).Shaped
              lines columns limit :=
        Shaped.foldl
          (fun _ k current => current.modifyComposed _ fun row width => (keeps k row).trans width)
          shaped
      have sizeBefore :
          ((List.range count).foldl
            (fun current k => current.modifyComposed (first + k) (change k)) buffer).composedSize =
              buffer.composedSize :=
        composedSize_foldl (fun _ _ => composedSize_modifyComposed _ _ _) _ _
      rw [List.range_succ, List.foldl_append, List.foldl_cons, List.foldl_nil,
        shapedBefore.composedRow_modifyComposed _ (by omega) (by omega) (keeps count),
        inductionHypothesis (by omega)]
      by_cases here : row = first + count
      · subst here
        rw [if_pos rfl, if_neg (by omega), if_pos (by omega), Nat.add_sub_cancel_left]
      · rw [if_neg here]
        by_cases before : first ≤ row ∧ row < first + count
        · rw [if_pos before, if_pos (by omega)]
        · rw [if_neg before, if_neg (by omega)]

/-! ## Stamps -/

/-- The length stamped on a line of which `before` rows precede the one with
column `x`, and `following` rows follow the first one. -/
def stampLength (columns stated before following x : Nat) : Nat :=
  let reached := max stated (before * columns + x)
  let reaching := if following > 0 then max reached (following * columns + 1) else reached
  min reaching ((following + 1) * columns)

theorem stampLength_bounds
    {before following x : Nat}
    (columnsPositive : 0 < columns)
    (rowInside : before ≤ following)
    (columnInside : x ≤ columns)
    (stated : Nat) :
    let length := stampLength columns stated before following x
    before * columns + x ≤ length ∧ (0 < following → following * columns < length) ∧
      length ≤ (following + 1) * columns := by
  intro length
  have rowsBefore : before * columns ≤ following * columns := Nat.mul_le_mul_right _ rowInside
  have next : (following + 1) * columns = following * columns + columns := by
    rw [Nat.add_mul, Nat.one_mul]
  dsimp only [length, stampLength]
  split <;> omega

/-- A line of which nothing is stated is as long as it must be. -/
theorem stampLength_zero
    {following x : Nat}
    (columnsPositive : 0 < columns)
    (columnInside : x ≤ columns) :
    stampLength columns 0 following following x =
      following * columns + if 0 < following then max x 1 else x := by
  have next : (following + 1) * columns = following * columns + columns := by
    rw [Nat.add_mul, Nat.one_mul]
  unfold stampLength
  dsimp only
  split <;> omega

/-- The rows of a line are stamped with their places in it: the line has
`length` cells and ends in its last row. -/
structure Stamped (buffer : ScreenBuffer) (first last length : Nat) : Prop where
  line : buffer.IsLine first last
  wrap_eq : ∀ k, first + k ≤ last →
    (buffer.composedRow (first + k)).wrap =
      ⟨last - first - k, length - k * buffer.columns, decide (0 < k)⟩
  reaches : first < last → (last - first) * buffer.columns < length
  fits : length ≤ (last - first + 1) * buffer.columns

/-- The rows of a stamped line need not be looked at when others change. -/
theorem Stamped.congr
    {length : Nat}
    (stamped : buffer.Stamped first last length)
    (columnsEq : other.columns = buffer.columns)
    (sizeEq : other.composedSize = buffer.composedSize)
    (same : ∀ row, row ≤ last → other.composedRow row = buffer.composedRow row)
    (ends : last + 1 < buffer.composedSize →
      (other.composedRow (last + 1)).wrap.continues = false) :
    other.Stamped first last length where
  line :=
    { ordered := stamped.line.ordered
      inside := sizeEq ▸ stamped.line.inside
      begins := by
        rw [same first stamped.line.ordered]
        exact stamped.line.begins
      joined := fun row isAfter upTo => by
        rw [same row upTo]
        exact stamped.line.joined row isAfter upTo
      ends := by rwa [sizeEq] }
  wrap_eq := fun k upTo => by
    rw [same _ upTo, columnsEq]
    exact stamped.wrap_eq k upTo
  reaches := columnsEq ▸ stamped.reaches
  fits := columnsEq ▸ stamped.fits

/-- Nothing changes but what is stamped on the composed rows from `first` to
`last`. -/
structure SameButStamps (buffer : ScreenBuffer) (first last : Nat) (other : ScreenBuffer) :
    Prop where
  cells : buffer.SameCells other
  hidden : buffer.SameHidden other
  outside : ∀ row, row < buffer.composedSize → ¬ (first ≤ row ∧ row ≤ last) →
    other.composedRow row = buffer.composedRow row

theorem SameCells.composedSize_eq (same : buffer.SameCells other) :
    other.composedSize = buffer.composedSize := by
  rw [composedSize, composedSize, same.onAlternate_eq, same.lines_eq, same.size_eq]

/-- The rows of a buffer after the line of a row has been stamped. -/
theorem composedRow_stamp
    (shaped : buffer.Shaped lines columns limit)
    (line : buffer.IsLine first last)
    {index : Nat}
    (here : first ≤ index ∧ index ≤ last)
    (x : Nat)
    {row : Nat}
    (rowInside : row < buffer.composedSize) :
    let length :=
      stampLength columns (buffer.composedRow first).wrap.length (index - first) (last - first) x
    (buffer.stamp index x).composedRow row =
      if first ≤ row ∧ row ≤ last then
        { buffer.composedRow row with
          wrap :=
            ⟨last - row, length - (row - first) * columns, decide (first < row)⟩ }
      else buffer.composedRow row := by
  intro length
  have inside := line.inside
  have ordered := line.ordered
  obtain ⟨startEq, endEq⟩ := line.lineStart_lineEnd_eq here
  have several : (last > first) = (last - first > 0) := propext (by omega)
  unfold stamp
  simp only [startEq, endEq, shaped.columns_eq, several]
  let change : Nat → Row → Row := fun k row =>
    { row with wrap := ⟨last - first - k, length - k * columns, k != 0⟩ }
  have changed :
      ((List.range (last + 1 - first)).foldl
          (fun current k => current.modifyComposed (first + k) (change k)) buffer).composedRow row =
        if first ≤ row ∧ row < first + (last + 1 - first) then
          change (row - first) (buffer.composedRow row)
        else buffer.composedRow row :=
    shaped.composedRow_foldl_modifyComposed (by omega) rowInside fun _ _ => rfl
  refine changed.trans ?_
  by_cases inLine : first ≤ row ∧ row ≤ last
  · rw [if_pos (by omega), if_pos inLine]
    have followingEq : last - first - (row - first) = last - row := by omega
    have continuesEq : (row - first != 0) = decide (first < row) := by
      rw [Bool.eq_iff_iff, bne_iff_ne, decide_eq_true_iff]
      omega
    simp only [change, followingEq, continuesEq]
  · rw [if_neg (by omega), if_neg inLine]

/-- No row but the first of all joins or leaves a line by a stamp. -/
theorem continues_stamp
    (shaped : buffer.Shaped lines columns limit)
    {index row : Nat}
    (inside : index < buffer.composedSize)
    (x : Nat)
    (positive : 0 < row)
    (rowInside : row < buffer.composedSize) :
    ((buffer.stamp index x).composedRow row).wrap.continues =
      (buffer.composedRow row).wrap.continues := by
  have line := isLine_lineStart_lineEnd inside
  have here : buffer.lineStart index ≤ index ∧ index ≤ buffer.lineEnd index :=
    ⟨buffer.lineStart_le index, (lineEnd_bounds inside).1⟩
  rw [composedRow_stamp shaped line here x rowInside]
  split
  · next inLine =>
      dsimp only
      by_cases isAfter : buffer.lineStart index < row
      · rw [line.joined row isAfter inLine.2, decide_eq_true isAfter]
      · have isFirst : buffer.lineStart index = row :=
          Nat.le_antisymm inLine.1 (Nat.le_of_not_lt isAfter)
        rw [← isFirst, line.begins.resolve_left (by omega), decide_eq_false (Nat.lt_irrefl _)]
  · rfl

theorem isLine_stamp
    (shaped : buffer.Shaped lines columns limit)
    (line : buffer.IsLine first last)
    {index : Nat}
    (inside : index < buffer.composedSize)
    (x : Nat) :
    (buffer.stamp index x).IsLine first last :=
  line.congr (composedSize_stamp _ _ _) fun _ => continues_stamp shaped inside x

/-- Stamping a line stamps its rows, and leaves all else as it is. -/
theorem stamped_stamp
    (shaped : buffer.Shaped lines columns limit)
    (line : buffer.IsLine first last)
    {index x : Nat}
    (here : first ≤ index ∧ index ≤ last)
    (columnInside : x ≤ columns) :
    let length :=
      stampLength columns (buffer.composedRow first).wrap.length (index - first) (last - first) x
    (buffer.stamp index x).Stamped first last length ∧
      buffer.SameButStamps first last (buffer.stamp index x) := by
  intro length
  have inside := line.inside
  have columnsEq : (buffer.stamp index x).columns = columns :=
    (SameCells.stamp buffer index x).columns_eq.trans shaped.columns_eq
  obtain ⟨-, reaches, fits⟩ :=
    stampLength_bounds shaped.columns_pos (show index - first ≤ last - first by omega) columnInside
      (buffer.composedRow first).wrap.length
  refine ⟨⟨?_, ?_, ?_, ?_⟩, SameCells.stamp _ _ _, SameHidden.stamp _ _ _, ?_⟩
  · exact isLine_stamp shaped line (by omega) x
  · intro k upTo
    rw [composedRow_stamp shaped line here x (by omega), if_pos (by omega), columnsEq,
      Nat.add_sub_cancel_left, Nat.sub_add_eq]
    simp only [Nat.lt_add_right_iff_pos]
    rfl
  · rw [columnsEq]
    exact fun more => reaches (by omega)
  · rw [columnsEq]
    exact fits
  · intro row rowInside outside
    rw [composedRow_stamp shaped line here x rowInside, if_neg outside]

namespace SameButStamps

variable {third : ScreenBuffer}

theorem trans
    (before : buffer.SameButStamps first last other)
    (after : other.SameButStamps first last third) :
    buffer.SameButStamps first last third where
  cells := before.cells.trans after.cells
  hidden := before.hidden.trans after.hidden
  outside := fun row rowInside out => by
    rw [after.outside row (before.cells.composedSize_eq.symm ▸ rowInside) out,
      before.outside row rowInside out]

theorem mono
    {fewerFirst fewerLast : Nat}
    (same : buffer.SameButStamps fewerFirst fewerLast other)
    (lower : first ≤ fewerFirst)
    (upper : fewerLast ≤ last) :
    buffer.SameButStamps first last other :=
  { same with outside := fun row rowInside out => same.outside row rowInside (by omega) }

/-- One of the rows gets another stamp. -/
theorem modifyComposed
    (shaped : buffer.Shaped lines columns limit)
    {index : Nat} {change : Row → Row}
    (inside : index < buffer.composedSize)
    (here : first ≤ index ∧ index ≤ last)
    (same : ∀ row : Row, (change row).cells = row.cells) :
    buffer.SameButStamps first last (buffer.modifyComposed index change) where
  cells := SameCells.modifyComposed buffer index same
  hidden := SameHidden.modifyComposed buffer index change
  outside := fun row rowInside out => by
    have keeps : ∀ row : Row, (change row).cells.length = row.cells.length := fun row =>
      congrArg List.length (same row)
    rw [shaped.composedRow_modifyComposed change inside rowInside keeps, if_neg (by omega)]

end SameButStamps

/-! ## The end of a line at the row above -/

/-- A line with `before` rows above its last one, which has these cells, ends
with the last of them that is not blank; when they are all blank it ends with
the first of them, or above it if there is a row above. -/
def EndsWithContent (columns before : Nat) (cells : List Cell) (length : Nat) : Prop :=
  ((∀ cell ∈ cells, cell.isBlank = true) ∧
      length = before * columns + if 0 < before then 1 else 0) ∨
    ∃ written cell blanks,
      cells = written ++ cell :: blanks ∧ cell.isBlank = false ∧
        (∀ blank ∈ blanks, blank.isBlank = true) ∧
        length = before * columns + (written.length + 1)

theorem endsWithContent_stampLength
    {row : Row}
    (columnsPositive : 0 < columns)
    (width : row.cells.length = columns)
    (before : Nat) :
    EndsWithContent columns before row.cells
      (stampLength columns 0 before before row.contentLength) := by
  have columnInside : row.contentLength ≤ columns := width ▸ Text.length_trimEnd_le
  obtain ⟨blanks, whole, allBlank⟩ := Text.exists_trimEnd_append Cell.isBlank row.cells
  rw [stampLength_zero columnsPositive columnInside]
  rcases List.eq_nil_or_concat (Text.trimEnd Cell.isBlank row.cells) with
    nothing | ⟨written, cell, kept⟩
  · have noContent : row.contentLength = 0 := by rw [Row.contentLength, nothing, List.length_nil]
    rw [nothing, List.nil_append] at whole
    exact Or.inl ⟨whole ▸ allBlank, by rw [noContent]; rfl⟩
  · have content : row.contentLength = written.length + 1 := by
      rw [Row.contentLength, kept, List.concat_eq_append, List.length_append, List.length_singleton]
    have notBlank : cell.isBlank = false := by
      have last (some : Text.trimEnd Cell.isBlank row.cells ≠ []) :
          ¬ ((Text.trimEnd Cell.isBlank row.cells).getLast some).isBlank = true :=
        List.rdropWhile_last_not Cell.isBlank row.cells some
      simp only [kept, List.concat_eq_append] at last
      simpa using last (by simp)
    refine Or.inr ⟨written, cell, blanks, ?_, notBlank, allBlank, ?_⟩
    · rw [← whole, kept, List.concat_eq_append, List.append_assoc, List.singleton_append]
    · rw [content]
      split <;> omega

/-! ## A line begun -/

/-- The row continues no line. -/
def partRow (row : Row) : Row :=
  { row with
    wrap :=
      { row.wrap with
        continues := false
        length := if row.isEmpty then 0 else row.wrap.length } }

/-- Nothing is said of the length of the line that the row begins. -/
def forgetLength (row : Row) : Row :=
  { row with wrap := { row.wrap with length := 0 } }

theorem beginLine_of_begins
    {y : Nat}
    (begins :
      ¬ ((buffer.composedRow (buffer.screenBase + y)).wrap.continues = true ∧
        buffer.screenBase + y > 0)) :
    buffer.beginLine y =
      (buffer.modifyComposed (buffer.screenBase + y) partRow).stamp (buffer.screenBase + y) 0 := by
  unfold beginLine
  dsimp only
  rw [if_neg begins]
  rfl

theorem beginLine_of_continues
    {y : Nat}
    (continues :
      (buffer.composedRow (buffer.screenBase + y)).wrap.continues = true ∧
        buffer.screenBase + y > 0) :
    let index := buffer.screenBase + y
    let parted := buffer.modifyComposed index partRow
    buffer.beginLine y =
      ((parted.modifyComposed (parted.lineStart (index - 1)) forgetLength).stamp (index - 1)
        (parted.composedRow (index - 1)).contentLength).stamp index 0 := by
  intro index parted
  unfold beginLine
  dsimp only
  rw [if_pos continues]
  rfl

theorem continues_partRow
    (shaped : buffer.Shaped lines columns limit)
    {index row : Nat}
    (inside : index < buffer.composedSize)
    (rowInside : row < buffer.composedSize) :
    ((buffer.modifyComposed index partRow).composedRow row).wrap.continues =
      if row = index then false else (buffer.composedRow row).wrap.continues := by
  rw [shaped.composedRow_modifyComposed partRow inside rowInside fun _ => rfl]
  split <;> rfl

theorem isLine_partRow
    (shaped : buffer.Shaped lines columns limit)
    {index : Nat}
    (line : buffer.IsLine first last)
    (isAfter : first < index)
    (upTo : index ≤ last) :
    (buffer.modifyComposed index partRow).IsLine first (index - 1) ∧
      (buffer.modifyComposed index partRow).IsLine index last := by
  have inside : index < buffer.composedSize := Nat.lt_of_le_of_lt upTo line.inside
  refine line.part isAfter upTo (composedSize_modifyComposed _ _ _) ?_ fun row different found => ?_
  · rw [continues_partRow shaped inside inside, if_pos rfl]
  · rw [continues_partRow shaped inside found, if_neg different]

theorem isLine_forgetLength
    (shaped : buffer.Shaped lines columns limit)
    {index : Nat}
    (line : buffer.IsLine first last)
    (inside : index < buffer.composedSize) :
    (buffer.modifyComposed index forgetLength).IsLine first last := by
  refine line.congr (composedSize_modifyComposed _ _ _) fun row _ rowInside => ?_
  rw [shaped.composedRow_modifyComposed forgetLength inside rowInside fun _ => rfl]
  split <;> rfl

/-- Beginning a line at row `index` of the line that has the composed rows from
`first` to `last` makes a line of that row and those after it. The rows above
it, if it continued them, are a line that ends with its content. -/
structure Begun (buffer : ScreenBuffer) (first last index : Nat) (other : ScreenBuffer) :
    Prop where
  stamped : ∃ length, other.Stamped index last length
  above : (buffer.composedRow index).wrap.continues = true ∧ index > 0 →
    ∃ length,
      other.Stamped first (index - 1) length ∧
        EndsWithContent buffer.columns (index - 1 - first) (buffer.composedRow (index - 1)).cells
          length
  same : buffer.SameButStamps first last other

/-- A row that begins its line stays its first row. -/
theorem begun_beginLine_of_begins
    (shaped : buffer.Shaped lines columns limit)
    {y : Nat}
    (line : buffer.IsLine (buffer.screenBase + y) last) :
    buffer.Begun (buffer.screenBase + y) last (buffer.screenBase + y) (buffer.beginLine y) := by
  have inside : buffer.screenBase + y < buffer.composedSize :=
    Nat.lt_of_le_of_lt line.ordered line.inside
  have here : buffer.screenBase + y ≤ buffer.screenBase + y ∧ buffer.screenBase + y ≤ last :=
    ⟨Nat.le_refl _, line.ordered⟩
  have begins := (line.lt_iff here).not.mp (Nat.lt_irrefl _)
  rw [beginLine_of_begins begins]
  generalize buffer.screenBase + y = index at *
  have partedShaped : (buffer.modifyComposed index partRow).Shaped lines columns limit :=
    shaped.modifyComposed index fun _ width => width
  have parted : buffer.SameButStamps index last (buffer.modifyComposed index partRow) :=
    SameButStamps.modifyComposed shaped inside here fun _ => rfl
  have partedLine : (buffer.modifyComposed index partRow).IsLine index last := by
    refine line.congr parted.cells.composedSize_eq fun row positive rowInside => ?_
    rw [continues_partRow shaped inside rowInside]
    split
    · next same =>
        subst same
        exact (eq_false_of_ne_true fun continues => begins ⟨continues, positive⟩).symm
    · rfl
  obtain ⟨stamped, same⟩ := stamped_stamp partedShaped partedLine here (Nat.zero_le columns)
  exact ⟨⟨_, stamped⟩, fun continued => absurd continued begins, parted.trans same⟩

/-- A line that is stamped at its last row, with nothing said of its length
before, ends with its content. -/
theorem stamped_stamp_forgetLength
    (shaped : buffer.Shaped lines columns limit)
    (line : buffer.IsLine first last) :
    let ended :=
      (buffer.modifyComposed first forgetLength).stamp last (buffer.composedRow last).contentLength
    (∃ length,
        ended.Stamped first last length ∧
          EndsWithContent columns (last - first) (buffer.composedRow last).cells length) ∧
      buffer.SameButStamps first last ended := by
  intro ended
  have firstInside : first < buffer.composedSize := Nat.lt_of_le_of_lt line.ordered line.inside
  have unmeasured : (buffer.modifyComposed first forgetLength).Shaped lines columns limit :=
    shaped.modifyComposed first fun _ width => width
  have same : buffer.SameButStamps first last (buffer.modifyComposed first forgetLength) :=
    SameButStamps.modifyComposed shaped firstInside ⟨Nat.le_refl _, line.ordered⟩ fun _ => rfl
  have stated : ((buffer.modifyComposed first forgetLength).composedRow first).wrap.length = 0 := by
    rw [shaped.composedRow_modifyComposed forgetLength firstInside firstInside fun _ => rfl,
      if_pos rfl]
    rfl
  have width := shaped.composedRow_width line.inside
  have columnInside : (buffer.composedRow last).contentLength ≤ columns :=
    width ▸ Text.length_trimEnd_le
  obtain ⟨stamped, endedSame⟩ :=
    stamped_stamp unmeasured (isLine_forgetLength shaped line firstInside)
      ⟨line.ordered, Nat.le_refl last⟩ columnInside
  rw [stated] at stamped
  exact
    ⟨⟨_, stamped, endsWithContent_stampLength shaped.columns_pos width _⟩, same.trans endedSame⟩

/-- Of two neighbouring lines the upper one is stamped up to its content, and
then the lower one, which leaves the stamps of the upper one. -/
theorem stamped_neighbours
    (shaped : buffer.Shaped lines columns limit)
    {index : Nat}
    (upper : buffer.IsLine first (index - 1))
    (lower : buffer.IsLine index last)
    (isAfter : first < index) :
    let ended :=
      (buffer.modifyComposed first forgetLength).stamp (index - 1)
        (buffer.composedRow (index - 1)).contentLength
    (∃ length, (ended.stamp index 0).Stamped index last length) ∧
      (∃ length,
        (ended.stamp index 0).Stamped first (index - 1) length ∧
          EndsWithContent columns (index - 1 - first) (buffer.composedRow (index - 1)).cells
            length) ∧
      buffer.SameButStamps first last (ended.stamp index 0) := by
  intro ended
  have firstInside : first < buffer.composedSize := Nat.lt_of_le_of_lt upper.ordered upper.inside
  have unmeasured : (buffer.modifyComposed first forgetLength).Shaped lines columns limit :=
    shaped.modifyComposed first fun _ width => width
  have aboveInside : index - 1 < (buffer.modifyComposed first forgetLength).composedSize := by
    simpa using upper.inside
  have endedLower : ended.IsLine index last :=
    isLine_stamp unmeasured (isLine_forgetLength shaped lower firstInside) aboveInside _
  obtain ⟨⟨length, above, content⟩, endedSame⟩ := stamped_stamp_forgetLength shaped upper
  obtain ⟨stamped, same⟩ :=
    stamped_stamp (unmeasured.stamp _ _) endedLower ⟨Nat.le_refl _, lower.ordered⟩
      (Nat.zero_le columns)
  have aboveSame : (ended.stamp index 0).Stamped first (index - 1) length := by
    have next : index - 1 + 1 = index := by omega
    refine above.congr same.cells.columns_eq same.cells.composedSize_eq ?_ ?_
    · intro row rowUpTo
      exact same.outside row (Nat.lt_of_le_of_lt rowUpTo above.line.inside) (by omega)
    · rw [next]
      intro _
      have wrapEq := stamped.wrap_eq 0 lower.ordered
      rw [Nat.add_zero] at wrapEq
      rw [wrapEq]
      rfl
  have upTo : index - 1 ≤ last := Nat.le_trans (Nat.sub_le index 1) lower.ordered
  exact
    ⟨⟨_, stamped⟩, ⟨length, aboveSame, content⟩,
      (endedSame.mono (Nat.le_refl first) upTo).trans
        (same.mono (Nat.le_of_lt isAfter) (Nat.le_refl last))⟩

/-- A row that continues the one above it begins a line with the rows after it;
the rows above it are a line that ends with its content. -/
theorem begun_beginLine_of_continues
    (shaped : buffer.Shaped lines columns limit)
    {y : Nat}
    (line : buffer.IsLine first last)
    (isAfter : first < buffer.screenBase + y)
    (upTo : buffer.screenBase + y ≤ last) :
    buffer.Begun first last (buffer.screenBase + y) (buffer.beginLine y) := by
  rw [beginLine_of_continues ((line.lt_iff ⟨Nat.le_of_lt isAfter, upTo⟩).mp isAfter)]
  generalize buffer.screenBase + y = index at *
  have inside : index < buffer.composedSize := Nat.lt_of_le_of_lt upTo line.inside
  have aboveInside : index - 1 < buffer.composedSize := by omega
  have atEnd : first ≤ index - 1 ∧ index - 1 ≤ index - 1 := ⟨by omega, Nat.le_refl _⟩
  have partedShaped : (buffer.modifyComposed index partRow).Shaped lines columns limit :=
    shaped.modifyComposed index fun _ width => width
  have partedSame : buffer.SameButStamps first last (buffer.modifyComposed index partRow) :=
    SameButStamps.modifyComposed shaped inside ⟨Nat.le_of_lt isAfter, upTo⟩ fun _ => rfl
  have rowAbove :
      (buffer.modifyComposed index partRow).composedRow (index - 1) =
        buffer.composedRow (index - 1) := by
    rw [shaped.composedRow_modifyComposed partRow inside aboveInside fun _ => rfl,
      if_neg (by omega)]
  obtain ⟨upper, lower⟩ := isLine_partRow shaped line isAfter upTo
  obtain ⟨stamped, ⟨length, above, content⟩, same⟩ :=
    stamped_neighbours partedShaped upper lower isAfter
  rw [(upper.lineStart_lineEnd_eq atEnd).1]
  rw [rowAbove, ← shaped.columns_eq] at content
  exact ⟨stamped, fun _ => ⟨length, above, content⟩, partedSame.trans same⟩

/-! ## Lines completed and begun -/

/-- Completing the line that has the composed rows from `first` to `last`, in
column `x` of row `index`, stamps it up to that column at least. -/
structure Completed (buffer : ScreenBuffer) (first last index x : Nat) (other : ScreenBuffer) :
    Prop where
  stamped : ∃ length,
    other.Stamped first last length ∧ (index - first) * buffer.columns + x ≤ length
  same : buffer.SameButStamps first last other

/-- A line that is completed and a line that is begun are stamped with their
places, and so is the line above one that is begun; no cell changes, and no
other line. -/
theorem completeLine_beginLine_stamp
    (shaped : buffer.Shaped lines columns limit)
    {x y : Nat}
    (rowInside : y < lines)
    (columnInside : x ≤ columns) :
    let index := buffer.screenBase + y
    ∃ first last, buffer.IsLine first last ∧ first ≤ index ∧ index ≤ last ∧
      buffer.Completed first last index x (buffer.completeLine x y) ∧
      buffer.Begun first last index (buffer.beginLine y) := by
  intro index
  have inside : index < buffer.composedSize := shaped.screenBase_add_lt rowInside
  have line := isLine_lineStart_lineEnd inside
  have here : buffer.lineStart index ≤ index ∧ index ≤ buffer.lineEnd index :=
    ⟨buffer.lineStart_le index, (lineEnd_bounds inside).1⟩
  generalize buffer.lineStart index = first at *
  generalize buffer.lineEnd index = last at *
  obtain ⟨stamped, same⟩ := stamped_stamp shaped line here columnInside
  have upTo : index - first ≤ last - first := by omega
  have reached := (stampLength_bounds shaped.columns_pos upTo columnInside
    (buffer.composedRow first).wrap.length).1
  rw [← shaped.columns_eq] at reached
  refine ⟨first, last, line, here.1, here.2, ⟨⟨_, stamped, ?_⟩, same⟩, ?_⟩
  · rwa [shaped.columns_eq] at reached ⊢
  · by_cases isAfter : first < index
    · exact begun_beginLine_of_continues shaped line isAfter here.2
    · obtain rfl : first = index := by omega
      exact begun_beginLine_of_begins shaped line

/-- Rows of the alternate screen that say they continue others, the first of
them with no row above it; nothing is said of their lengths. -/
theorem completeLine_beginLine_stamp_alternate :
    let buffer :=
      (((ScreenBuffer.blank 3 2 1).showAlternate true).continueLine 0).continueLine 2
    let index := buffer.screenBase + 2
    buffer.Shaped 3 2 1 ∧ 2 < 3 ∧ 1 ≤ 2 ∧ index = 2 ∧
      ∃ first last, buffer.IsLine first last ∧ first ≤ index ∧ index ≤ last ∧
        buffer.Completed first last index 1 (buffer.completeLine 1 2) ∧
        buffer.Begun first last index (buffer.beginLine 2) := by
  intro buffer index
  have shaped : buffer.Shaped 3 2 1 :=
    (((Shaped.blank (by decide) (by decide) 1).showAlternate true).continueLine 0).continueLine 2
  have rowInside : 2 < 3 := by decide
  have columnInside : 1 ≤ 2 := by decide
  exact
    ⟨shaped, rowInside, columnInside, by decide,
      completeLine_beginLine_stamp shaped rowInside columnInside⟩

end ScreenBuffer

end VideoTerminal
