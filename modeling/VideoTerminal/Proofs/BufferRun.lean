import VideoTerminal.Proofs.Figures
import VideoTerminal.Proofs.RowLists

/-!
Runs of a buffer: every operation on it, one after the other. The rows it ends
with, and all it answered on the way, are those of the same run on its lists. In
machine words, a run stops at the first row that scrolls the main screen, or the
first new size, at which the rows that the ring may hold cannot be counted.
-/

namespace VideoTerminal

namespace ScreenBuffer

/-! ## Logical lines

A line is found and stamped by its rows, wherever they are stored. -/

/-- Two buffers that hold the same rows, if at other slots. -/
structure SameRows (lines columns limit : Nat) (buffer other : ScreenBuffer) : Prop where
  shaped : buffer.Shaped lines columns limit
  otherShaped : other.Shaped lines columns limit
  rowLists_eq : buffer.rowLists = other.rowLists

namespace SameRows

variable {lines columns limit index : Nat} {buffer other : ScreenBuffer}

theorem columns_eq (same : SameRows lines columns limit buffer other) :
    buffer.columns = other.columns :=
  congrArg RowLists.columns same.rowLists_eq

theorem composedSize_eq (same : SameRows lines columns limit buffer other) :
    buffer.composedSize = other.composedSize := by
  rw [← same.shaped.length_shown, same.rowLists_eq, same.otherShaped.length_shown]

theorem screenBase_eq (same : SameRows lines columns limit buffer other) :
    buffer.screenBase = other.screenBase := by
  rw [screenBase, screenBase, same.composedSize_eq, same.shaped.lines_eq,
    same.otherShaped.lines_eq]

theorem composedRow_eq
    (same : SameRows lines columns limit buffer other)
    (inside : index < buffer.composedSize) :
    buffer.composedRow index = other.composedRow index := by
  rw [same.shaped.composedRow_eq inside,
    same.otherShaped.composedRow_eq (same.composedSize_eq ▸ inside), same.rowLists_eq]

theorem lineStart_eq
    (same : SameRows lines columns limit buffer other)
    (inside : index < buffer.composedSize) :
    buffer.lineStart index = other.lineStart index := by
  induction index with
  | zero => rfl
  | succ index inductionHypothesis =>
      unfold lineStart
      rw [same.composedRow_eq inside, inductionHypothesis (by omega)]

theorem lineEndWithin_eq
    (same : SameRows lines columns limit buffer other)
    {remaining : Nat}
    (inside : index + remaining < buffer.composedSize) :
    buffer.lineEndWithin index remaining = other.lineEndWithin index remaining := by
  induction remaining generalizing index with
  | zero => rfl
  | succ remaining inductionHypothesis =>
      unfold lineEndWithin
      rw [same.composedRow_eq (by omega), inductionHypothesis (by omega)]

theorem lineEnd_eq
    (same : SameRows lines columns limit buffer other)
    (inside : index < buffer.composedSize) :
    buffer.lineEnd index = other.lineEnd index := by
  rw [lineEnd, lineEnd, ← same.composedSize_eq]
  exact same.lineEndWithin_eq (by omega)

theorem modifyComposed
    (same : SameRows lines columns limit buffer other)
    (inside : index < buffer.composedSize)
    {change : Row → Row}
    (keeps : ∀ row : Row, (change row).cells.length = row.cells.length) :
    SameRows lines columns limit
      (buffer.modifyComposed index change) (other.modifyComposed index change) where
  shaped := same.shaped.modifyComposed index fun row width => (keeps row).trans width
  otherShaped := same.otherShaped.modifyComposed index fun row width => (keeps row).trans width
  rowLists_eq := by
    rw [same.shaped.rowLists_modifyComposed inside,
      same.otherShaped.rowLists_modifyComposed (same.composedSize_eq ▸ inside),
      same.rowLists_eq]

/-- Both loops run over rows that there are. -/
theorem foldl_modifyComposed
    (same : SameRows lines columns limit buffer other)
    {first count : Nat} {change : Nat → Row → Row}
    (inside : first + count ≤ buffer.composedSize)
    (keeps : ∀ k row, (change k row).cells.length = row.cells.length) :
    SameRows lines columns limit
      ((List.range count).foldl
        (fun current k => current.modifyComposed (first + k) (change k)) buffer)
      ((List.range count).foldl
        (fun current k => current.modifyComposed (first + k) (change k)) other) where
  shaped := same.shaped.foldl fun _ k current =>
    current.modifyComposed _ fun row width => (keeps k row).trans width
  otherShaped := same.otherShaped.foldl fun _ k current =>
    current.modifyComposed _ fun row width => (keeps k row).trans width
  rowLists_eq := by
    rw [same.shaped.rowLists_foldl_modifyComposed inside keeps,
      same.otherShaped.rowLists_foldl_modifyComposed (same.composedSize_eq ▸ inside) keeps,
      same.rowLists_eq]

theorem stamp
    (same : SameRows lines columns limit buffer other)
    (inside : index < buffer.composedSize)
    (x : Nat) :
    SameRows lines columns limit (buffer.stamp index x) (other.stamp index x) := by
  have startLe := buffer.lineStart_le index
  have endBounds := lineEnd_bounds inside
  unfold ScreenBuffer.stamp
  dsimp only
  rw [← same.lineStart_eq inside, ← same.lineEnd_eq inside,
    ← same.composedRow_eq (by omega), ← same.columns_eq]
  apply same.foldl_modifyComposed (by omega)
  exact fun _ _ => rfl

theorem continueLine
    (same : SameRows lines columns limit buffer other)
    {y : Nat}
    (inside : y < lines) :
    SameRows lines columns limit (buffer.continueLine y) (other.continueLine y) := by
  have place := same.shaped.screenBase_add_lt inside
  unfold ScreenBuffer.continueLine modifyScreen
  rw [← same.screenBase_eq]
  apply same.modifyComposed place
  exact fun _ => rfl

theorem completeLine
    (same : SameRows lines columns limit buffer other)
    {y : Nat}
    (inside : y < lines) (x : Nat) :
    SameRows lines columns limit (buffer.completeLine x y) (other.completeLine x y) := by
  have place := same.shaped.screenBase_add_lt inside
  unfold ScreenBuffer.completeLine
  rw [← same.screenBase_eq]
  exact same.stamp place x

theorem beginLine
    (same : SameRows lines columns limit buffer other)
    {y : Nat}
    (inside : y < lines) :
    SameRows lines columns limit (buffer.beginLine y) (other.beginLine y) := by
  have place := same.shaped.screenBase_add_lt inside
  unfold ScreenBuffer.beginLine
  rw [← same.screenBase_eq]
  extract_lets index row parted first tail ended otherRow otherParted otherFirst otherTail
    otherEnded
  have rowEq : row = otherRow := same.composedRow_eq place
  have partedSame : SameRows lines columns limit parted otherParted := by
    apply same.modifyComposed place
    exact fun _ => rfl
  have partedSize : parted.composedSize = buffer.composedSize :=
    composedSize_modifyComposed _ _ _
  have endedSame :
      SameRows lines columns limit ended otherEnded ∧
        ended.composedSize = buffer.composedSize := by
    dsimp only [ended, otherEnded]
    rw [← rowEq]
    split
    · have above : index - 1 < parted.composedSize := by
        rw [partedSize]
        omega
      have startLe : first ≤ index - 1 := parted.lineStart_le (index - 1)
      have firstEq : first = otherFirst := partedSame.lineStart_eq above
      have tailEq : tail = otherTail := congrArg Row.contentLength (partedSame.composedRow_eq above)
      rw [← firstEq, ← tailEq]
      refine ⟨stamp (partedSame.modifyComposed (by omega) ?_) ?_ _, ?_⟩
      · exact fun _ => rfl
      · rwa [composedSize_modifyComposed]
      · rw [composedSize_stamp, composedSize_modifyComposed, partedSize]
    · exact ⟨partedSame, partedSize⟩
  exact endedSame.1.stamp (endedSame.2 ▸ place) 0

end SameRows

/-- The buffer holds the same rows as its lists stored from the first slot on. -/
theorem Shaped.sameRows_toBuffer
    {lines columns limit : Nat} {buffer : ScreenBuffer}
    (shaped : buffer.Shaped lines columns limit) :
    SameRows lines columns limit buffer buffer.rowLists.toBuffer where
  shaped := shaped
  otherShaped :=
    { shaped with
      lines_le_size := by
        simpa [RowLists.toBuffer, rowLists] using shaped.lines_le_size
      size_le_capacity := by
        simpa [RowLists.toBuffer, rowLists] using shaped.size_le_capacity
      start_lt_size := by
        have := shaped.start_lt_size
        simp [RowLists.toBuffer, rowLists]
        omega
      start_eq_zero_or_full := Or.inl rfl
      alternate_size := by
        simpa [RowLists.toBuffer, rowLists] using shaped.alternate_size
      ring_width := by
        simpa [RowLists.toBuffer, rowLists] using shaped.ring_width
      alternate_width := by
        simpa [RowLists.toBuffer, rowLists] using shaped.alternate_width }
  rowLists_eq := by simp [RowLists.toBuffer, rowLists]

/-! ## Operations -/

/-- What can be asked of a buffer. -/
inductive Operation where
  | advance (fill : Cell)
  | clearHistory
  | scrollRows (top bottom : Nat) (amount : Int) (fill : Cell)
  | write (y : Nat) (change : Row → Row)
  | showAlternate (on : Bool)
  | clearAlternate (fill : Cell)
  | beginLine (y : Nat)
  | continueLine (y : Nat)
  | completeLine (x y : Nat)
  | resize (lines columns : Nat) (cursor : Option (Nat × Nat))

/-- What an operation answers: nothing, whether the oldest row was lost, or the
new place of the cursor. -/
inductive Answer where
  | nothing
  | lost (oldest : Bool)
  | cursor (place : Option (Nat × Nat))
deriving DecidableEq

/-- The rows that an operation names are on a screen of `lines` rows of
`columns` cells, a row that is written at will keeps its width, and a new size
has cells. -/
def Operation.Fits (lines columns : Nat) : Operation → Prop
  | .write y change =>
      y < lines ∧ ∀ row : Row, row.cells.length = columns → (change row).cells.length = columns
  | .beginLine y | .continueLine y | .completeLine _ y => y < lines
  | .resize newLines newColumns _ => 0 < newLines ∧ 0 < newColumns
  | .advance _ | .clearHistory | .scrollRows _ _ _ _ | .showAlternate _ | .clearAlternate _ => True

/-- The buffer after an operation, and the answer. -/
def operate (buffer : ScreenBuffer) : Operation → ScreenBuffer × Answer
  | .advance fill =>
      let (advanced, lost) := buffer.advance fill
      (advanced, .lost lost)
  | .clearHistory => (buffer.clearHistory, .nothing)
  | .scrollRows top bottom amount fill => (buffer.scrollRows top bottom amount fill, .nothing)
  | .write y change => (buffer.modifyScreen y change, .nothing)
  | .showAlternate on => (buffer.showAlternate on, .nothing)
  | .clearAlternate fill => (buffer.clearAlternate fill, .nothing)
  | .beginLine y => (buffer.beginLine y, .nothing)
  | .continueLine y => (buffer.continueLine y, .nothing)
  | .completeLine x y => (buffer.completeLine x y, .nothing)
  | .resize lines columns cursor =>
      let (resized, place) := buffer.resize lines columns cursor
      (resized, .cursor place)

/-- The buffer after some operations, and the answers to them. -/
def run (buffer : ScreenBuffer) : List Operation → ScreenBuffer × List Answer
  | [] => (buffer, [])
  | operation :: rest =>
      let (next, answer) := buffer.operate operation
      let (last, answers) := next.run rest
      (last, answer :: answers)

/-- The buffer after an operation, and the answer, unless the program stops. -/
def operateInWords (buffer : ScreenBuffer) : Operation → Except Figure (ScreenBuffer × Answer)
  | .advance fill => do
      let (advanced, lost) ← buffer.advanceInWords fill
      return (advanced, .lost lost)
  | .resize lines columns cursor => do
      let (resized, place) ← buffer.resizeInWords lines columns cursor
      return (resized, .cursor place)
  | operation => return buffer.operate operation

/-- The buffer after some operations, and the answers to them, unless the program
stops. -/
def runInWords (buffer : ScreenBuffer) :
    List Operation → Except Figure (ScreenBuffer × List Answer)
  | [] => return (buffer, [])
  | operation :: rest => do
      let (next, answer) ← buffer.operateInWords operation
      let (last, answers) ← next.runInWords rest
      return (last, answer :: answers)

/-- Every operation fits the screen that it meets. -/
def Accepts (buffer : ScreenBuffer) : List Operation → Prop
  | [] => True
  | operation :: rest =>
      operation.Fits buffer.lines buffer.columns ∧ (buffer.operate operation).1.Accepts rest

/-- The buffer is found at the end of a run that begins with blank screens of
at least one cell. -/
def Reached (limit : Nat) (buffer : ScreenBuffer) : Prop :=
  ∃ lines columns operations,
    0 < lines ∧ 0 < columns ∧ (blank lines columns limit).Accepts operations ∧
      ((blank lines columns limit).run operations).1 = buffer

end ScreenBuffer

namespace RowLists

open ScreenBuffer (Operation Answer)

/-- The lists after an operation, and the answer. Stamps and a new size do not
look at the slots; they are those of the lists stored from the first slot on. -/
def operate (lists : RowLists) : Operation → RowLists × Answer
  | .advance fill =>
      let (advanced, lost) := lists.advance fill
      (advanced, .lost lost)
  | .clearHistory => (lists.clearHistory, .nothing)
  | .scrollRows top bottom amount fill => (lists.scrollRows top bottom amount fill, .nothing)
  | .write y change => (lists.modifyScreen y change, .nothing)
  | .showAlternate on => ({ lists with onAlternate := on }, .nothing)
  | .clearAlternate fill => (lists.clearAlternate fill, .nothing)
  | .beginLine y => ((lists.toBuffer.beginLine y).rowLists, .nothing)
  | .continueLine y => ((lists.toBuffer.continueLine y).rowLists, .nothing)
  | .completeLine x y => ((lists.toBuffer.completeLine x y).rowLists, .nothing)
  | .resize lines columns cursor =>
      let (resized, place) := lists.toBuffer.resize lines columns cursor
      (resized.rowLists, .cursor place)

/-- The lists after some operations, and the answers to them. -/
def run (lists : RowLists) : List Operation → RowLists × List Answer
  | [] => (lists, [])
  | operation :: rest =>
      let (next, answer) := lists.operate operation
      let (last, answers) := next.run rest
      (last, answer :: answers)

end RowLists

namespace ScreenBuffer

variable {lines columns limit : Nat} {buffer : ScreenBuffer}

/-- Only a new size gives another shape. -/
theorem Shaped.operate
    (shaped : buffer.Shaped lines columns limit)
    {operation : Operation}
    (fits : operation.Fits lines columns) :
    ∃ height width,
      (buffer.operate operation).1.Shaped height width limit ∧
        (height = lines ∨ ∃ asked cursor, operation = .resize height asked cursor) := by
  cases operation with
  | advance fill => exact ⟨lines, columns, shaped.advance fill, .inl rfl⟩
  | clearHistory => exact ⟨lines, columns, shaped.clearHistory, .inl rfl⟩
  | scrollRows top bottom amount fill =>
      exact ⟨lines, columns, shaped.scrollRows top bottom amount fill, .inl rfl⟩
  | write y change => exact ⟨lines, columns, shaped.modifyScreen y fits.2, .inl rfl⟩
  | showAlternate on => exact ⟨lines, columns, shaped.showAlternate on, .inl rfl⟩
  | clearAlternate fill => exact ⟨lines, columns, shaped.clearAlternate fill, .inl rfl⟩
  | beginLine y => exact ⟨lines, columns, shaped.beginLine y, .inl rfl⟩
  | continueLine y => exact ⟨lines, columns, shaped.continueLine y, .inl rfl⟩
  | completeLine x y => exact ⟨lines, columns, shaped.completeLine x y, .inl rfl⟩
  | resize newLines newColumns cursor =>
      exact ⟨newLines, newColumns, shaped.resize fits.1 fits.2 cursor,
        .inr ⟨newColumns, cursor, rfl⟩⟩

/-- An operation on a buffer is the same operation on its lists. -/
theorem Shaped.rowLists_operate
    (shaped : buffer.Shaped lines columns limit)
    {operation : Operation}
    (fits : operation.Fits lines columns) :
    ((buffer.operate operation).1.rowLists, (buffer.operate operation).2) =
      buffer.rowLists.operate operation := by
  have same := shaped.sameRows_toBuffer
  cases operation with
  | advance fill =>
      have advanced := shaped.rowLists_advance fill
      simp only [ScreenBuffer.operate, RowLists.operate, ← advanced]
  | clearHistory =>
      simp only [ScreenBuffer.operate, RowLists.operate, Shaped.rowLists_clearHistory]
  | scrollRows top bottom amount fill =>
      simp only [ScreenBuffer.operate, RowLists.operate, shaped.rowLists_scrollRows]
  | write y change =>
      simp only [ScreenBuffer.operate, RowLists.operate, shaped.rowLists_modifyScreen fits.1]
  | showAlternate on => rfl
  | clearAlternate fill =>
      simp only [ScreenBuffer.operate, RowLists.operate, shaped.rowLists_clearAlternate]
  | beginLine y =>
      simp only [ScreenBuffer.operate, RowLists.operate, (same.beginLine fits).rowLists_eq]
  | continueLine y =>
      simp only [ScreenBuffer.operate, RowLists.operate, (same.continueLine fits).rowLists_eq]
  | completeLine x y =>
      simp only [ScreenBuffer.operate, RowLists.operate, (same.completeLine fits x).rowLists_eq]
  | resize newLines newColumns cursor =>
      simp only [ScreenBuffer.operate, RowLists.operate, Shaped.rowLists_resize buffer]

theorem Shaped.run
    {operations : List Operation}
    (shaped : buffer.Shaped lines columns limit)
    (accepted : buffer.Accepts operations) :
    ∃ newLines newColumns,
      (buffer.run operations).1.Shaped newLines newColumns limit := by
  induction operations generalizing buffer lines columns with
  | nil => exact ⟨lines, columns, shaped⟩
  | cons operation rest inductionHypothesis =>
      have fits := accepted.1
      rw [shaped.lines_eq, shaped.columns_eq] at fits
      obtain ⟨nextLines, nextColumns, next, -⟩ := shaped.operate fits
      exact inductionHypothesis next accepted.2

theorem Shaped.rowLists_run
    {operations : List Operation}
    (shaped : buffer.Shaped lines columns limit)
    (accepted : buffer.Accepts operations) :
    ((buffer.run operations).1.rowLists, (buffer.run operations).2) =
      buffer.rowLists.run operations := by
  induction operations generalizing buffer lines columns with
  | nil => rfl
  | cons operation rest inductionHypothesis =>
      have fits := accepted.1
      rw [shaped.lines_eq, shaped.columns_eq] at fits
      obtain ⟨nextLines, nextColumns, next, -⟩ := shaped.operate fits
      have step := shaped.rowLists_operate fits
      have later := inductionHypothesis next accepted.2
      simp only [ScreenBuffer.run, RowLists.run, ← step, ← later]

theorem Reached.shaped (reached : buffer.Reached limit) :
    ∃ lines columns, buffer.Shaped lines columns limit := by
  obtain ⟨lines, columns, operations, linesPositive, columnsPositive, accepted, rfl⟩ := reached
  exact (Shaped.blank linesPositive columnsPositive limit).run accepted

/-! ## Runs in words -/

/-- The figures of an operation: the rows that the ring may hold, for a row that
scrolls the main screen, and at a new size. -/
def operateFigures (buffer : ScreenBuffer) : Operation → List Figure
  | .advance _ => [buffer.capacityFigure]
  | .resize lines _ _ => [buffer.resizeFigure lines]
  | _ => []

theorem operateInWords_eq (buffer : ScreenBuffer) (operation : Operation) :
    buffer.operateInWords operation =
      inWords (buffer.operateFigures operation) (buffer.operate operation) := by
  cases operation with
  | advance fill =>
      exact inWords_bind_pure _ _
        fun found : ScreenBuffer × Bool => (found.1, Answer.lost found.2)
  | resize lines columns cursor =>
      exact inWords_bind_pure _ _
        fun found : ScreenBuffer × Option (Nat × Nat) => (found.1, Answer.cursor found.2)
  | clearHistory | scrollRows | write | showAlternate | clearAlternate | beginLine
  | continueLine | completeLine => rfl

/-- The figures of some operations. -/
def runFigures (buffer : ScreenBuffer) : List Operation → List Figure
  | [] => []
  | operation :: rest =>
      buffer.operateFigures operation ++ (buffer.operate operation).1.runFigures rest

theorem runInWords_eq (buffer : ScreenBuffer) (operations : List Operation) :
    buffer.runInWords operations =
      inWords (buffer.runFigures operations) (buffer.run operations) := by
  induction operations generalizing buffer with
  | nil => rfl
  | cons operation rest inductionHypothesis =>
      have later :
          ∀ found : ScreenBuffer × Answer,
            (found.1.runInWords rest >>= fun last => pure (last.1, found.2 :: last.2)) =
              inWords (found.1.runFigures rest)
                ((found.1.run rest).1, found.2 :: (found.1.run rest).2) := by
        intro found
        rw [inductionHypothesis]
        exact inWords_bind_pure _ _
          fun last : ScreenBuffer × List Answer => (last.1, found.2 :: last.2)
      have parted :
          buffer.runInWords (operation :: rest) =
            (buffer.operateInWords operation >>= fun found =>
              found.1.runInWords rest >>= fun last => pure (last.1, found.2 :: last.2)) := rfl
      rw [parted, funext later, operateInWords_eq, inWords_bind]
      rfl

/-- The figures of a run are sums of the limit with the heights that the screen
has on the way. -/
theorem Shaped.sum_of_mem_runFigures
    {operations : List Operation} {figure : Figure}
    (shaped : buffer.Shaped lines columns limit)
    (accepted : buffer.Accepts operations)
    (member : figure ∈ buffer.runFigures operations) :
    ∃ height, figure = .sum limit height ∧
      (height = lines ∨ ∃ width cursor, .resize height width cursor ∈ operations) := by
  induction operations generalizing buffer lines columns with
  | nil => cases member
  | cons operation rest inductionHypothesis =>
      rcases List.mem_append.mp member with here | later
      · cases operation with
        | advance fill =>
            refine ⟨lines, ?_, .inl rfl⟩
            rw [List.mem_singleton.mp here, capacityFigure, shaped.limit_eq, shaped.lines_eq]
        | resize newLines newColumns cursor =>
            refine ⟨newLines, ?_, .inr ⟨newColumns, cursor, List.mem_cons_self⟩⟩
            rw [List.mem_singleton.mp here, resizeFigure, shaped.limit_eq]
        | clearHistory | scrollRows | write | showAlternate | clearAlternate | beginLine
        | continueLine | completeLine => cases here
      · have fits := accepted.1
        rw [shaped.lines_eq, shaped.columns_eq] at fits
        obtain ⟨nextLines, nextColumns, next, place⟩ := shaped.operate fits
        obtain ⟨height, figureEq, heightOf⟩ := inductionHypothesis next accepted.2 later
        refine ⟨height, figureEq, ?_⟩
        rcases heightOf with rfl | ⟨width, cursor, asked⟩
        · refine place.imp_right ?_
          rintro ⟨width, cursor, rfl⟩
          exact ⟨width, cursor, List.mem_cons_self⟩
        · exact .inr ⟨width, cursor, List.mem_cons_of_mem operation asked⟩

/-- A run of a buffer is the same run of its lists: they end with the same rows
and answer the same. In words the run ends just if the limit and each height at
which a row scrolls the main screen, or that is asked for, have a sum that fits. -/
theorem rowLists_runInWords_of_reached
    {operations : List Operation}
    (reached : buffer.Reached limit)
    (accepted : buffer.Accepts operations) :
    ((buffer.run operations).1.rowLists, (buffer.run operations).2) =
        buffer.rowLists.run operations ∧
      (∀ found, buffer.runInWords operations = .ok found ↔
        (∀ figure ∈ buffer.runFigures operations, figure.Fits) ∧
          buffer.run operations = found) ∧
      ∀ figure ∈ buffer.runFigures operations, ∃ height, figure = .sum limit height ∧
        (height = buffer.lines ∨ ∃ width cursor, .resize height width cursor ∈ operations) := by
  obtain ⟨lines, columns, shaped⟩ := reached.shaped
  refine ⟨shaped.rowLists_run accepted, ?_, ?_⟩
  · intro found
    rw [runInWords_eq, inWords_eq_ok_iff]
  · intro figure member
    rw [shaped.lines_eq]
    exact shaped.sum_of_mem_runFigures accepted member

/-- A run that begins with a ring that has come round, and scrolls part of
either screen. -/
theorem rowLists_runInWords_of_reached_come_round :
    let buffer := ((blank 3 2 1).run [.advance {}, .advance ⟨'a', {}⟩, .advance ⟨'b', {}⟩]).1
    let operations : List Operation :=
      [.write 1 (fun row => row.put 0 ⟨'c', {}⟩), .scrollRows 0 2 (-1) {},
        .advance {}, .showAlternate true, .scrollRows 1 2 5 ⟨'d', {}⟩, .showAlternate false,
        .completeLine 1 2, .clearHistory, .resize 2 3 none]
    buffer.Reached 1 ∧ buffer.Accepts operations ∧
      ((buffer.run operations).1.rowLists, (buffer.run operations).2) =
        buffer.rowLists.run operations ∧
      buffer.runInWords operations = .ok (buffer.run operations) := by
  intro buffer operations
  have reached : buffer.Reached 1 :=
    ⟨3, 2, [.advance {}, .advance ⟨'a', {}⟩, .advance ⟨'b', {}⟩], by decide, by decide,
      ⟨trivial, trivial, trivial, trivial⟩, rfl⟩
  have accepted : buffer.Accepts operations := by
    refine ⟨⟨by decide, fun _ width => (Row.length_put _ _ _).trans width⟩, trivial, trivial,
      trivial, trivial, trivial, ?_, trivial, ?_, trivial⟩
    · unfold Operation.Fits
      decide +kernel
    · exact ⟨Nat.two_pos, Nat.succ_pos 2⟩
  have figures : buffer.runFigures operations = [.sum 1 3, .sum 1 2] := by decide +kernel
  have fit : ∀ figure ∈ buffer.runFigures operations, figure.Fits := by
    rw [figures]
    decide
  obtain ⟨refined, ends, -⟩ := rowLists_runInWords_of_reached reached accepted
  exact ⟨reached, accepted, refined, (ends (buffer.run operations)).mpr ⟨fit, rfl⟩⟩

/-- With the greatest limit, the first row that scrolls the main screen stops the
program, and its list has room for the row. -/
theorem advance_stops_at_greatest_limit :
    let buffer := blank 1 1 (Text.wordSize - 1)
    let operations : List Operation := [.advance {}]
    buffer.Reached (Text.wordSize - 1) ∧ buffer.Accepts operations ∧
      (buffer.rowLists.run operations).2 = [.lost false] ∧
      buffer.runInWords operations = .error (.sum (Text.wordSize - 1) 1) := by
  intro buffer operations
  have reached : buffer.Reached (Text.wordSize - 1) :=
    ⟨1, 1, [], by decide, by decide, trivial, rfl⟩
  exact ⟨reached, ⟨trivial, trivial⟩, by decide +kernel, rfl⟩

end ScreenBuffer

end VideoTerminal
