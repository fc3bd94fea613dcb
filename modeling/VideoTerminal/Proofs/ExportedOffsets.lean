import Mathlib.Data.List.SplitBy
import VideoTerminal.Proofs.Replaying

/-!
The plain exports by offsets. An export takes the composed cells row by row;
counted through, these are the cells at consecutive offsets, cut before each
offset that begins a row.
-/

namespace VideoTerminal

namespace ScreenBuffer

/-! ## Offsets -/

/-- The offsets from `start` to `stop`. -/
def offsets (start stop : Nat) : List Nat :=
  List.range' start (stop + 1 - start)

/-- The offsets from `start` to `stop`, cut before each one that is a multiple
of `columns`. -/
def rowOffsets (columns start stop : Nat) : List (List Nat) :=
  (offsets start stop).splitBy fun _ next => next % columns != 0

/-- The first offset of the row after that of an offset. -/
def nextRow (columns offset : Nat) : Nat :=
  (offset / columns + 1) * columns

section Offsets

variable {columns start stop : Nat}

theorem lt_nextRow (columnsPositive : 0 < columns) (offset : Nat) :
    offset < nextRow columns offset :=
  Nat.lt_mul_of_div_lt (Nat.lt_succ_self _) columnsPositive

theorem nextRow_div (columnsPositive : 0 < columns) (offset : Nat) :
    nextRow columns offset / columns = offset / columns + 1 :=
  Nat.mul_div_cancel _ columnsPositive

theorem nextRow_mod (columns offset : Nat) : nextRow columns offset % columns = 0 :=
  Nat.mul_mod_left _ _

theorem div_eq_of_lt_nextRow
    {offset : Nat}
    (after : start ≤ offset)
    (before : offset < nextRow columns start) :
    offset / columns = start / columns := by
  have atMost : offset / columns < start / columns + 1 :=
    Nat.div_lt_of_lt_mul (Nat.mul_comm _ columns ▸ before)
  have atLeast : start / columns ≤ offset / columns := Nat.div_le_div_right after
  omega

theorem mod_ne_zero_of_lt_nextRow
    {offset : Nat}
    (after : start < offset)
    (before : offset < nextRow columns start) :
    offset % columns ≠ 0 := by
  intro begins
  have sameRow := div_eq_of_lt_nextRow (Nat.le_of_lt after) before
  have rowStart : columns * (offset / columns) = offset :=
    Nat.mul_div_cancel' (Nat.dvd_of_mod_eq_zero begins)
  have notBefore : columns * (start / columns) ≤ start := Nat.mul_div_le start columns
  rw [sameRow] at rowStart
  omega

/-- What holds of a range within one row, and of a range if it holds of what
the range has after its first row, holds of every range. -/
@[elab_as_elim]
theorem row_induction
    (columnsPositive : 0 < columns)
    {motive : Nat → Prop}
    (last : ∀ start ≤ stop, stop < nextRow columns start → motive start)
    (next : ∀ start, nextRow columns start ≤ stop → motive (nextRow columns start) → motive start)
    (start : Nat) (ordered : start ≤ stop) :
    motive start := by
  by_cases within : stop < nextRow columns start
  · exact last start ordered within
  · have more : nextRow columns start ≤ stop := Nat.not_lt.mp within
    have further := lt_nextRow columnsPositive start
    exact next start more (row_induction columnsPositive last next _ more)
  termination_by stop - start

theorem offsets_append
    {middle : Nat}
    (after : start ≤ middle) (before : middle ≤ stop) :
    offsets start stop = List.range' start (middle - start) ++ offsets middle stop := by
  have whole : stop + 1 - start = middle - start + (stop + 1 - middle) := by omega
  have reached : start + (middle - start) = middle := by omega
  rw [offsets, offsets, whole, List.range'_append_1.symm, reached]

/-- No offset but the first begins a row. -/
theorem isChain_of_row
    {count : Nat}
    (within : start + count ≤ nextRow columns start) :
    (List.range' start count).IsChain fun _ next => next % columns != 0 := by
  rw [List.isChain_iff_getElem]
  intro index inside
  rw [List.length_range'] at inside
  rw [List.getElem_range', Nat.one_mul, bne_iff_ne]
  have after : start < start + (index + 1) := by omega
  exact mod_ne_zero_of_lt_nextRow after (by omega)

theorem rowOffsets_last
    (ordered : start ≤ stop)
    (within : stop < nextRow columns start) :
    rowOffsets columns start stop = [offsets start stop] := by
  apply List.splitBy_of_isChain
  · rw [offsets, List.range'_ne_nil_iff]
    omega
  · exact isChain_of_row (by omega)

theorem rowOffsets_next
    (columnsPositive : 0 < columns)
    (more : nextRow columns start ≤ stop) :
    rowOffsets columns start stop =
      List.range' start (nextRow columns start - start) ::
        rowOffsets columns (nextRow columns start) stop := by
  have further := lt_nextRow columnsPositive start
  rw [rowOffsets, offsets_append (Nat.le_of_lt further) more, List.splitBy_append]
  · have first :
        (List.range' start (nextRow columns start - start)).splitBy
            (fun _ next => next % columns != 0) =
          [List.range' start (nextRow columns start - start)] := by
      apply List.splitBy_of_isChain
      · rw [List.range'_ne_nil_iff]
        omega
      · exact isChain_of_row (by omega)
    rw [first, List.singleton_append, rowOffsets]
  · intro _ _ next head
    rw [offsets, List.head?_range', if_neg (by omega)] at head
    obtain rfl := Option.some.inj head
    rw [nextRow_mod]
    rfl

theorem rowOffsets_ne_nil (ordered : start ≤ stop) : rowOffsets columns start stop ≠ [] := by
  rw [rowOffsets, List.splitBy_ne_nil, offsets, List.range'_ne_nil_iff]
  omega

end Offsets

/-! ## Segments -/

variable {buffer : ScreenBuffer} {start stop : Nat}

/-- The cell of an offset. -/
def cellAt (buffer : ScreenBuffer) (offset : Nat) : Cell :=
  buffer.composedCell (offset % buffer.columns) (offset / buffer.columns)

theorem cells_eq_map_cellAt
    {row : Nat}
    (wide : buffer.columns ≤ (buffer.composedRow row).cells.length)
    (first : Nat) {last : Nat} (fits : last ≤ buffer.columns) :
    ((buffer.composedRow row).cells.take last).drop first =
      (List.range' (row * buffer.columns + first) (last - first)).map buffer.cellAt := by
  apply List.ext_getElem
  · simp only [List.length_drop, List.length_take, List.length_map, List.length_range']
    omega
  · intro index inside _
    simp only [List.length_drop, List.length_take] at inside
    have column : first + index < buffer.columns := by omega
    have place : row * buffer.columns + first + 1 * index =
        row * buffer.columns + (first + index) := by
      omega
    rw [List.getElem_map, List.getElem_range', place, cellAt, Nat.mul_add_mod',
      Nat.mod_eq_of_lt column, Nat.mul_comm, Nat.mul_add_div (by omega), Nat.div_eq_of_lt column, Nat.add_zero,
      composedCell, List.getElem_drop, List.getElem_take,
      List.getElem?_eq_getElem (by omega), Option.getD_some]

theorem segments_last
    (wide : ∀ row ≤ stop / buffer.columns,
      buffer.columns ≤ (buffer.composedRow row).cells.length)
    (columnsPositive : 0 < buffer.columns)
    (ordered : start ≤ stop)
    (within : stop < nextRow buffer.columns start) :
    buffer.segments start stop = [(offsets start stop).map buffer.cellAt] := by
  have sameRow : stop / buffer.columns = start / buffer.columns :=
    div_eq_of_lt_nextRow ordered within
  have lastColumn := Nat.mod_lt stop columnsPositive
  have startAt := Nat.div_add_mod' start buffer.columns
  have stopAt := Nat.div_add_mod' stop buffer.columns
  rw [sameRow] at stopAt
  have count : stop % buffer.columns + 1 - start % buffer.columns = stop + 1 - start := by omega
  have single : start / buffer.columns + 1 - start / buffer.columns = 1 := by omega
  rw [segments, sameRow, single, List.range_one, List.map_singleton, Nat.add_zero, segment,
    if_pos rfl, if_pos sameRow.symm, cells_eq_map_cellAt (wide _ (Nat.le_of_eq sameRow.symm)) _
    lastColumn, startAt, count, offsets]

/-- The segments after the first one are those of the range from the next row
on. -/
theorem segments_next
    (wide : ∀ row ≤ stop / buffer.columns,
      buffer.columns ≤ (buffer.composedRow row).cells.length)
    (columnsPositive : 0 < buffer.columns)
    (more : nextRow buffer.columns start ≤ stop) :
    buffer.segments start stop =
      (List.range' start (nextRow buffer.columns start - start)).map buffer.cellAt ::
        buffer.segments (nextRow buffer.columns start) stop := by
  have nextAt := nextRow_div columnsPositive start
  have further : start / buffer.columns + 1 ≤ stop / buffer.columns := by
    rw [← nextAt]
    exact Nat.div_le_div_right more
  have startAt := Nat.div_add_mod' start buffer.columns
  have endAt : nextRow buffer.columns start - start =
      buffer.columns - start % buffer.columns := by
    rw [nextRow, Nat.add_mul, Nat.one_mul]
    omega
  have count : stop / buffer.columns + 1 - start / buffer.columns =
      (stop / buffer.columns + 1 - (start / buffer.columns + 1)) + 1 := by
    omega
  rw [segments, count, List.range_succ_eq_map, List.map_cons, List.map_map]
  congr 1
  · have notLast : start / buffer.columns ≠ stop / buffer.columns := by omega
    rw [Nat.add_zero, segment, if_pos rfl, if_neg notLast,
      cells_eq_map_cellAt (wide _ (by omega)) _ (Nat.le_refl _), startAt, endAt]
  · rw [segments, nextAt]
    apply List.map_congr_left
    intro k _
    have later : start / buffer.columns + (k + 1) ≠ start / buffer.columns := by omega
    have place : start / buffer.columns + 1 + k = start / buffer.columns + (k + 1) := by omega
    rw [Function.comp_apply, Nat.succ_eq_add_one, place, segment, segment, if_neg later, nextAt,
      nextRow_mod, ite_self]

/-- The segments of an export are the cells at its offsets, row by row. -/
theorem segments_eq_map_rowOffsets
    (wide : ∀ row ≤ stop / buffer.columns,
      buffer.columns ≤ (buffer.composedRow row).cells.length)
    (columnsPositive : 0 < buffer.columns)
    (ordered : start ≤ stop) :
    buffer.segments start stop =
      (rowOffsets buffer.columns start stop).map (List.map buffer.cellAt) := by
  refine row_induction columnsPositive ?last ?next start ordered
  case last =>
    intro start ordered within
    rw [segments_last wide columnsPositive ordered within, rowOffsets_last ordered within,
      List.map_singleton]
  case next =>
    intro start more inductionHypothesis
    rw [segments_next wide columnsPositive more, rowOffsets_next columnsPositive more,
      List.map_cons, inductionHypothesis]

/-! ## Every character -/

/-- The characters of the offsets from `start` to `stop`, with an end of line
before each offset after the first that begins a row. -/
def brokenText (buffer : ScreenBuffer) (start stop : Nat) : List Char :=
  (offsets start stop).flatMap fun offset =>
    if start < offset ∧ buffer.columns ∣ offset then ['\n', (buffer.cellAt offset).char]
    else [(buffer.cellAt offset).char]

/-- The same of a list of offsets none of which is the first. -/
def brokenRest (buffer : ScreenBuffer) (rest : List Nat) : List Char :=
  rest.flatMap fun offset =>
    if buffer.columns ∣ offset then ['\n', (buffer.cellAt offset).char]
    else [(buffer.cellAt offset).char]

theorem brokenRest_append (first second : List Nat) :
    buffer.brokenRest (first ++ second) =
      buffer.brokenRest first ++ buffer.brokenRest second :=
  List.flatMap_append

theorem brokenRest_cons
    {offset : Nat}
    (begins : buffer.columns ∣ offset)
    (rest : List Nat) :
    buffer.brokenRest (offset :: rest) =
      '\n' :: (buffer.cellAt offset).char :: buffer.brokenRest rest := by
  rw [brokenRest, List.flatMap_cons, if_pos begins]
  rfl

theorem brokenText_eq
    (ordered : start ≤ stop) :
    buffer.brokenText start stop =
      (buffer.cellAt start).char ::
        buffer.brokenRest (List.range' (start + 1) (stop - start)) := by
  have count : stop + 1 - start = stop - start + 1 := by omega
  rw [brokenText, offsets, count, List.range'_succ, List.flatMap_cons, brokenRest]
  simp only [Nat.lt_irrefl, false_and, if_false, List.singleton_append, List.cons.injEq, true_and]
  apply List.flatMap_congr
  intro offset member
  have after : start < offset := by
    have bounds := List.mem_range'_1.mp member
    omega
  simp only [after, true_and]

/-- Within a row nothing is put between the characters. -/
theorem map_char_of_row
    {count : Nat}
    (within : start + count < nextRow buffer.columns start) :
    ((List.range' start (count + 1)).map buffer.cellAt).map Cell.char =
      (buffer.cellAt start).char :: buffer.brokenRest (List.range' (start + 1) count) := by
  rw [List.range'_succ, List.map_cons, List.map_cons, List.map_map, brokenRest,
    List.map_eq_flatMap]
  congr 1
  apply List.flatMap_congr
  intro offset member
  obtain ⟨after, before⟩ := List.mem_range'_1.mp member
  have inRow : offset % buffer.columns ≠ 0 := mod_ne_zero_of_lt_nextRow after (by omega)
  rw [if_neg (mt Nat.mod_eq_zero_of_dvd inRow), Function.comp_apply]

end ScreenBuffer

theorem Export.raw_cons (segment : List Cell) {others : List (List Cell)} (some : others ≠ []) :
    raw (segment :: others) = segment.map Cell.char ++ '\n' :: raw others := by
  rw [raw]
  exact some

namespace ScreenBuffer

variable {buffer : ScreenBuffer} {start stop : Nat}

theorem raw_rowOffsets
    (columnsPositive : 0 < buffer.columns)
    (ordered : start ≤ stop) :
    Export.raw ((rowOffsets buffer.columns start stop).map (List.map buffer.cellAt)) =
      buffer.brokenText start stop := by
  rw [brokenText_eq ordered]
  refine row_induction columnsPositive ?last ?next start ordered
  case last =>
    intro start ordered within
    have count : stop + 1 - start = stop - start + 1 := by omega
    rw [rowOffsets_last ordered within, List.map_singleton, Export.raw, offsets, count,
      map_char_of_row (by omega)]
  case next =>
    intro start more inductionHypothesis
    have further := lt_nextRow columnsPositive start
    have othersLeft :
        (rowOffsets buffer.columns (nextRow buffer.columns start) stop).map
            (List.map buffer.cellAt) ≠ [] :=
      mt List.map_eq_nil_iff.mp (rowOffsets_ne_nil more)
    obtain ⟨count, countEq⟩ := Nat.exists_eq_add_of_lt further
    have row : nextRow buffer.columns start - start = count + 1 := by omega
    have rest : stop - start = count + (stop - nextRow buffer.columns start + 1) := by omega
    have restAt : start + 1 + count = nextRow buffer.columns start := by omega
    have begins : buffer.columns ∣ nextRow buffer.columns start :=
      Nat.dvd_of_mod_eq_zero (nextRow_mod _ _)
    calc
      Export.raw ((rowOffsets buffer.columns start stop).map (List.map buffer.cellAt))
        = (buffer.cellAt start).char :: buffer.brokenRest (List.range' (start + 1) count) ++
            '\n' :: (buffer.cellAt (nextRow buffer.columns start)).char ::
              buffer.brokenRest
                (List.range' (nextRow buffer.columns start + 1)
                  (stop - nextRow buffer.columns start)) := by
        rw [rowOffsets_next columnsPositive more, List.map_cons, Export.raw_cons _ othersLeft, row,
          map_char_of_row (by omega), inductionHypothesis]
      _ = (buffer.cellAt start).char ::
            buffer.brokenRest (List.range' (start + 1) (stop - start)) := by
        rw [rest, ← List.range'_append_1, restAt, List.range'_succ, brokenRest_append,
          brokenRest_cons begins, List.cons_append]

/-! ## Lines without the spaces at their ends -/

/-- A line without the spaces at its end, and an end of line if there are
any. -/
def trimmedLine (line : List Char) : List Char :=
  let kept := line.rdropWhile (· == ' ')
  kept ++ if kept = line then [] else ['\n']

/-- The characters of the offsets from `start` to `stop`, cut where a row
begins, and each piece trimmed. -/
def trimmedText (buffer : ScreenBuffer) (start stop : Nat) : List Char :=
  (rowOffsets buffer.columns start stop).flatMap fun row =>
    trimmedLine (row.map fun offset => (buffer.cellAt offset).char)

end ScreenBuffer

namespace Text

/-- Every end of line written as a carriage return and a line feed. -/
def withReturns (text : List Char) : List Char :=
  text.flatMap fun char => if char = '\n' then ['\r', '\n'] else [char]

theorem withReturns_of_unbroken {text : List Char} (unbroken : '\n' ∉ text) :
    withReturns text = text := by
  induction text with
  | nil => rfl
  | cons char rest inductionHypothesis =>
      rw [List.mem_cons, not_or] at unbroken
      rw [withReturns, List.flatMap_cons, ← withReturns, if_neg (Ne.symm unbroken.1),
        inductionHypothesis unbroken.2, List.singleton_append]

theorem withReturns_append (first second : List Char) :
    withReturns (first ++ second) = withReturns first ++ withReturns second :=
  List.flatMap_append

end Text

namespace Export

theorem plainSegment_lineFeed (segment : List Cell) :
    plainSegment ['\n'] segment = ScreenBuffer.trimmedLine (segment.map Cell.char) := by
  have kept :
      (segment.map Cell.char).rdropWhile (· == ' ') =
        (Text.trimEnd (fun cell => cell.char == ' ') segment).map Cell.char :=
    Text.trimEnd_map (· == ' ') Cell.char segment
  have whole :
      (Text.trimEnd (fun cell => cell.char == ' ') segment).map Cell.char =
          segment.map Cell.char ↔
        ¬(Text.trimEnd (fun cell => cell.char == ' ') segment).length < segment.length := by
    constructor
    · intro same shorter
      have lengths := congrArg List.length same
      rw [List.length_map, List.length_map] at lengths
      omega
    · intro notShorter
      rw [Text.trimEnd_isPrefix.eq_of_length_le (Nat.not_lt.mp notShorter)]
  rw [ScreenBuffer.trimmedLine, kept, plainSegment]
  simp only [whole, ite_not]

theorem plainSegment_returns
    {segment : List Cell}
    (unbroken : ∀ cell ∈ segment, cell.char ≠ '\n') :
    plainSegment ['\r', '\n'] segment = Text.withReturns (plainSegment ['\n'] segment) := by
  have kept : '\n' ∉ (Text.trimEnd (fun cell => cell.char == ' ') segment).map Cell.char := by
    intro member
    obtain ⟨cell, cellMember, char⟩ := List.mem_map.mp member
    exact unbroken cell (Text.mem_of_mem_trimEnd cellMember) char
  rw [plainSegment, plainSegment, Text.withReturns_append, Text.withReturns_of_unbroken kept]
  split <;> rfl

end Export

namespace ScreenBuffer

variable {buffer : ScreenBuffer} {start stop : Nat}

theorem plain_rowOffsets :
    Export.plain ['\n'] ((rowOffsets buffer.columns start stop).map (List.map buffer.cellAt)) =
      buffer.trimmedText start stop := by
  rw [Export.plain, List.flatMap_map, trimmedText]
  apply List.flatMap_congr
  intro row _
  rw [Export.plainSegment_lineFeed, List.map_map]
  rfl

theorem plain_returns
    {segments : List (List Cell)}
    (unbroken : ∀ segment ∈ segments, ∀ cell ∈ segment, cell.char ≠ '\n') :
    Export.plain ['\r', '\n'] segments = Text.withReturns (Export.plain ['\n'] segments) := by
  induction segments with
  | nil => rfl
  | cons segment others inductionHypothesis =>
      have later := inductionHypothesis fun other member =>
        unbroken other (List.mem_cons_of_mem segment member)
      rw [Export.plain, Export.plain, List.flatMap_cons, List.flatMap_cons,
        Text.withReturns_append, Export.plainSegment_returns (unbroken segment List.mem_cons_self)]
      exact congrArg _ later

/-! ## Exports by offsets -/

theorem columns_pos (inside : stop < buffer.composedSize * buffer.columns) :
    0 < buffer.columns := by
  by_contra none
  rw [Nat.eq_zero_of_not_pos none] at inside
  exact Nat.not_lt_zero _ inside

theorem exportRange_eq_rowOffsets
    (wide : ∀ row < buffer.composedSize,
      buffer.columns ≤ (buffer.composedRow row).cells.length)
    (ordered : start ≤ stop)
    (inside : stop < buffer.composedSize * buffer.columns)
    (palette : Palette) (format : Export.Format) :
    buffer.exportRange palette start stop format =
      .ok (String.ofList
        (writeSegments palette
          ((rowOffsets buffer.columns start stop).map (List.map buffer.cellAt)) format)) := by
  have wideRows : ∀ row ≤ stop / buffer.columns,
      buffer.columns ≤ (buffer.composedRow row).cells.length := by
    intro row atMost
    have last := Nat.div_lt_of_lt_mul (Nat.mul_comm _ buffer.columns ▸ inside)
    exact wide row (by omega)
  rw [exportRange_of_valid ordered inside,
    segments_eq_map_rowOffsets wideRows (columns_pos inside) ordered]

theorem mem_offsets {offset : Nat} (ordered : start ≤ stop) :
    offset ∈ offsets start stop ↔ start ≤ offset ∧ offset ≤ stop := by
  rw [offsets, List.mem_range'_1]
  omega

/-- An export covers exactly the offsets from `start` to `stop`. It fails if
and only if they are out of order or not all of them are offsets of composed
cells. Otherwise the raw export holds the character of every offset, in order,
with an end of line before each offset after the first that begins a row; the
text export is that sequence cut at the same places, with each piece trimmed;
and where no cell holds an end of line, the text with returns is that text with
a return before every end of line. No row is narrower than the buffer, as in
every buffer that is `Shaped`. -/
theorem exportRange_by_offsets
    (wide : ∀ row < buffer.composedSize,
      buffer.columns ≤ (buffer.composedRow row).cells.length)
    (palette : Palette) (start stop : Nat) :
    (∀ format error,
      buffer.exportRange palette start stop format = .error error ↔
        (start > stop ∨ stop ≥ buffer.composedSize * buffer.columns) ∧
          error = .outOfRange start stop (buffer.composedSize * buffer.columns)) ∧
      (start ≤ stop → stop < buffer.composedSize * buffer.columns →
        buffer.exportRange palette start stop .raw =
            .ok (String.ofList (buffer.brokenText start stop)) ∧
          buffer.exportRange palette start stop .text =
            .ok (String.ofList (buffer.trimmedText start stop)) ∧
          ((∀ offset, start ≤ offset → offset ≤ stop → (buffer.cellAt offset).char ≠ '\n') →
            buffer.exportRange palette start stop .textCrlf =
              .ok (String.ofList (Text.withReturns (buffer.trimmedText start stop))))) := by
  constructor
  · intro format error
    rw [exportRange]
    split
    · next outside =>
        rw [Except.error.injEq]
        exact ⟨fun same => ⟨outside, same.symm⟩, fun same => same.2.symm⟩
    · next inside =>
        constructor
        · intro same
          cases same
        · intro fails
          exact absurd fails.1 inside
  · intro ordered inside
    simp only [exportRange_eq_rowOffsets wide ordered inside, writeSegments]
    refine ⟨?_, ?_, fun unbroken => ?_⟩
    · rw [raw_rowOffsets (columns_pos inside) ordered]
    · rw [plain_rowOffsets]
    · rw [plain_returns, plain_rowOffsets]
      intro segment member cell cellMember
      obtain ⟨row, rowMember, rfl⟩ := List.mem_map.mp member
      obtain ⟨offset, offsetMember, rfl⟩ := List.mem_map.mp cellMember
      have given : offset ∈ offsets start stop := by
        rw [← List.flatten_splitBy (fun _ next => next % buffer.columns != 0) (offsets start stop)]
        exact List.mem_flatten_of_mem rowMember offsetMember
      obtain ⟨after, before⟩ := (mem_offsets ordered).mp given
      exact unbroken offset after before

/-- Three rows in a ring that does not begin at its first slot, from the middle
of the first to the middle of the last; and two ranges that are none. -/
theorem exportRange_by_offsets_three_rows :
    let row (text : String) : Row := { cells := text.toList.map fun char => { char } }
    let buffer : ScreenBuffer :=
      { columns := 3, lines := 2, historyLimit := 1, alternate := #[]
        ring := { slots := #[row "gh ", row "abc", row "d  "], start := 1 } }
    (∀ row < buffer.composedSize,
        buffer.columns ≤ (buffer.composedRow row).cells.length) ∧
      buffer.exportRange {} 1 7 .raw = .ok "bc\nd  \ngh" ∧
      buffer.exportRange {} 1 7 .text = .ok "bcd\ngh" ∧
      buffer.exportRange {} 1 7 .textCrlf = .ok "bcd\r\ngh" ∧
      buffer.exportRange {} 4 3 .html = .error (.outOfRange 4 3 9) ∧
      buffer.exportRange {} 4 9 .raw = .error (.outOfRange 4 9 9) := by
  intro row buffer
  have wide : ∀ row < buffer.composedSize,
      buffer.columns ≤ (buffer.composedRow row).cells.length := by
    decide +kernel
  have unbroken : ∀ offset < 8, (buffer.cellAt offset).char ≠ '\n' := by decide +kernel
  obtain ⟨rawEq, textEq, returnsEq⟩ :=
    (exportRange_by_offsets wide {} 1 7).2 (by decide) (by decide +kernel)
  refine ⟨wide, rawEq.trans (by decide +kernel), textEq.trans (by decide +kernel), ?_, ?_, ?_⟩
  · exact (returnsEq fun offset _ before => unbroken offset (by omega)).trans (by decide +kernel)
  · exact ((exportRange_by_offsets wide {} 4 3).1 .html _).mpr ⟨Or.inl (by decide), rfl⟩
  · exact ((exportRange_by_offsets wide {} 4 9).1 .raw _).mpr ⟨Or.inr (by decide +kernel), rfl⟩

end ScreenBuffer

end VideoTerminal
