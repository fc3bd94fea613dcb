import VideoTerminal.Proofs.ExportedOffsets

/-!
The cells that the styled exports leave out. Both writers write the same cells
and the same ends of lines: of every row those up to the last that is more than
a space on the default background or is in reverse video. What they leave out
looks empty, but for spaces that are underlined.
-/

namespace VideoTerminal

namespace Text

theorem trimEnd_cons {alpha : Type} (drop : alpha → Bool) (item : alpha) (rest : List alpha) :
    trimEnd drop (item :: rest) =
      if (item :: rest).all drop then [] else item :: trimEnd drop rest := by
  rw [trimEnd, trimEnd, List.reverse_cons, List.dropWhile_append, List.all_cons]
  by_cases allRest : rest.all drop = true
  · have nothing : rest.reverse.dropWhile drop = [] := by
      rw [List.dropWhile_eq_nil_iff]
      exact fun other member => List.all_eq_true.mp allRest other (List.mem_reverse.mp member)
    rw [nothing, allRest, Bool.and_true]
    cases dropped : drop item with
    | false => simp [dropped]
    | true => simp [dropped]
  · have more : (rest.reverse.dropWhile drop).isEmpty = false := by
      rw [List.isEmpty_eq_false_iff]
      intro nothing
      rw [List.dropWhile_eq_nil_iff] at nothing
      exact allRest (List.all_eq_true.mpr fun other member =>
        nothing other (List.mem_reverse.mpr member))
    rw [Bool.not_eq_true] at allRest
    rw [more, allRest, Bool.and_false, if_neg Bool.false_ne_true, if_neg Bool.false_ne_true,
      List.reverse_append, List.reverse_singleton, List.singleton_append]

end Text

/-- A space on the default background, neither in reverse video nor underlined:
nothing of it can be told from a cell in which nothing was written. -/
def Cell.LooksEmpty (cell : Cell) : Prop :=
  cell.char = ' ' ∧ cell.rendition.background = .default ∧
    cell.rendition.reverse = false ∧ cell.rendition.underline = false

instance (cell : Cell) : Decidable cell.LooksEmpty :=
  inferInstanceAs (Decidable (_ ∧ _ ∧ _ ∧ _))

namespace Export

variable {style : Type} {write : style → Cell → style × List Char} {newline : List Char}

theorem invisible_iff {cell : Cell} :
    invisible cell = true ↔
      cell.char = ' ' ∧ cell.rendition.background = .default ∧
        cell.rendition.reverse = false := by
  rw [invisible, Bool.and_eq_true, Bool.and_eq_true, beq_iff_eq, beq_iff_eq, Bool.not_eq_true',
    and_assoc]

/-! ## Transcripts -/

/-- Write cells and ends of lines, all of them and in this order. -/
def transcribe (write : style → Cell → style × List Char) (newline : List Char) :
    style → List (Option Cell) → style × List Char
  | current, [] => (current, [])
  | current, none :: rest =>
      let (final, text) := transcribe write newline current rest
      (final, newline ++ text)
  | current, some cell :: rest =>
      let (next, here) := write current cell
      let (final, text) := transcribe write newline next rest
      (final, here ++ text)

/-- Cells and ends of lines as text for a terminal. -/
def ansiTranscript (items : List (Option Cell)) : List Char :=
  let (final, text) := transcribe ansiCell ['\r', '\n'] {} items
  text ++ if final = {} then [] else "\x1b[0m".toList

/-- Cells and ends of lines as markup. -/
def htmlTranscript (palette : Palette) (items : List (Option Cell)) : List Char :=
  let (final, text) := transcribe (htmlCell palette) ['\n'] none items
  "<pre style=\"".toList ++ (colourStyle palette.foreground palette.background).toList ++
    "\">".toList ++ text ++ closeSpan final ++ "</pre>".toList

/-- What is written of a segment: the cells that can be seen, and an end of
line if that leaves any out. -/
def segmentItems (segment : List Cell) : List (Option Cell) :=
  (visible segment).map some ++ if (visible segment).length < segment.length then [none] else []

theorem transcribe_append (current : style) (first second : List (Option Cell)) :
    transcribe write newline current (first ++ second) =
      ((transcribe write newline (transcribe write newline current first).1 second).1,
        (transcribe write newline current first).2 ++
          (transcribe write newline (transcribe write newline current first).1 second).2) := by
  induction first generalizing current with
  | nil => rfl
  | cons item rest inductionHypothesis =>
      cases item with
      | none => simp only [List.cons_append, transcribe, inductionHypothesis, List.append_assoc]
      | some cell =>
          simp only [List.cons_append, transcribe, inductionHypothesis, List.append_assoc]

theorem transcribe_map_some (current : style) (cells : List Cell) :
    transcribe write newline current (cells.map some) = writeCells write current cells := by
  induction cells generalizing current with
  | nil => rfl
  | cons cell rest inductionHypothesis =>
      simp only [List.map_cons, transcribe, writeCells, inductionHypothesis]

theorem transcribe_segmentItems (current : style) (segment : List Cell) :
    transcribe write newline current (segmentItems segment) =
      styledSegment write newline current segment := by
  rw [styledSegment_eq, segmentItems, transcribe_append, transcribe_map_some]
  split
  · simp only [transcribe, List.append_nil]
  · rfl

theorem styled_eq_transcribe (current : style) (segments : List (List Cell)) :
    styled write newline current segments =
      transcribe write newline current (segments.flatMap segmentItems) := by
  induction segments generalizing current with
  | nil => rfl
  | cons segment others inductionHypothesis =>
      rw [styled, List.flatMap_cons, transcribe_append, transcribe_segmentItems,
        ← inductionHypothesis]

theorem ansi_eq_transcript (segments : List (List Cell)) :
    ansi segments = ansiTranscript (segments.flatMap segmentItems) := by
  rw [ansi, ansiTranscript, styled_eq_transcribe]

theorem html_eq_transcript (palette : Palette) (segments : List (List Cell)) :
    html palette segments = htmlTranscript palette (segments.flatMap segmentItems) := by
  unfold html htmlTranscript
  rw [styled_eq_transcribe]

end Export

namespace ScreenBuffer

variable {buffer : ScreenBuffer} {start stop : Nat}

/-! ## Cells that are left out -/

/-- The offset after the last one in the row of an offset, or after the last
one of the range if that comes before. -/
def rowEnd (columns stop offset : Nat) : Nat :=
  min (stop + 1) (nextRow columns offset)

/-- The cell of an offset, and all that follow it in its row up to the end of
the range, are spaces on the default background and not in reverse video. -/
def leftOut (buffer : ScreenBuffer) (stop offset : Nat) : Bool :=
  (List.range' offset (rowEnd buffer.columns stop offset - offset)).all fun later =>
    Export.invisible (buffer.cellAt later)

/-- The cells of a row that are not left out, and an end of line if any are. -/
def rowItems (buffer : ScreenBuffer) (stop : Nat) (row : List Nat) : List (Option Cell) :=
  (row.filter fun offset => !buffer.leftOut stop offset).map (fun offset =>
    some (buffer.cellAt offset)) ++
    if row.any (buffer.leftOut stop) then [none] else []

/-- What is written of a range: of each row the cells that are not left out,
and an end of line if any are. -/
def transcript (buffer : ScreenBuffer) (start stop : Nat) : List (Option Cell) :=
  (rowOffsets buffer.columns start stop).flatMap (buffer.rowItems stop)

theorem rowEnd_of_row
    {columns offset : Nat}
    (after : start ≤ offset)
    (before : offset < nextRow columns start) :
    rowEnd columns stop offset = rowEnd columns stop start := by
  rw [rowEnd, nextRow, div_eq_of_lt_nextRow after before, ← nextRow, ← rowEnd]

theorem leftOut_cons
    {offset count : Nat}
    (ends : rowEnd buffer.columns stop offset = offset + (count + 1)) :
    buffer.leftOut stop offset =
      ((List.range' offset (count + 1)).map buffer.cellAt).all Export.invisible := by
  rw [leftOut, ends, Nat.add_sub_cancel_left, List.all_map]
  rfl

/-- Cells that reach to the end of a row are seen up to the first one that is
left out. -/
theorem visible_eq_filter
    {count : Nat}
    (ends : ∀ offset ∈ List.range' start count,
      rowEnd buffer.columns stop offset = start + count) :
    Export.visible ((List.range' start count).map buffer.cellAt) =
      ((List.range' start count).filter fun offset => !buffer.leftOut stop offset).map
        buffer.cellAt := by
  induction count generalizing start with
  | zero => rfl
  | succ count inductionHypothesis =>
      have here := leftOut_cons (ends start (by simp))
      have endsLater : ∀ offset ∈ List.range' (start + 1) count,
          rowEnd buffer.columns stop offset = start + 1 + count := by
        intro offset member
        rw [List.range'_succ] at ends
        rw [ends offset (List.mem_cons_of_mem start member)]
        omega
      have later := inductionHypothesis endsLater
      rw [List.range'_succ, List.map_cons] at here ⊢
      rw [Export.visible, Text.trimEnd_cons, ← here, ← Export.visible, List.filter_cons]
      cases left : buffer.leftOut stop start with
      | false =>
          rw [later]
          rfl
      | true =>
          -- All that follows is invisible too, so that nothing of it is kept.
          have all := here.symm.trans left
          rw [List.all_cons, Bool.and_eq_true, List.all_eq_true] at all
          have nothing := Text.trimEnd_of_all all.2
          rw [← Export.visible, later] at nothing
          exact nothing.symm

/-- What is written of the cells of a row. -/
theorem segmentItems_row
    {count : Nat}
    (ends : ∀ offset ∈ List.range' start count,
      rowEnd buffer.columns stop offset = start + count) :
    Export.segmentItems ((List.range' start count).map buffer.cellAt) =
      buffer.rowItems stop (List.range' start count) := by
  have shorter :
      ((List.range' start count).filter fun offset => !buffer.leftOut stop offset).length <
          (List.range' start count).length ↔
        (List.range' start count).any (buffer.leftOut stop) = true := by
    rw [List.length_filter_lt_length_iff_exists, List.any_eq_true]
    simp only [Bool.not_eq_true', Bool.not_eq_false]
  rw [Export.segmentItems, visible_eq_filter ends, List.length_map, List.length_map, rowItems,
    List.map_map]
  simp only [shorter]
  rfl

theorem segmentItems_rowOffsets
    (columnsPositive : 0 < buffer.columns)
    (ordered : start ≤ stop) :
    ((rowOffsets buffer.columns start stop).map (List.map buffer.cellAt)).flatMap
        Export.segmentItems =
      buffer.transcript start stop := by
  refine row_induction columnsPositive ?last ?next start ordered
  case last =>
    intro start ordered within
    have ends : ∀ offset ∈ offsets start stop,
        rowEnd buffer.columns stop offset = start + (stop + 1 - start) := by
      intro offset member
      obtain ⟨after, before⟩ := (mem_offsets ordered).mp member
      rw [rowEnd_of_row after (by omega), rowEnd]
      omega
    rw [transcript, rowOffsets_last ordered within, List.map_singleton, List.flatMap_singleton,
      List.flatMap_singleton]
    exact segmentItems_row ends
  case next =>
    intro start more inductionHypothesis
    have ends : ∀ offset ∈ List.range' start (nextRow buffer.columns start - start),
        rowEnd buffer.columns stop offset = start + (nextRow buffer.columns start - start) := by
      intro offset member
      have bounds := List.mem_range'_1.mp member
      rw [rowEnd_of_row bounds.1 (by omega), rowEnd]
      omega
    rw [transcript, rowOffsets_next columnsPositive more, List.map_cons, List.flatMap_cons,
      List.flatMap_cons, segmentItems_row ends, inductionHypothesis, transcript]

theorem invisible_of_leftOut
    {offset : Nat}
    (columnsPositive : 0 < buffer.columns)
    (before : offset ≤ stop)
    (left : buffer.leftOut stop offset = true) :
    Export.invisible (buffer.cellAt offset) = true := by
  have further := lt_nextRow columnsPositive offset
  apply List.all_eq_true.mp left
  rw [List.mem_range'_1, rowEnd]
  omega

/-! ## What is lost -/

/-- Every cell of a range that the styled exports leave out looks empty. -/
def LeavesOutEmpty (buffer : ScreenBuffer) (start stop : Nat) : Prop :=
  ∀ offset, start ≤ offset → offset ≤ stop → buffer.leftOut stop offset = true →
    (buffer.cellAt offset).LooksEmpty

/-- The styled exports write every cell of a range but the runs of spaces at
the ends of its rows that are on the default background and not in reverse
video. So nothing that could be seen is lost just if every underlined cell of
the range is written, that is, no underlined space stands in such a run. No row
is narrower than the buffer, as in every buffer that is `Shaped`. -/
theorem styledExports_leave_out
    (wide : ∀ row < buffer.composedSize,
      buffer.columns ≤ (buffer.composedRow row).cells.length)
    (ordered : start ≤ stop)
    (inside : stop < buffer.composedSize * buffer.columns)
    (palette : Palette) :
    buffer.exportRange palette start stop .ansi =
        .ok (String.ofList (Export.ansiTranscript (buffer.transcript start stop))) ∧
      buffer.exportRange palette start stop .html =
        .ok (String.ofList (Export.htmlTranscript palette (buffer.transcript start stop))) ∧
      (∀ offset, start ≤ offset → offset ≤ stop → buffer.leftOut stop offset = true →
        (buffer.cellAt offset).char = ' ' ∧
          (buffer.cellAt offset).rendition.background = .default ∧
          (buffer.cellAt offset).rendition.reverse = false) ∧
      (buffer.LeavesOutEmpty start stop ↔
        ∀ offset, start ≤ offset → offset ≤ stop →
          (buffer.cellAt offset).rendition.underline = true →
            buffer.leftOut stop offset = false) := by
  have items := segmentItems_rowOffsets (columns_pos inside) ordered
  have unseen {offset : Nat} (before : offset ≤ stop) (left : buffer.leftOut stop offset = true) :=
    Export.invisible_iff.mp (invisible_of_leftOut (columns_pos inside) before left)
  refine ⟨?_, ?_, fun _ _ => unseen, ?_, ?_⟩
  · simp only [exportRange_eq_rowOffsets wide ordered inside, writeSegments,
      Export.ansi_eq_transcript, items]
  · simp only [exportRange_eq_rowOffsets wide ordered inside, writeSegments,
      Export.html_eq_transcript, items]
  · intro empty offset after before underlined
    rw [← Bool.not_eq_true]
    intro left
    obtain ⟨-, -, -, plain⟩ := empty offset after before left
    exact Bool.false_ne_true (plain.symm.trans underlined)
  · intro written offset after before left
    obtain ⟨space, background, unreversed⟩ := unseen before left
    refine ⟨space, background, unreversed, ?_⟩
    rw [← Bool.not_eq_true]
    intro underlined
    exact Bool.false_ne_true ((written offset after before underlined).symm.trans left)

/-- An underlined space before the last character of its row, and one that is
not reached. -/
theorem styledExports_leave_out_two_rows :
    let line : Rendition := { underline := true }
    let rows : List Row :=
      [{ cells := [⟨'a', {}⟩, ⟨' ', line⟩, ⟨'b', { bold := true }⟩, ⟨' ', { blink := true }⟩] },
        { cells := [⟨' ', {}⟩, ⟨' ', {}⟩, ⟨' ', line⟩, {}] }]
    let buffer : ScreenBuffer :=
      { columns := 4, lines := 2, historyLimit := 0, ring := Ring.ofList rows, alternate := #[] }
    (∀ row < buffer.composedSize,
        buffer.columns ≤ (buffer.composedRow row).cells.length) ∧
      buffer.transcript 1 5 = [some ⟨' ', line⟩, some ⟨'b', { bold := true }⟩, none, none] ∧
      buffer.exportRange {} 1 5 .ansi =
        .ok "\x1b[0;4m \x1b[0;1mb\r\n\r\n\x1b[0m" ∧
      buffer.exportRange {} 1 5 .html =
        .ok (String.ofList (Export.htmlTranscript {} (buffer.transcript 1 5))) ∧
      buffer.LeavesOutEmpty 1 5 := by
  intro line rows buffer
  have wide : ∀ row < buffer.composedSize,
      buffer.columns ≤ (buffer.composedRow row).cells.length := by
    decide +kernel
  have ordered : 1 ≤ 5 := by decide
  obtain ⟨ansiEq, htmlEq, -, lossless⟩ :=
    styledExports_leave_out wide ordered (by decide +kernel) {}
  have written : ∀ offset < 6, 1 ≤ offset →
      (buffer.cellAt offset).rendition.underline = true → buffer.leftOut 5 offset = false := by
    decide +kernel
  have items : buffer.transcript 1 5 =
      [some ⟨' ', line⟩, some ⟨'b', { bold := true }⟩, none, none] := by
    decide +kernel
  have text : Export.ansiTranscript (buffer.transcript 1 5) =
      "\x1b[0;4m \x1b[0;1mb\r\n\r\n\x1b[0m".toList := by
    decide +kernel
  rw [text, String.ofList_toList] at ansiEq
  refine ⟨wide, items, ansiEq, htmlEq, lossless.mpr ?_⟩
  intro offset after before
  exact written offset (by omega) after

/-- An underlined space at the end of a row is lost in both exports, though the
letter before it keeps its line. -/
theorem not_leavesOutEmpty_underlined_space :
    let buffer := ((Console.blank 1 2 0).feed "\x1b[4ma ".toList).terminal.buffer
    ¬ buffer.LeavesOutEmpty 0 1 ∧
      (buffer.cellAt 1).rendition.underline = true ∧
      buffer.exportRange {} 0 1 .ansi = .ok "\x1b[0;4ma\r\n\x1b[0m" ∧
      buffer.exportRange {} 0 1 .html =
        .ok ("<pre style=\"color:#c0c0c0;background-color:#000000\">" ++
          "<span style=\"color:#c0c0c0;background-color:#000000;text-decoration:underline\">" ++
          "a\n</span></pre>") := by
  intro buffer
  have underlined : (buffer.cellAt 1).rendition.underline = true := by decide +kernel
  refine ⟨?_, underlined, by decide +kernel, by decide +kernel⟩
  intro empty
  have plain := (empty 1 (by decide) (by decide) (by decide +kernel)).2.2.2
  exact Bool.false_ne_true (plain.symm.trans underlined)

end ScreenBuffer

end VideoTerminal
