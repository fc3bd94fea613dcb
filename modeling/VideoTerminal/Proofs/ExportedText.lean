import VideoTerminal.Proofs.Exporting

/-!
What an export can contain. Since no cell holds a control character, the only
ones that are written are those of the format itself: the ends of lines and,
for a terminal, the sequences that select a rendition.
-/

namespace VideoTerminal

open Text (MadeOf)

namespace Export

/-- A single character that is no control character. -/
def Shown (text : List Char) : Prop :=
  ∃ char, Text.isControl char = false ∧ text = [char]

/-- The parts of a text in a format: single characters, ends of lines, and the
sequences that select a rendition. -/
def Format.Part : Format → List Char → Prop
  | .text, part | .raw, part | .html, part => Shown part ∨ part = ['\n']
  | .textCrlf, part => Shown part ∨ part = ['\r', '\n']
  | .ansi, part => Shown part ∨ part = ['\r', '\n'] ∨ Rendition.Selects part

variable {part : List Char → Prop} {newline : List Char} {segments : List (List Cell)}

theorem madeOf_chars
    {text : List Char}
    (shown : ∀ single, Shown single → part single)
    (none : ∀ char ∈ text, Text.isControl char = false) :
    MadeOf part text :=
  .chars fun char member => shown [char] ⟨char, none char member, rfl⟩

theorem madeOf_style
    {text : List Char}
    (shown : ∀ single, Shown single → part single)
    (style : text.all isStyle = true) :
    MadeOf part text := by
  apply madeOf_chars shown
  intro char member
  have good := List.all_eq_true.mp style char member
  rw [isStyle, Bool.and_eq_true, Bool.not_eq_true'] at good
  exact good.1

theorem madeOf_cells
    {cells : List Cell}
    (shown : ∀ single, Shown single → part single)
    (printable : ∀ cell ∈ cells, cell.Printable) :
    MadeOf part (cells.map Cell.char) := by
  apply madeOf_chars shown
  intro char member
  rcases List.mem_map.mp member with ⟨cell, cellMember, rfl⟩
  exact printable cell cellMember

theorem madeOf_plain
    (shown : ∀ single, Shown single → part single)
    (lineEnd : part newline)
    (printable : ∀ segment ∈ segments, ∀ cell ∈ segment, cell.Printable) :
    MadeOf part (plain newline segments) := by
  induction segments with
  | nil => exact .nil
  | cons segment others inductionHypothesis =>
      have kept :
          MadeOf part ((Text.trimEnd (fun cell => cell.char == ' ') segment).map Cell.char) :=
        madeOf_cells shown fun cell member =>
          printable segment List.mem_cons_self cell (Text.mem_of_mem_trimEnd member)
      have rest := inductionHypothesis fun other member =>
        printable other (List.mem_cons_of_mem segment member)
      rw [plain, List.flatMap_cons, ← plain, plainSegment]
      apply MadeOf.trans _ rest
      apply kept.trans
      split
      · exact .single lineEnd
      · exact .nil

theorem madeOf_raw
    (shown : ∀ single, Shown single → part single)
    (lineEnd : part ['\n'])
    (printable : ∀ segment ∈ segments, ∀ cell ∈ segment, cell.Printable) :
    MadeOf part (raw segments) := by
  induction segments with
  | nil => exact .nil
  | cons segment others inductionHypothesis =>
      have here := madeOf_cells shown (printable segment List.mem_cons_self)
      have rest := inductionHypothesis fun other member =>
        printable other (List.mem_cons_of_mem segment member)
      cases others with
      | nil => exact here
      | cons next later => exact here.trans (.append lineEnd rest)

theorem madeOf_styled
    {style : Type} {write : style → Cell → style × List Char}
    (cell : ∀ (current : style) (each : Cell), each.Printable → MadeOf part (write current each).2)
    (lineEnd : part newline)
    (printable : ∀ segment ∈ segments, ∀ cell ∈ segment, cell.Printable)
    (current : style) :
    MadeOf part (styled write newline current segments).2 := by
  have written :=
    styled_shows (motive := fun _ _ text => MadeOf part text) printable
      (fun current each _ _ good after => (cell current each good).trans after)
      (fun _ _ _ after => .append lineEnd after) current [] [] .nil
  rwa [List.append_nil] at written

theorem madeOf_ansi (printable : ∀ segment ∈ segments, ∀ cell ∈ segment, cell.Printable) :
    MadeOf (Format.Part .ansi) (ansi segments) := by
  have written : MadeOf (Format.Part .ansi) (styled ansiCell ['\r', '\n'] {} segments).2 := by
    have lineEnd : Format.Part .ansi ['\r', '\n'] := Or.inr (Or.inl rfl)
    refine madeOf_styled ?_ lineEnd printable _
    intro current cell good
    have char : Format.Part .ansi [cell.char] := Or.inl ⟨cell.char, good, rfl⟩
    rw [ansiCell]
    split
    · exact .single char
    · exact .append (Or.inr (Or.inr cell.rendition.selects_sequence)) (.single char)
  rw [ansi]
  apply written.trans
  split
  · exact .nil
  · exact .single (Or.inr (Or.inr Rendition.selects_default))

theorem isControl_of_all
    {fixed : String} {char : Char}
    (good : fixed.toList.all (fun char => !Text.isControl char) = true)
    (member : char ∈ fixed.toList) :
    Text.isControl char = false := by
  have none := List.all_eq_true.mp good char member
  rwa [Bool.not_eq_true'] at none

theorem escapeMarkup_printable
    {char each : Char}
    (printable : Text.isControl char = false)
    (member : each ∈ escapeMarkup char) :
    Text.isControl each = false := by
  rw [escapeMarkup] at member
  split at member
  · exact isControl_of_all (by decide) member
  · split at member
    · exact isControl_of_all (by decide) member
    · split at member
      · exact isControl_of_all (by decide) member
      · split at member
        · exact isControl_of_all (by decide) member
        · rw [List.mem_singleton.mp member]
          exact printable

theorem madeOf_fixed
    {fixed : String}
    (shown : ∀ single, Shown single → part single)
    (good : fixed.toList.all (fun char => !Text.isControl char) = true) :
    MadeOf part fixed.toList :=
  madeOf_chars shown fun _ member => isControl_of_all good member

theorem madeOf_openSpan
    (shown : ∀ single, Shown single → part single)
    (palette : Palette) (rendition : Rendition) :
    MadeOf part (openSpan palette rendition) := by
  unfold openSpan
  apply MadeOf.trans
  · apply MadeOf.trans
    · exact madeOf_fixed shown (by decide)
    · exact madeOf_style shown (isStyle_renditionStyle palette rendition)
  · exact madeOf_fixed shown (by decide)

theorem madeOf_closeSpan
    (shown : ∀ single, Shown single → part single)
    (current : Option Rendition) :
    MadeOf part (closeSpan current) := by
  cases current with
  | none => exact .nil
  | some rendition => exact madeOf_fixed shown (by decide)

theorem madeOf_html
    (palette : Palette)
    (printable : ∀ segment ∈ segments, ∀ cell ∈ segment, cell.Printable) :
    MadeOf (Format.Part .html) (html palette segments) := by
  have shown : ∀ single, Shown single → Format.Part .html single := fun _ => Or.inl
  have written : MadeOf (Format.Part .html) (styled (htmlCell palette) ['\n'] none segments).2 := by
    have lineEnd : Format.Part .html ['\n'] := Or.inr rfl
    refine madeOf_styled ?_ lineEnd printable none
    intro current cell good
    have escaped : MadeOf (Format.Part .html) (escapeMarkup cell.char) :=
      madeOf_chars shown fun _ => escapeMarkup_printable good
    rw [htmlCell]
    split
    · exact escaped
    · exact ((madeOf_closeSpan shown current).trans
        (madeOf_openSpan shown palette cell.rendition)).trans escaped
  unfold html
  apply MadeOf.trans
  · apply MadeOf.trans
    · apply MadeOf.trans
      · apply MadeOf.trans
        · apply MadeOf.trans
          · exact madeOf_fixed shown (by decide)
          · exact madeOf_style shown (isStyle_colourStyle palette.foreground palette.background)
        · exact madeOf_fixed shown (by decide)
      · exact written
    · exact madeOf_closeSpan shown _
  · exact madeOf_fixed shown (by decide)

theorem madeOf_writeSegments
    (palette : Palette)
    (printable : ∀ segment ∈ segments, ∀ cell ∈ segment, cell.Printable)
    (format : Format) :
    MadeOf format.Part (ScreenBuffer.writeSegments palette segments format) := by
  cases format with
  | text => exact madeOf_plain (fun _ => Or.inl) (Or.inr rfl) printable
  | textCrlf => exact madeOf_plain (fun _ => Or.inl) (Or.inr rfl) printable
  | raw => exact madeOf_raw (fun _ => Or.inl) (Or.inr rfl) printable
  | ansi => exact madeOf_ansi printable
  | html => exact madeOf_html palette printable

end Export

/-- Whatever was done with a session and whatever it was fed, no cell of its
screens and of its history holds a control character. So the export of every
range of its cells, and that of the selected one, is made of the parts of its
format. -/
theorem Session.cells_and_exports_control_free
    {session : Session}
    (reachable : session.Reachable) :
    (∀ row ∈ session.terminal.buffer.ring.toList ++ session.terminal.buffer.alternate.toList,
      ∀ cell ∈ row.cells, Text.isControl cell.char = false) ∧
    (∀ palette start stop format,
      start ≤ stop →
      stop < session.terminal.buffer.composedSize * session.terminal.buffer.columns →
        ∃ text,
          session.terminal.buffer.exportRange palette start stop format = .ok text ∧
            MadeOf format.Part text.toList) ∧
    ∀ format,
      session.selection ≠ none →
        ∃ text, session.exportSelection format = .ok text ∧ MadeOf format.Part text.toList := by
  have printable : session.terminal.buffer.Printable := reachable.printable
  have exported (palette : Palette) (start stop : Nat) (format : Export.Format)
      (ordered : start ≤ stop)
      (inside : stop < session.terminal.buffer.composedSize * session.terminal.buffer.columns) :
      ∃ text,
        session.terminal.buffer.exportRange palette start stop format = .ok text ∧
          MadeOf format.Part text.toList := by
    refine ⟨_, ScreenBuffer.exportRange_of_valid ordered inside palette format, ?_⟩
    rw [String.toList_ofList]
    exact Export.madeOf_writeSegments palette (fun _ member _ => printable.segments member) format
  refine ⟨?_, exported, ?_⟩
  · intro row member
    rcases List.mem_append.mp member with main | alternate
    · exact printable.ring row main
    · exact printable.alternate row ⟨alternate⟩
  · intro format selected
    have sound := reachable.sound
    obtain ⟨lines, columns, limit, wellFormed⟩ := sound.wellFormed
    rcases Option.ne_none_iff_exists'.mp selected with ⟨selection, given⟩
    have inside := sound.inside selection given
    rw [cellCount, wellFormed.columns_eq, ← wellFormed.shaped.columns_eq] at inside
    rw [exportSelection, given]
    exact exported _ _ _ format selection.start_le_stop inside

/-- A session that is fed an unfinished string, a broken off sequence and
control characters of both sets, in pieces and with a new size in between. -/
theorem Session.cells_and_exports_control_free_hostile :
    let settings : Settings := { lines := 2, columns := 4, historyLimit := 3 }
    let start : Session :=
      { console := { terminal := blankTerminal settings {} }
        blinkPeriod := some 500, blinkDeadline := some 500 }
    let done : List (Nat × Act) :=
      [(0, .call (.feed "a\x1b]0;b\x9b\x00c\x1b".toList)), (1, .call (.feed "d\x07\x1b[1".toList)),
        (2, .resize 3 2), (3, .call (.feed "\x18\x9d\x7f<e\x1bP\x1b[31m&".toList)),
        (4, .abortSequence), (5, .call (.feed "\x85f\x1b[5mg".toList)), (6, .call .selectAll)]
    ofSettings settings = .ok start ∧
      (start.acts done).selection ≠ none ∧
      (∀ format, ∃ text,
        (start.acts done).exportSelection format = .ok text ∧ MadeOf format.Part text.toList) ∧
      ∃ text,
        (start.acts done).terminal.buffer.exportRange {} 1 4 .ansi = .ok text ∧
          MadeOf (Export.Format.Part .ansi) text.toList := by
  intro settings start done
  have begun : ofSettings settings = .ok start := rfl
  have selected : (start.acts done).selection ≠ none := by decide +kernel
  have bound :
      4 < (start.acts done).terminal.buffer.composedSize *
        (start.acts done).terminal.buffer.columns := by
    decide +kernel
  rcases cells_and_exports_control_free ⟨settings, start, done, begun, rfl⟩ with
    ⟨-, ranges, selection⟩
  exact ⟨begun, selected, fun format => selection format selected,
    ranges {} 1 4 .ansi (by decide) bound⟩

end VideoTerminal
