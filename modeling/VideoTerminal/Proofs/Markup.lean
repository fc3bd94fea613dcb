import VideoTerminal.Proofs.Exporting

/-!
The two styled exports side by side. Written as markup, cells become one
element that holds a sequence of elements, none of them in another one; and
without its tags that is the text that is left of the cells written for a
terminal without their sequences. Both writers see the same cells and the same
ends of lines, so that each is taken back by itself.
-/

namespace VideoTerminal

namespace Text

/-! ## Markup taken away -/

/-- Text without its tags, each of which ends at the first sign that closes
one. `inside` says that the text begins in a tag. -/
def stripTags (inside : Bool) : List Char → List Char
  | [] => []
  | char :: rest =>
      if inside then stripTags (char != '>') rest
      else if char = '<' then stripTags true rest
      else char :: stripTags false rest

/-- Text in which each of the four entities is the character it stands for. -/
def decodeEntities : List Char → List Char
  | '&' :: 'a' :: 'm' :: 'p' :: ';' :: rest => '&' :: decodeEntities rest
  | '&' :: 'l' :: 't' :: ';' :: rest => '<' :: decodeEntities rest
  | '&' :: 'g' :: 't' :: ';' :: rest => '>' :: decodeEntities rest
  | '&' :: 'q' :: 'u' :: 'o' :: 't' :: ';' :: rest => '"' :: decodeEntities rest
  | char :: rest => char :: decodeEntities rest
  | [] => []

theorem stripTags_tag {inner : List Char} (unclosed : '>' ∉ inner) (rest : List Char) :
    stripTags false ('<' :: inner ++ '>' :: rest) = stripTags false rest := by
  have inside : stripTags true (inner ++ '>' :: rest) = stripTags false rest := by
    induction inner with
    | nil => rfl
    | cons char more inductionHypothesis =>
        rw [List.mem_cons, not_or] at unclosed
        have goesOn : (char != '>') = true := bne_iff_ne.mpr (Ne.symm unclosed.1)
        rw [List.cons_append, stripTags, if_pos rfl, goesOn, inductionHypothesis unclosed.2]
  exact inside

theorem stripTags_append {text : List Char} (untagged : '<' ∉ text) (rest : List Char) :
    stripTags false (text ++ rest) = text ++ stripTags false rest := by
  induction text with
  | nil => rfl
  | cons char more inductionHypothesis =>
      rw [List.mem_cons, not_or] at untagged
      rw [List.cons_append, stripTags, if_neg Bool.false_ne_true, if_neg (Ne.symm untagged.1),
        inductionHypothesis untagged.2]
      rfl

/-! ## Sequences taken away -/

/-- The number of characters that make a sequence of numbers of what follows an
escape, up to the letter m. -/
def selectionLength? : List Char → Option Nat
  | '[' :: rest =>
      let count := (rest.takeWhile Action.isParameter).length
      if rest[count]? = some 'm' then some (count + 2) else none
  | _ => none

/-- Text without the sequences that select a rendition, and without its first
`skipped` characters. -/
def deleteSelections (skipped : Nat) : List Char → List Char
  | [] => []
  | char :: rest =>
      match skipped with
      | count + 1 => deleteSelections count rest
      | 0 =>
          match if char = '\x1b' then selectionLength? rest else none with
          | some count => deleteSelections count rest
          | none => char :: deleteSelections 0 rest

theorem deleteSelections_length_append (text rest : List Char) :
    deleteSelections text.length (text ++ rest) = deleteSelections 0 rest := by
  induction text with
  | nil => rfl
  | cons char more inductionHypothesis => exact inductionHypothesis

theorem deleteSelections_cons {char : Char} (other : char ≠ '\x1b') (rest : List Char) :
    deleteSelections 0 (char :: rest) = char :: deleteSelections 0 rest := by
  rw [deleteSelections, if_neg other]

theorem deleteSelections_of_selects
    {text : List Char}
    (selects : Rendition.Selects text)
    (rest : List Char) :
    deleteSelections 0 (text ++ rest) = deleteSelections 0 rest := by
  rcases selects with ⟨numbers, digits, rfl⟩
  let parameters := '0' :: numbers.flatMap fun number => ';' :: number
  have all : ∀ char ∈ parameters, Action.isParameter char = true := by
    intro char member
    rcases List.mem_cons.mp member with rfl | later
    · decide
    · rcases List.mem_flatMap.mp later with ⟨number, numberMember, here⟩
      rcases List.mem_cons.mp here with rfl | digit
      · decide
      · rw [Action.isParameter, (digits number numberMember).2 char digit, Bool.true_or]
  have taken :
      (parameters ++ 'm' :: rest).takeWhile Action.isParameter = parameters := by
    rw [List.takeWhile_append_of_pos all, List.takeWhile_cons_of_neg (by decide),
      List.append_nil]
  have found :
      selectionLength? ('[' :: parameters ++ 'm' :: rest) =
        some ('[' :: parameters ++ ['m']).length := by
    have last : (parameters ++ 'm' :: rest)[parameters.length]? = some 'm' := by
      rw [List.getElem?_append_right (Nat.le_refl _), Nat.sub_self]
      rfl
    rw [List.cons_append, selectionLength?, taken, if_pos last]
    simp
  have shape :
      ['\x1b', '[', '0'] ++ numbers.flatMap (fun number => ';' :: number) ++ ['m'] ++ rest =
        '\x1b' :: ('[' :: parameters ++ 'm' :: rest) := by
    simp [parameters]
  rw [shape, deleteSelections, if_pos rfl, found]
  have skipped := deleteSelections_length_append ('[' :: parameters ++ ['m']) rest
  rwa [List.append_assoc] at skipped

end Text

open Text (MadeOf)

namespace Export

variable {segments : List (List Cell)}

/-! ## The shape of markup -/

/-- The character means nothing in markup. -/
def Unmarked (char : Char) : Prop :=
  char ≠ '&' ∧ char ≠ '<' ∧ char ≠ '>' ∧ char ≠ '"'

instance (char : Char) : Decidable (Unmarked char) :=
  inferInstanceAs (Decidable (_ ∧ _ ∧ _ ∧ _))

/-- A part of what is written of the cells: a character that means nothing in
markup, or an entity. -/
def MarkupPart (text : List Char) : Prop :=
  (∃ char, Unmarked char ∧ text = [char]) ∨
    text ∈ ["&amp;".toList, "&lt;".toList, "&gt;".toList, "&quot;".toList]

/-- An element that holds no other one. -/
def IsSpan (text : List Char) : Prop :=
  ∃ style content : List Char,
    style.all isStyle = true ∧ MadeOf MarkupPart content ∧
      text = "<span style=\"".toList ++ style ++ "\">".toList ++ content ++ "</span>".toList

/-- An element that holds ends of lines and then other elements. -/
def IsDocument (text : List Char) : Prop :=
  ∃ style breaks spans : List Char,
    style.all isStyle = true ∧ MadeOf (· = ['\n']) breaks ∧ MadeOf IsSpan spans ∧
      text = "<pre style=\"".toList ++ style ++ "\">".toList ++ breaks ++ spans ++ "</pre>".toList

/-- What is written once a run of cells is open, or none is: the run is closed,
and other elements follow. -/
def Completes : Option Rendition → List Char → Prop
  | none, text =>
      ∃ breaks spans, MadeOf (· = ['\n']) breaks ∧ MadeOf IsSpan spans ∧ text = breaks ++ spans
  | some _, text =>
      ∃ content spans,
        MadeOf MarkupPart content ∧ MadeOf IsSpan spans ∧
          text = content ++ "</span>".toList ++ spans

theorem markupPart_escapeMarkup (char : Char) : MarkupPart (escapeMarkup char) := by
  unfold escapeMarkup
  split
  · exact Or.inr (by simp)
  · next noAmpersand =>
      split
      · exact Or.inr (by simp)
      · next noLess =>
          split
          · exact Or.inr (by simp)
          · next noGreater =>
              split
              · exact Or.inr (by simp)
              · next noQuote =>
                  exact Or.inl ⟨char, ⟨noAmpersand, noLess, noGreater, noQuote⟩, rfl⟩

theorem completes_htmlCell
    {palette : Palette} {current : Option Rendition} {cell : Cell} {text : List Char}
    (after : Completes (htmlCell palette current cell).1 text) :
    Completes current ((htmlCell palette current cell).2 ++ text) := by
  have escaped : MadeOf MarkupPart (escapeMarkup cell.char) :=
    .single (markupPart_escapeMarkup cell.char)
  by_cases same : current = some cell.rendition
  · rw [htmlCell, if_pos same] at after ⊢
    subst same
    rcases after with ⟨content, spans, inner, later, rfl⟩
    exact ⟨escapeMarkup cell.char ++ content, spans, escaped.trans inner, later, by simp⟩
  · rw [htmlCell, if_neg same] at after ⊢
    rcases after with ⟨content, spans, inner, later, rfl⟩
    have opened :
        MadeOf IsSpan
          (openSpan palette cell.rendition ++ (escapeMarkup cell.char ++ content) ++
            "</span>".toList ++ spans) := by
      refine .append ?_ later
      exact ⟨(renditionStyle palette cell.rendition).toList, escapeMarkup cell.char ++ content,
        isStyle_renditionStyle palette cell.rendition, escaped.trans inner, rfl⟩
    cases current with
    | none =>
        have closed : closeSpan none = [] := rfl
        refine ⟨[], _, .nil, opened, ?_⟩
        simp only [closed, List.append_assoc, List.nil_append]
    | some rendition =>
        have closed : closeSpan (some rendition) = "</span>".toList := rfl
        refine ⟨[], _, .nil, opened, ?_⟩
        simp only [closed, List.append_assoc, List.nil_append]

theorem completes_lineEnd
    {current : Option Rendition} {text : List Char}
    (after : Completes current text) :
    Completes current (['\n'] ++ text) := by
  have unmarked : MarkupPart ['\n'] := Or.inl ⟨'\n', by decide, rfl⟩
  cases current with
  | none =>
      rcases after with ⟨breaks, spans, ends, later, rfl⟩
      exact ⟨['\n'] ++ breaks, spans, .append rfl ends, later, by simp⟩
  | some rendition =>
      rcases after with ⟨content, spans, inner, later, rfl⟩
      exact ⟨['\n'] ++ content, spans, .append unmarked inner, later, by simp⟩

theorem completes_closeSpan (final : Option Rendition) : Completes final (closeSpan final) := by
  cases final with
  | none => exact ⟨[], [], .nil, .nil, rfl⟩
  | some rendition => exact ⟨[], [], .nil, .nil, rfl⟩

theorem isDocument_html
    (palette : Palette)
    (printable : ∀ segment ∈ segments, ∀ cell ∈ segment, cell.Printable) :
    IsDocument (html palette segments) := by
  have written :=
    styled_shows (motive := fun current _ text => Completes current text) printable
      (fun _ _ _ _ _ after => completes_htmlCell after)
      (fun _ _ _ after => completes_lineEnd after) none [] _
      (completes_closeSpan (styled (htmlCell palette) ['\n'] none segments).1)
  rcases written with ⟨breaks, spans, ends, elements, same⟩
  refine ⟨(colourStyle palette.foreground palette.background).toList, breaks, spans,
    isStyle_colourStyle palette.foreground palette.background, ends, elements, ?_⟩
  unfold html
  simp only [List.append_assoc] at same ⊢
  rw [← List.append_assoc breaks, ← same, List.append_assoc]

/-! ## The text that is left -/

/-- What is left of markup. -/
def markupText (text : List Char) : List Char :=
  Text.decodeEntities (Text.stripTags false text)

/-- What is left of text for a terminal. -/
def terminalText (text : List Char) : List Char :=
  (Text.deleteSelections 0 text).filter (· != '\r')

theorem markupText_escapeMarkup (char : Char) (rest : List Char) :
    markupText (escapeMarkup char ++ rest) = char :: markupText rest := by
  unfold markupText escapeMarkup
  split
  · next same =>
      subst same
      rw [Text.stripTags_append (by decide)]
      rfl
  · next noAmpersand =>
      split
      · next same =>
          subst same
          rw [Text.stripTags_append (by decide)]
          rfl
      · next noLess =>
          split
          · next same =>
              subst same
              rw [Text.stripTags_append (by decide)]
              rfl
          · split
            · next same =>
                subst same
                rw [Text.stripTags_append (by decide)]
                rfl
            · rw [Text.stripTags_append (by simpa using Ne.symm noLess), List.singleton_append,
                Text.decodeEntities]
              all_goals
                rintro rest rfl
                exact absurd rfl noAmpersand

theorem markupText_tag {inner : List Char} (unclosed : '>' ∉ inner) (rest : List Char) :
    markupText ('<' :: inner ++ '>' :: rest) = markupText rest := by
  rw [markupText, Text.stripTags_tag unclosed, ← markupText]

/-- A style closes no tag. -/
theorem not_mem_of_isStyle {style : List Char} (good : style.all isStyle = true) : '>' ∉ style := by
  intro member
  exact absurd (List.all_eq_true.mp good '>' member) (by decide)

theorem markupText_styled
    {style name : List Char}
    (good : style.all isStyle = true)
    (unclosed : '>' ∉ name)
    (rest : List Char) :
    markupText ('<' :: name ++ style ++ "\">".toList ++ rest) = markupText rest := by
  have inner : '>' ∉ name ++ style ++ ['"'] := by
    simp [unclosed, not_mem_of_isStyle good]
  have tag := markupText_tag inner rest
  simpa using tag

theorem markupText_closeSpan (current : Option Rendition) (rest : List Char) :
    markupText (closeSpan current ++ rest) = markupText rest := by
  cases current with
  | none => rfl
  | some rendition =>
      have inner : '>' ∉ "/span".toList := by decide
      exact markupText_tag inner rest

theorem markupText_htmlCell
    (palette : Palette) (current : Option Rendition) (cell : Cell) (rest : List Char) :
    markupText ((htmlCell palette current cell).2 ++ rest) = cell.char :: markupText rest := by
  rw [htmlCell]
  split
  · exact markupText_escapeMarkup cell.char rest
  · have name : '>' ∉ "span style=\"".toList := by decide
    have opened :=
      markupText_styled (isStyle_renditionStyle palette cell.rendition) name
        (escapeMarkup cell.char ++ rest)
    rw [List.append_assoc, List.append_assoc, markupText_closeSpan]
    exact opened.trans (markupText_escapeMarkup cell.char rest)

theorem markupText_html
    (palette : Palette)
    (printable : ∀ segment ∈ segments, ∀ cell ∈ segment, cell.Printable) :
    markupText (html palette segments) = visibleText segments := by
  have lineEnd (rest : List Char) : markupText (['\n'] ++ rest) = '\n' :: markupText rest :=
    markupText_escapeMarkup '\n' rest
  have written :=
    styled_shows (motive := fun _ seen text => markupText text = seen) printable
      (fun current each _ text _ after =>
        (markupText_htmlCell palette current each text).trans (congrArg _ after))
      (fun _ _ text after => (lineEnd text).trans (congrArg _ after)) none []
      (closeSpan (styled (htmlCell palette) ['\n'] none segments).1 ++ "</pre>".toList)
      (markupText_closeSpan _ _)
  have name : '>' ∉ "pre style=\"".toList := by decide
  have opened :=
    markupText_styled (isStyle_colourStyle palette.foreground palette.background) name
      ((styled (htmlCell palette) ['\n'] none segments).2 ++
        (closeSpan (styled (htmlCell palette) ['\n'] none segments).1 ++ "</pre>".toList))
  rw [List.append_nil] at written
  rw [← written, ← opened]
  unfold html
  simp only [List.append_assoc]
  rfl

theorem terminalText_cons
    {char : Char}
    (shown : Text.isControl char = false)
    (rest : List Char) :
    terminalText (char :: rest) = char :: terminalText rest := by
  have noEscape : char ≠ '\x1b' := by
    rintro rfl
    exact absurd shown (by decide)
  have noReturn : (char != '\r') = true := by
    rw [bne_iff_ne]
    rintro rfl
    exact absurd shown (by decide)
  rw [terminalText, Text.deleteSelections_cons noEscape, List.filter_cons, if_pos noReturn,
    ← terminalText]

theorem terminalText_lineEnd (rest : List Char) :
    terminalText (['\r', '\n'] ++ rest) = '\n' :: terminalText rest := by
  rw [terminalText, List.cons_append, List.singleton_append,
    Text.deleteSelections_cons (by decide), Text.deleteSelections_cons (by decide)]
  rfl

theorem terminalText_of_selects
    {text : List Char}
    (selects : Rendition.Selects text)
    (rest : List Char) :
    terminalText (text ++ rest) = terminalText rest := by
  rw [terminalText, Text.deleteSelections_of_selects selects, ← terminalText]

theorem terminalText_ansiCell
    {cell : Cell}
    (printable : cell.Printable)
    (current : Rendition) (rest : List Char) :
    terminalText ((ansiCell current cell).2 ++ rest) = cell.char :: terminalText rest := by
  rw [ansiCell]
  split
  · exact terminalText_cons printable rest
  · rw [List.append_assoc, terminalText_of_selects cell.rendition.selects_sequence]
    exact terminalText_cons printable rest

theorem terminalText_ansi (printable : ∀ segment ∈ segments, ∀ cell ∈ segment, cell.Printable) :
    terminalText (ansi segments) = visibleText segments := by
  have reset :
      terminalText
        (if (styled ansiCell ['\r', '\n'] {} segments).1 = {} then []
          else "\x1b[0m".toList) = [] := by
    split
    · rfl
    · have selected := terminalText_of_selects Rendition.selects_default []
      rwa [List.append_nil] at selected
  have written :=
    styled_shows (motive := fun _ seen text => terminalText text = seen) printable
      (fun current _ _ text good after =>
        (terminalText_ansiCell good current text).trans (congrArg _ after))
      (fun _ _ text after => (terminalText_lineEnd text).trans (congrArg _ after)) {} []
      _ reset
  rw [List.append_nil] at written
  exact written

end Export

namespace ScreenBuffer

variable {buffer : ScreenBuffer}

/-- Every range of cells can be written in both formats. As markup it is one
element that holds a sequence of elements, with nothing in between but ends of
lines, and no cell adds a tag or an entity of its own. Without its tags and with
its entities decoded, it is what is written for a terminal without the sequences
and the carriage returns. -/
theorem html_agrees_with_ansi
    (printable : buffer.Printable)
    {start stop : Nat}
    (ordered : start ≤ stop)
    (inside : stop < buffer.composedSize * buffer.columns)
    (palette : Palette) :
    ∃ markup text,
      buffer.exportRange palette start stop .html = .ok markup ∧
        buffer.exportRange palette start stop .ansi = .ok text ∧
        Export.IsDocument markup.toList ∧
        Text.decodeEntities (Text.stripTags false markup.toList) =
          (Text.deleteSelections 0 text.toList).filter (· != '\r') := by
  have segments :
      ∀ segment ∈ buffer.segments start stop, ∀ cell ∈ segment, cell.Printable :=
    fun _ member _ => printable.segments member
  refine ⟨_, _, exportRange_of_valid ordered inside palette .html,
    exportRange_of_valid ordered inside palette .ansi, ?_, ?_⟩
  · rw [String.toList_ofList]
    exact Export.isDocument_html palette segments
  · rw [String.toList_ofList, String.toList_ofList]
    exact (Export.markupText_html palette segments).trans (Export.terminalText_ansi segments).symm

/-- Two rows of signs that mean something in markup, from the second cell on;
the first row ends in a cell that cannot be seen. -/
theorem html_agrees_with_ansi_signs :
    let red : Rendition := { foreground := .indexed 1, blink := true }
    let rows : List Row :=
      [{ cells := [⟨'x', {}⟩, ⟨'<', red⟩, ⟨'&', red⟩, {}] },
        { cells := [⟨';', red⟩, ⟨'"', {}⟩, ⟨'>', {}⟩, ⟨' ', { reverse := true }⟩] }]
    let buffer : ScreenBuffer :=
      { columns := 4, lines := 2, historyLimit := 0, ring := Ring.ofList rows, alternate := #[] }
    buffer.Printable ∧
      ∃ markup text,
        buffer.exportRange {} 1 7 .html = .ok markup ∧
          buffer.exportRange {} 1 7 .ansi = .ok text ∧
          Export.IsDocument markup.toList ∧
          Text.decodeEntities (Text.stripTags false markup.toList) =
            (Text.deleteSelections 0 text.toList).filter (· != '\r') := by
  intro red rows buffer
  have printable : buffer.Printable := by decide +kernel
  exact ⟨printable, html_agrees_with_ansi printable (by decide) (by decide +kernel) {}⟩

end ScreenBuffer

end VideoTerminal
