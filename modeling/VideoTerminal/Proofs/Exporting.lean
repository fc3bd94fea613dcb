import VideoTerminal.Export
import VideoTerminal.Proofs.Numerals
import VideoTerminal.Proofs.Printable

/-!
What the two writers of styled cells have in common: they write the cells of a
segment one after the other up to the last that can be seen, and carry what is
in force from each cell to the next, also over the ends of lines.
-/

namespace VideoTerminal

namespace Text

/-! ## Text made of parts -/

/-- The text is a sequence of parts of one kind. -/
inductive MadeOf (part : List Char → Prop) : List Char → Prop
  | nil : MadeOf part []
  | append {first rest : List Char} :
      part first → MadeOf part rest → MadeOf part (first ++ rest)

namespace MadeOf

variable {part other : List Char → Prop} {first second text : List Char}

theorem single (here : part text) : MadeOf part text := by
  have alone := append here nil
  rwa [List.append_nil] at alone

theorem trans (before : MadeOf part first) (after : MadeOf part second) :
    MadeOf part (first ++ second) := by
  induction before with
  | nil => exact after
  | append here _ inductionHypothesis =>
      rw [List.append_assoc]
      exact append here inductionHypothesis

/-- Text is made of its characters. -/
theorem chars (each : ∀ char ∈ text, part [char]) : MadeOf part text := by
  induction text with
  | nil => exact nil
  | cons char rest inductionHypothesis =>
      exact append (each char List.mem_cons_self)
        (inductionHypothesis fun later member => each later (List.mem_cons_of_mem char member))

end MadeOf

end Text

/-! ## Sequences that select a rendition -/

namespace Rendition

theorem joinCodes_cons (code : Nat) (rest : List Nat) :
    joinCodes (code :: rest) =
      (toString code).toList ++ rest.flatMap fun other => ';' :: (toString other).toList := by
  induction rest generalizing code with
  | nil => rw [joinCodes, List.flatMap_nil, List.append_nil]
  | cons next others inductionHypothesis =>
      rw [joinCodes, inductionHypothesis, List.flatMap_cons, List.cons_append]
      · nofun

/-- A sequence that selects a rendition after it has reset the one before. -/
def Selects (text : List Char) : Prop :=
  ∃ numbers : List (List Char),
    (∀ number ∈ numbers, number ≠ [] ∧ ∀ char ∈ number, Text.isDigit char = true) ∧
      text = ['\x1b', '[', '0'] ++ numbers.flatMap (fun number => ';' :: number) ++ ['m']

theorem selects_default : Selects "\x1b[0m".toList :=
  ⟨[], nofun, rfl⟩

theorem selects_sequence (rendition : Rendition) : Selects rendition.sequence := by
  rcases exists_codes : rendition.codes with _ | ⟨code, rest⟩
  · simp [codes] at exists_codes
  · have reset : code = 0 := by
      simp only [codes, List.append_assoc, List.cons_append, List.nil_append,
        List.cons.injEq] at exists_codes
      exact exists_codes.1.symm
    refine ⟨rest.map fun number => (toString number).toList, ?_, ?_⟩
    · intro number member
      rcases List.mem_map.mp member with ⟨value, _, rfl⟩
      exact ⟨Text.toString_ne_nil value, fun _ => Text.isDigit_of_mem_toString⟩
    · rw [sequence, exists_codes, joinCodes_cons, reset, List.flatMap_map]
      rfl

end Rendition

/-! ## Style properties -/

namespace Export

/-- The character is no control character, and means nothing in markup. -/
def isStyle (char : Char) : Bool :=
  !Text.isControl char && !(char == '&' || char == '<' || char == '>' || char == '"')

theorem isStyle_hexText (colour : Rgb) : colour.hexText.toList.all isStyle = true := by
  have digits : ∀ value : Fin 16, isStyle (Text.hexDigit value) = true := by decide
  have byte (part : UInt8) : (Text.hexByte part).all isStyle = true := by
    have high := digits ⟨part.toNat / 16, by have := part.toNat_lt; omega⟩
    have low := digits ⟨part.toNat % 16, by omega⟩
    rw [Text.hexByte, List.all_cons, List.all_cons, high, low]
    rfl
  rw [Rgb.hexText, String.toList_ofList, List.all_cons, List.all_append, List.all_append, byte,
    byte, byte]
  decide

theorem isStyle_colourStyle (foreground background : Rgb) :
    (colourStyle foreground background).toList.all isStyle = true := by
  simp only [colourStyle, String.toList_append, List.all_append, isStyle_hexText]
  decide

theorem isStyle_renditionStyle (palette : Palette) (rendition : Rendition) :
    (renditionStyle palette rendition).toList.all isStyle = true := by
  have chosen (given : Bool) (property : String) (good : property.toList.all isStyle = true) :
      (if given then property else "").toList.all isStyle = true := by
    cases given
    · rfl
    · exact good
  have decorated : (decorationStyle rendition).toList.all isStyle = true := by
    rw [decorationStyle]
    split <;> decide
  simp only [renditionStyle, String.toList_append, List.all_append, isStyle_colourStyle, decorated,
    chosen rendition.bold ";font-weight:bold" (by decide),
    chosen rendition.italic ";font-style:italic" (by decide), Bool.and_self]

end Export

/-! ## Writers of cells -/

namespace Export

variable {style : Type} {write : style → Cell → style × List Char} {newline : List Char}

/-- Write some cells one after the other. -/
def writeCells (write : style → Cell → style × List Char) :
    style → List Cell → style × List Char
  | current, [] => (current, [])
  | current, cell :: rest =>
      let (next, text) := write current cell
      let (final, more) := writeCells write next rest
      (final, text ++ more)

/-- The cells of a segment up to the last one that can be seen. -/
def visible (segment : List Cell) : List Cell :=
  Text.trimEnd invisible segment

theorem styledSegment_eq
    (write : style → Cell → style × List Char) (newline : List Char)
    (current : style) (segment : List Cell) :
    styledSegment write newline current segment =
      ((writeCells write current (visible segment)).1,
        (writeCells write current (visible segment)).2 ++
          if (visible segment).length < segment.length then newline else []) := by
  have folded
      (step : style × Array Char → Cell → style × Array Char)
      (stepEq : ∀ current done cell, step (current, done) cell =
        ((write current cell).1, done ++ (write current cell).2.toArray))
      (cells : List Cell) (current : style) (done : Array Char) :
      cells.foldl step (current, done) =
        ((writeCells write current cells).1,
          done ++ (writeCells write current cells).2.toArray) := by
    induction cells generalizing current done with
    | nil => simp [writeCells]
    | cons cell rest inductionHypothesis =>
        rw [List.foldl_cons, stepEq, inductionHypothesis]
        simp [writeCells, Array.append_assoc]
  rw [styledSegment]
  dsimp only
  rw [folded _ fun _ _ _ => rfl, visible, List.append_toArray, List.nil_append]

theorem styled_cons
    (write : style → Cell → style × List Char) (newline : List Char)
    (current : style) (segment : List Cell) (others : List (List Cell)) :
    styled write newline current (segment :: others) =
      ((styled write newline (writeCells write current (visible segment)).1 others).1,
        (writeCells write current (visible segment)).2 ++
          (if (visible segment).length < segment.length then newline else []) ++
            (styled write newline (writeCells write current (visible segment)).1 others).2) := by
  rw [styled, styledSegment_eq]

/-- What can be seen of a segment, and an end of line if that leaves any out. -/
def visibleSegment (segment : List Cell) : List Char :=
  (visible segment).map Cell.char ++
    if (visible segment).length < segment.length then ['\n'] else []

/-- What can be seen of some segments, without their renditions. -/
def visibleText (segments : List (List Cell)) : List Char :=
  segments.flatMap visibleSegment

/-- What a writer makes of some segments is told by what it makes of a cell and
of an end of line before whatever comes after them. `motive` relates what is in
force, what can be seen, and what is written. -/
theorem styled_shows
    {motive : style → List Char → List Char → Prop} {segments : List (List Cell)}
    (printable : ∀ segment ∈ segments, ∀ cell ∈ segment, cell.Printable)
    (cell : ∀ (current : style) (each : Cell) (seen text : List Char), each.Printable →
      motive (write current each).1 seen text →
        motive current (each.char :: seen) ((write current each).2 ++ text))
    (lineEnd : ∀ (current : style) (seen text : List Char),
      motive current seen text → motive current ('\n' :: seen) (newline ++ text))
    (current : style) (seen text : List Char)
    (after : motive (styled write newline current segments).1 seen text) :
    motive current (visibleText segments ++ seen)
      ((styled write newline current segments).2 ++ text) := by
  have cells (some : List Cell) (somePrintable : ∀ each ∈ some, each.Printable)
      (current : style) (seen text : List Char)
      (after : motive (writeCells write current some).1 seen text) :
      motive current (some.map Cell.char ++ seen) ((writeCells write current some).2 ++ text) := by
    induction some generalizing current with
    | nil => exact after
    | cons each rest inductionHypothesis =>
        rw [writeCells]
        dsimp only
        rw [List.append_assoc]
        refine cell current each _ _ (somePrintable each List.mem_cons_self) ?_
        exact inductionHypothesis
          (fun other member => somePrintable other (List.mem_cons_of_mem each member)) _ after
  induction segments generalizing current with
  | nil => exact after
  | cons segment others inductionHypothesis =>
      rw [styled_cons] at after
      have rest :=
        inductionHypothesis (fun other member => printable other (List.mem_cons_of_mem _ member))
          _ after
      have here := printable segment List.mem_cons_self
      rw [styled_cons, visibleText, List.flatMap_cons, ← visibleText, visibleSegment]
      dsimp only
      rw [List.append_assoc, List.append_assoc, List.append_assoc, List.append_assoc]
      apply cells (visible segment) fun each member => here each (Text.mem_of_mem_trimEnd member)
      split
      · exact lineEnd _ _ _ rest
      · exact rest

end Export

/-! ## Segments of a buffer -/

namespace ScreenBuffer

variable {buffer : ScreenBuffer}

theorem Printable.composedRow (printable : buffer.Printable) (index : Nat) :
    (buffer.composedRow index).Printable := by
  have empty : ({} : Row).Printable := fun _ member => absurd member List.not_mem_nil
  rw [ScreenBuffer.composedRow, ringRow]
  split
  · cases found : buffer.alternate[index]? with
    | none => exact empty
    | some row => exact printable.alternate row (Array.mem_of_getElem? found)
  · cases found : buffer.ring.get? index with
    | none => exact empty
    | some row => exact printable.ring row (Ring.get?_mem found)

theorem Printable.segments
    (printable : buffer.Printable)
    {start stop : Nat} {segment : List Cell} {cell : Cell}
    (member : segment ∈ buffer.segments start stop)
    (cellMember : cell ∈ segment) :
    cell.Printable := by
  rcases List.mem_map.mp member with ⟨k, _, rfl⟩
  exact printable.composedRow _ cell (List.mem_of_mem_take (List.mem_of_mem_drop cellMember))

theorem exportRange_of_valid
    {start stop : Nat}
    (ordered : start ≤ stop)
    (inside : stop < buffer.composedSize * buffer.columns)
    (palette : Palette) (format : Export.Format) :
    buffer.exportRange palette start stop format =
      .ok (String.ofList (writeSegments palette (buffer.segments start stop) format)) := by
  rw [exportRange, if_neg (by omega)]

end ScreenBuffer

end VideoTerminal
