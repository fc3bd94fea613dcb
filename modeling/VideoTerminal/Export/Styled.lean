import VideoTerminal.Grid.Row
import VideoTerminal.Rendition.Selection

/-!
Cells written with their renditions, as sequences of a terminal or as markup.
The rendition in force is carried from cell to cell, so that it is written
only where it changes.
-/

namespace VideoTerminal.Export

/-- A space of which nothing would be seen. -/
def invisible (cell : Cell) : Bool :=
  cell.char == ' ' && cell.rendition.background == .default && !cell.rendition.reverse

/-- Write the cells of a segment up to the last one that can be seen, and an
end of line if that leaves any out. `write` is given what is in force and a
cell, and says what comes into force. -/
def styledSegment {style : Type} (write : style → Cell → style × List Char)
    (newline : List Char) (style₀ : style) (segment : List Cell) : style × List Char :=
  let kept := Text.trimEnd invisible segment
  let written :=
    kept.foldl
      (fun (current, done) cell =>
        let (next, text) := write current cell
        (next, done ++ text.toArray))
      (style₀, (#[] : Array Char))
  (written.1, written.2.toList ++ if kept.length < segment.length then newline else [])

/-- Write all segments, one after the other. -/
def styled {style : Type} (write : style → Cell → style × List Char) (newline : List Char) :
    style → List (List Cell) → style × List Char
  | current, [] => (current, [])
  | current, segment :: others =>
      let (next, text) := styledSegment write newline current segment
      let (final, rest) := styled write newline next others
      (final, text ++ rest)

/-! ## Sequences of a terminal -/

/-- A character, after the sequence of its rendition if another is in
force. -/
def ansiCell (current : Rendition) (cell : Cell) : Rendition × List Char :=
  if cell.rendition = current then (current, [cell.char])
  else (cell.rendition, cell.rendition.sequence ++ [cell.char])

/-- Text for a terminal, which ends in the default rendition. -/
def ansi (segments : List (List Cell)) : List Char :=
  let (final, text) := styled ansiCell ['\r', '\n'] {} segments
  text ++ if final = {} then [] else "\x1b[0m".toList

/-! ## Markup -/

/-- A character as it stands in markup. -/
def escapeMarkup (char : Char) : List Char :=
  if char = '&' then "&amp;".toList
  else if char = '<' then "&lt;".toList
  else if char = '>' then "&gt;".toList
  else if char = '"' then "&quot;".toList
  else [char]

/-- Two colours as style properties. -/
def colourStyle (foreground background : Rgb) : String :=
  "color:" ++ foreground.hexText ++ ";background-color:" ++ background.hexText

/-- The lines drawn with a character, as a style property. -/
def decorationStyle (rendition : Rendition) : String :=
  match rendition.underline, rendition.blink with
  | true, true => ";text-decoration:underline blink"
  | true, false => ";text-decoration:underline"
  | false, true => ";text-decoration:blink"
  | false, false => ""

/-- A rendition as style properties. -/
def renditionStyle (palette : Palette) (rendition : Rendition) : String :=
  let (foreground, background) := palette.shown rendition
  colourStyle foreground background ++
    (if rendition.bold then ";font-weight:bold" else "") ++
    (if rendition.italic then ";font-style:italic" else "") ++
    decorationStyle rendition

/-- The tag that opens a run of cells with one rendition. -/
def openSpan (palette : Palette) (rendition : Rendition) : List Char :=
  "<span style=\"".toList ++ (renditionStyle palette rendition).toList ++ "\">".toList

/-- The tag that closes a run, if one is open. -/
def closeSpan : Option Rendition → List Char
  | some _ => "</span>".toList
  | none => []

/-- A character, in a new run if the open one has another rendition. -/
def htmlCell (palette : Palette) (current : Option Rendition) (cell : Cell) :
    Option Rendition × List Char :=
  if current = some cell.rendition then (current, escapeMarkup cell.char)
  else
    (some cell.rendition,
      closeSpan current ++ openSpan palette cell.rendition ++ escapeMarkup cell.char)

/-- Preformatted text with one element for each run of cells of the same
rendition. -/
def html (palette : Palette) (segments : List (List Cell)) : List Char :=
  let (final, text) := styled (htmlCell palette) ['\n'] none segments
  "<pre style=\"".toList ++ (colourStyle palette.foreground palette.background).toList ++
    "\">".toList ++ text ++ closeSpan final ++ "</pre>".toList

end VideoTerminal.Export
