import VideoTerminal.Colour.Palette

/-!
The graphic rendition of a cell: its two colours and its five attributes, and
the colours that they come to under a palette.
-/

namespace VideoTerminal

/-- The colour of a cell as an application selects it. -/
inductive Colour where
  | default
  | indexed (index : UInt8)
  | direct (rgb : Rgb)
deriving DecidableEq, Inhabited

/-- The two places of a cell that have a colour. -/
inductive Ground where
  | foreground
  | background
deriving DecidableEq

/-- How a character is shown. -/
structure Rendition where
  foreground : Colour := .default
  background : Colour := .default
  bold : Bool := false
  italic : Bool := false
  underline : Bool := false
  reverse : Bool := false
  blink : Bool := false
deriving DecidableEq, Inhabited

namespace Rendition

/-- The rendition of an erased cell: the background stays. -/
def erased (rendition : Rendition) : Rendition :=
  { background := rendition.background }

/-- Give one of the two places a colour. -/
def paint (rendition : Rendition) (ground : Ground) (colour : Colour) : Rendition :=
  match ground with
  | .foreground => { rendition with foreground := colour }
  | .background => { rendition with background := colour }

end Rendition

namespace Palette

/-- The concrete colour of a place. -/
def resolve (palette : Palette) (ground : Ground) : Colour → Rgb
  | .default =>
      match ground with
      | .foreground => palette.foreground
      | .background => palette.background
  | .indexed index => palette.colour index
  | .direct rgb => rgb

/-- The concrete foreground and background of a cell; reverse video exchanges
them. -/
def shown (palette : Palette) (rendition : Rendition) : Rgb × Rgb :=
  let front := palette.resolve .foreground rendition.foreground
  let back := palette.resolve .background rendition.background
  if rendition.reverse then (back, front) else (front, back)

end Palette

end VideoTerminal
