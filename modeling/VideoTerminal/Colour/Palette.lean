import VideoTerminal.Colour.Rgb

/-!
The palette: sixteen base colours, named or given, and the 256 colours that
follow from them with a colour cube and a ramp of greys.
-/

namespace VideoTerminal

/-- The sixteen base colours. -/
abbrev BaseColours := Vector Rgb 16

namespace BaseColours

def xwterm : BaseColours :=
  #v[⟨0, 0, 0⟩, ⟨192, 0, 0⟩, ⟨0, 192, 0⟩, ⟨160, 160, 0⟩,
    ⟨65, 65, 192⟩, ⟨160, 0, 160⟩, ⟨0, 128, 160⟩, ⟨192, 192, 192⟩,
    ⟨65, 65, 65⟩, ⟨255, 0, 0⟩, ⟨0, 255, 0⟩, ⟨255, 255, 0⟩,
    ⟨65, 65, 255⟩, ⟨255, 0, 255⟩, ⟨0, 128, 255⟩, ⟨255, 255, 255⟩]

def xterm : BaseColours :=
  #v[⟨0, 0, 0⟩, ⟨205, 0, 0⟩, ⟨0, 205, 0⟩, ⟨205, 205, 0⟩,
    ⟨0, 0, 238⟩, ⟨205, 0, 205⟩, ⟨0, 205, 205⟩, ⟨229, 229, 229⟩,
    ⟨127, 127, 127⟩, ⟨255, 0, 0⟩, ⟨0, 255, 0⟩, ⟨255, 255, 0⟩,
    ⟨92, 92, 255⟩, ⟨255, 0, 255⟩, ⟨0, 255, 255⟩, ⟨255, 255, 255⟩]

def vga : BaseColours :=
  #v[⟨0, 0, 0⟩, ⟨170, 0, 0⟩, ⟨0, 170, 0⟩, ⟨170, 85, 0⟩,
    ⟨0, 0, 170⟩, ⟨170, 0, 170⟩, ⟨0, 170, 170⟩, ⟨170, 170, 170⟩,
    ⟨85, 85, 85⟩, ⟨255, 85, 85⟩, ⟨85, 255, 85⟩, ⟨255, 255, 85⟩,
    ⟨85, 85, 255⟩, ⟨255, 85, 255⟩, ⟨85, 255, 255⟩, ⟨255, 255, 255⟩]

def solarizedDark : BaseColours :=
  #v[⟨0, 43, 54⟩, ⟨220, 50, 47⟩, ⟨133, 153, 0⟩, ⟨181, 137, 0⟩,
    ⟨38, 139, 210⟩, ⟨211, 54, 130⟩, ⟨42, 161, 152⟩, ⟨147, 161, 161⟩,
    ⟨7, 54, 66⟩, ⟨203, 75, 22⟩, ⟨88, 110, 117⟩, ⟨101, 123, 131⟩,
    ⟨131, 148, 150⟩, ⟨108, 113, 196⟩, ⟨147, 161, 161⟩, ⟨253, 246, 227⟩]

/-- The base colours of a preset. -/
def named? : String → Option BaseColours
  | "xwterm" | "default" => some xwterm
  | "xterm" => some xterm
  | "vga" => some vga
  | "solarized-dark" => some solarizedDark
  | _ => none

end BaseColours

/-- The 256 colours a cell can name, fixed by the sixteen base colours. -/
structure Palette where
  base : BaseColours := BaseColours.xwterm
deriving DecidableEq

namespace Palette

/-- The palette of a preset. -/
def preset? (name : String) : Option Palette :=
  (BaseColours.named? name).map Palette.mk

/-- Replace the default foreground, which is base colour 7, and the default
background, which is base colour 0. -/
def withDefaults (palette : Palette) (foreground background : Option Rgb) : Palette :=
  let base := palette.base
  let base := (foreground.map fun colour => base.set 7 colour).getD base
  { base := (background.map fun colour => base.set 0 colour).getD base }

def foreground (palette : Palette) : Rgb :=
  palette.base[7]

def background (palette : Palette) : Rgb :=
  palette.base[0]

/-- One of the six levels of the colour cube. -/
def cubeLevel (step : Nat) : UInt8 :=
  if step = 0 then 0 else UInt8.ofNat (55 + 40 * step)

/-- The colour of an index: the base colours first, then the cube of six
levels a side, then 24 greys. -/
def colour (palette : Palette) (index : UInt8) : Rgb :=
  let i := index.toNat
  if h : i < 16 then palette.base[i]
  else if i < 232 then
    let place := i - 16
    ⟨cubeLevel (place / 36), cubeLevel (place / 6 % 6), cubeLevel (place % 6)⟩
  else
    let level := UInt8.ofNat ((i - 232) * 10 + 8)
    ⟨level, level, level⟩

end Palette

end VideoTerminal
