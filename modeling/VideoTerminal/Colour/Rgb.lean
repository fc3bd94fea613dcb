import VideoTerminal.Text.Character
import VideoTerminal.Text.Numeral

/-!
Colours by their red, green and blue parts, with the two notations they are
read from and the two they are written in.
-/

namespace VideoTerminal

open Text

/-- A colour of 24 bits. -/
structure Rgb where
  red : UInt8
  green : UInt8
  blue : UInt8
deriving DecidableEq, Inhabited

namespace Rgb

/-- A part of two hexadecimal digits. -/
def hexPart? (first second : Char) : Option UInt8 :=
  (unsigned? 16 255 [first, second]).map UInt8.ofNat

/-- The colour of six hexadecimal digits. -/
def ofHex? : List Char → Option Rgb
  | [r₁, r₂, g₁, g₂, b₁, b₂] => do
      return ⟨← hexPart? r₁ r₂, ← hexPart? g₁ g₂, ← hexPart? b₁ b₂⟩
  | _ => none

/-- The colour of three decimal numbers between commas, blanks around a number
being ignored. -/
def ofParts? (text : List Char) : Option Rgb :=
  match (fields ',' text).map trim with
  | [red, green, blue] => do
      return ⟨← byte? red, ← byte? green, ← byte? blue⟩
  | _ => none

/-- Read `#rrggbb` or `rgb(r, g, b)`, blanks around it being ignored. -/
def parse? (text : String) : Option Rgb :=
  match trim text.toList with
  | '#' :: digits => ofHex? digits
  | trimmed =>
      match dropInitial? "rgb(".toList trimmed with
      | some rest => (dropFinal? [')'] rest).bind ofParts?
      | none => none

/-- The notation `#rrggbb`, in lower case. -/
def hexText (colour : Rgb) : String :=
  String.ofList
    ('#' :: (hexByte colour.red ++ hexByte colour.green ++ hexByte colour.blue))

/-- The notation `rgb:rrrr/gggg/bbbb` of colour replies, each part doubled to
16 bits. -/
def wideText (colour : Rgb) : String :=
  let wide (part : UInt8) := hexByte part ++ hexByte part
  String.ofList
    ("rgb:".toList ++ wide colour.red ++ ['/'] ++ wide colour.green ++ ['/'] ++
      wide colour.blue)

end Rgb

end VideoTerminal
