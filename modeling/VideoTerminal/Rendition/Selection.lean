import VideoTerminal.Rendition.Basic

/-!
Selection of the graphic rendition by a list of numbers, and the sequence that
selects a given rendition from any other.
-/

namespace VideoTerminal.Rendition

/-- The effect of a number that needs no operands. Numbers without a meaning
change nothing; with `blinkIsBold`, blinking is shown as bold. -/
def applyCode (blinkIsBold : Bool) (rendition : Rendition) (code : Nat) : Rendition :=
  if code = 0 then {}
  else if code = 1 then { rendition with bold := true }
  else if code = 3 then { rendition with italic := true }
  else if code = 4 then { rendition with underline := true }
  else if code = 5 then
    if blinkIsBold then { rendition with bold := true } else { rendition with blink := true }
  else if code = 7 then { rendition with reverse := true }
  else if code = 22 then { rendition with bold := false }
  else if code = 23 then { rendition with italic := false }
  else if code = 24 then { rendition with underline := false }
  else if code = 25 then
    if blinkIsBold then { rendition with bold := false } else { rendition with blink := false }
  else if code = 27 then { rendition with reverse := false }
  else if 30 ≤ code ∧ code ≤ 37 then
    rendition.paint .foreground (.indexed (UInt8.ofNat (code - 30)))
  else if code = 39 then rendition.paint .foreground .default
  else if 40 ≤ code ∧ code ≤ 47 then
    rendition.paint .background (.indexed (UInt8.ofNat (code - 40)))
  else if code = 49 then rendition.paint .background .default
  else if 90 ≤ code ∧ code ≤ 97 then
    rendition.paint .foreground (.indexed (UInt8.ofNat (code - 90 + 8)))
  else if 100 ≤ code ∧ code ≤ 107 then
    rendition.paint .background (.indexed (UInt8.ofNat (code - 100 + 8)))
  else rendition

/-- The place whose colour a number with operands selects. -/
def extended? (code : Nat) : Option Ground :=
  if code = 38 then some .foreground
  else if code = 48 then some .background
  else none

/-- A number as a byte, no more than the largest. -/
def clampByte (value : Nat) : UInt8 :=
  UInt8.ofNat (min value 255)

/-- Apply the numbers of a list in order. After 38 and 48 the operands `5; n`
select an index and `2; r; g; b` a direct colour; operands that end too soon
take the rest of the list with them, and any other operand is read again as a
number of its own. -/
def scan (blinkIsBold : Bool) : List Nat → Rendition → Rendition
  | [], rendition => rendition
  | code :: rest, rendition =>
      match extended? code with
      | none => scan blinkIsBold rest (applyCode blinkIsBold rendition code)
      | some ground =>
          match rest with
          | 5 :: index :: others =>
              scan blinkIsBold others
                (rendition.paint ground (.indexed (clampByte index)))
          | 5 :: [] => rendition
          | 2 :: red :: green :: blue :: others =>
              scan blinkIsBold others
                (rendition.paint ground
                  (.direct ⟨clampByte red, clampByte green, clampByte blue⟩))
          | 2 :: _ => rendition
          | others => scan blinkIsBold others rendition

/-- Apply a list of numbers; the empty list resets the rendition. -/
def select (rendition : Rendition) (blinkIsBold : Bool) : List Nat → Rendition
  | [] => {}
  | codes => scan blinkIsBold codes rendition

/-- The numbers that select a colour: the base colours have numbers of their
own, the others are operands of `extended`. -/
def colourCodes (base bright extended : Nat) : Colour → List Nat
  | .default => []
  | .indexed index =>
      let i := index.toNat
      if i < 8 then [base + i]
      else if i < 16 then [bright + (i - 8)]
      else [extended, 5, i]
  | .direct rgb => [extended, 2, rgb.red.toNat, rgb.green.toNat, rgb.blue.toNat]

/-- The numbers that select exactly this rendition, whatever was selected
before. -/
def codes (rendition : Rendition) : List Nat :=
  [0] ++ (if rendition.bold then [1] else []) ++ (if rendition.italic then [3] else []) ++
    (if rendition.underline then [4] else []) ++ (if rendition.blink then [5] else []) ++
    (if rendition.reverse then [7] else []) ++
    colourCodes 30 90 38 rendition.foreground ++
    colourCodes 40 100 48 rendition.background

/-- Numbers between semicolons. -/
def joinCodes : List Nat → List Char
  | [] => []
  | [code] => (toString code).toList
  | code :: rest => (toString code).toList ++ ';' :: joinCodes rest

/-- The sequence that selects exactly this rendition, whatever was selected
before. -/
def sequence (rendition : Rendition) : List Char :=
  ['\x1b', '['] ++ joinCodes rendition.codes ++ ['m']

end VideoTerminal.Rendition
