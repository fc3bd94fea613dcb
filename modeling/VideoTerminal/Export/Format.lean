/-!
The formats that a selection can be written in, and what can prevent it.
-/

namespace VideoTerminal

namespace Export

/-- A written form of cells. -/
inductive Format where
  | text
  | textCrlf
  | raw
  | ansi
  | html
deriving DecidableEq

/-- The format of a name. -/
def Format.named? : String → Option Format
  | "text" | "plain" => some .text
  | "crlf" => some .textCrlf
  | "raw" => some .raw
  | "ansi" => some .ansi
  | "html" => some .html
  | _ => none

/-- Why nothing could be written. -/
inductive Error where
  | noSelection
  | outOfRange (start stop size : Nat)
deriving DecidableEq

def Error.message : Error → String
  | noSelection => "Nothing is selected"
  | outOfRange start stop size =>
      s!"Selection {start}..={stop} is outside the buffer ({size} cells)"

end Export

end VideoTerminal
