import VideoTerminal.Control.Function
import VideoTerminal.Control.Parameters

/-!
Operating system commands: strings that set the title or ask for colours.
-/

namespace VideoTerminal.ControlFunction

/-- The indices that are asked for among pairs of an index and `?`; other
pairs, and a field without a partner, are passed over. -/
def askedIndices : List (List Char) → List UInt8
  | field :: question :: rest =>
      match question, Text.byte? field with
      | ['?'], some asked => asked :: askedIndices rest
      | _, _ => askedIndices rest
  | _ => []

/-- The command of a string that begins with a number and a semicolon: a
title, a question for colours of the palette, or one for a dynamic colour. -/
def ofNumbered (code : Option Nat) (rest : List Char) : ControlFunction :=
  match code with
  | none => .nothing
  | some code =>
      if code = 0 ∨ code = 2 then .setTitle rest
      else if code = 4 then .reportPalette (askedIndices (Text.fields ';' rest))
      else if 10 ≤ code ∧ code ≤ 19 ∧ rest = ['?'] then .reportDynamic code
      else .nothing

/-- The command of a string: after the letter L a title, with or without a
semicolon before it, and otherwise one with a number. -/
def ofCommand (payload : List Char) : ControlFunction :=
  match payload with
  | 'l' :: ';' :: title | 'L' :: ';' :: title => .setTitle title
  | 'l' :: title | 'L' :: title => .setTitle title
  | _ =>
      let (code, rest) := Text.cut ';' payload
      ofNumbered (Text.word? code) rest

end VideoTerminal.ControlFunction
