import VideoTerminal.Terminal.Basic

/-!
Key presses and the text that each of them sends. A press gives the value the
key produces, such as `a` or `Enter`, and the name of the key itself, such as
`KeyA` or `Numpad1`.
-/

namespace VideoTerminal

/-- A key pressed with some of the modifier keys. -/
structure KeyPress where
  key : String := ""
  code : String := ""
  composed : Bool := true
  control : Bool := false
  alt : Bool := false
  command : Bool := false
deriving DecidableEq

/-- What a key does whatever it produces. -/
inductive Stroke where
  | send (text : String)
  | silent
  | numpad
deriving DecidableEq

namespace Stroke

/-- The keys with a meaning of their own. -/
def ofCode? : String → Option Stroke
  | "Enter" | "NumpadEnter" => some (send "\r")
  | "Backspace" => some (send "\x7f")
  | "Tab" => some (send "\t")
  | "Escape" => some (send "\x1b")
  | "CapsLock" | "NumLock" | "ScrollLock" | "Pause" | "AltLeft" | "AltRight"
  | "ControlLeft" | "ControlRight" | "ShiftLeft" | "ShiftRight" | "MetaLeft"
  | "MetaRight" | "ContextMenu" => some silent
  | "NumpadDivide" | "NumpadMultiply" | "NumpadAdd" | "NumpadSubtract" | "NumpadDecimal"
  | "Numpad0" | "Numpad1" | "Numpad2" | "Numpad3" | "Numpad4" | "Numpad5" | "Numpad6"
  | "Numpad7" | "Numpad8" | "Numpad9" => some numpad
  | "ArrowUp" => some (send "\x1b[A")
  | "ArrowDown" => some (send "\x1b[B")
  | "ArrowRight" => some (send "\x1b[C")
  | "ArrowLeft" => some (send "\x1b[D")
  | "Home" => some (send "\x1b[H")
  | "End" => some (send "\x1b[F")
  | "Insert" => some (send "\x1b[2~")
  | "Delete" => some (send "\x1b[3~")
  | "PageUp" => some (send "\x1b[5~")
  | "PageDown" => some (send "\x1b[6~")
  | "F1" => some (send "\x1bOP")
  | "F2" => some (send "\x1bOQ")
  | "F3" => some (send "\x1bOR")
  | "F4" => some (send "\x1bOS")
  | "F5" => some (send "\x1b[15~")
  | "F6" => some (send "\x1b[17~")
  | "F7" => some (send "\x1b[18~")
  | "F8" => some (send "\x1b[19~")
  | "F9" => some (send "\x1b[20~")
  | "F10" => some (send "\x1b[21~")
  | "F11" => some (send "\x1b[23~")
  | "F12" => some (send "\x1b[24~")
  | _ => none

end Stroke

namespace KeyPress

/-- The cursor keys while applications read them. -/
def applicationCursor? : String → Option String
  | "ArrowUp" => some "\x1bOA"
  | "ArrowDown" => some "\x1bOB"
  | "ArrowRight" => some "\x1bOC"
  | "ArrowLeft" => some "\x1bOD"
  | "Home" => some "\x1bOH"
  | "End" => some "\x1bOF"
  | _ => none

/-- What a key of the number pad stands for when it produces no character: the
key printed on it, or a text of its own. -/
def numpadMeaning : String → String
  | "NumpadDivide" => "/"
  | "NumpadMultiply" => "*"
  | "NumpadAdd" => "+"
  | "NumpadSubtract" => "-"
  | "Numpad0" => "Insert"
  | "Numpad1" => "End"
  | "Numpad2" => "ArrowDown"
  | "Numpad3" => "PageDown"
  | "Numpad4" => "ArrowLeft"
  | "Numpad5" => "\x0c"
  | "Numpad6" => "ArrowRight"
  | "Numpad7" => "Home"
  | "Numpad8" => "ArrowUp"
  | "Numpad9" => "PageUp"
  | "NumpadDecimal" => "Delete"
  | _ => ""

/-- The character the key produces, when it produces exactly one. -/
def char? (press : KeyPress) : Option Char :=
  match press.key.toList with
  | [char] => some char
  | _ => none

/-- A character with the control key: two ranges of 32 characters become the
control characters, and all others stay. -/
def controlled (char : Char) : Char :=
  let code := char.toNat
  if 64 ≤ code ∧ code ≤ 95 then Char.ofNat (code - 64)
  else if 96 ≤ code ∧ code ≤ 127 then Char.ofNat (code - 96)
  else char

/-- The text of a key without a meaning of its own: the character it produces,
unless a modifier keeps that from being sent. -/
def characterText? (press : KeyPress) : Option String := do
  let char ← press.char?
  if press.composed then
    if press.alt || press.command then none
    else if press.control then some (String.singleton (controlled char))
    else some (String.singleton char)
  else some (String.singleton char)

/-- The text of a press that stands for the key `code`. -/
def textAs? (press : KeyPress) (modes : Modes) (code : String) : Option String :=
  match if modes.applicationCursor then applicationCursor? code else none with
  | some text => some text
  | none =>
      match Stroke.ofCode? code with
      | some (.send text) => some (if modes.newLine && text == "\r" then "\r\n" else text)
      | some .silent | some .numpad => none
      | none => press.characterText?

/-- The text that a press sends, if any. A key of the number pad sends the
character that it produces, and otherwise acts as the key it stands for. -/
def text? (press : KeyPress) (modes : Modes) : Option String :=
  match Stroke.ofCode? press.code with
  | some .numpad =>
      match press.char? with
      | some char => some (String.singleton char)
      | none =>
          let meaning := numpadMeaning press.code
          match Stroke.ofCode? meaning with
          | some _ => press.textAs? modes meaning
          | none => if meaning.isEmpty then none else some meaning
  | _ => press.textAs? modes press.code

end KeyPress

end VideoTerminal
