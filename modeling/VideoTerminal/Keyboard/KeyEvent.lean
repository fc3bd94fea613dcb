import VideoTerminal.Keyboard.KeyPress

/-!
Key events as a host terminal reports them, and the key presses they are.
-/

namespace VideoTerminal

/-- The keys that a host terminal tells apart. -/
inductive HostKey where
  | char (char : Char)
  | function (number : Nat)
  | enter
  | backspace
  | tab
  | backTab
  | escape
  | up
  | down
  | left
  | right
  | home
  | endKey
  | pageUp
  | pageDown
  | insert
  | delete
  | capsLock
  | numLock
  | scrollLock
  | pause
  | menu
  | other
deriving DecidableEq

/-- An event of the keyboard. -/
structure KeyEvent where
  key : HostKey
  keypad : Bool := false
  control : Bool := false
  alt : Bool := false
  super : Bool := false
  metaKey : Bool := false
deriving DecidableEq

namespace HostKey

/-- The name of a key of the number pad that produces a character. -/
def keypadCode (char : Char) : String :=
  if Text.isDigit char then "Numpad" ++ String.singleton char
  else if char = '/' then "NumpadDivide"
  else if char = '*' then "NumpadMultiply"
  else if char = '+' then "NumpadAdd"
  else if char = '-' then "NumpadSubtract"
  else if char = '.' then "NumpadDecimal"
  else ""

/-- The name of a key that produces a character. Letters and digits have
one. -/
def characterCode (char : Char) : String :=
  if char.isAlpha then "Key" ++ String.singleton char.toUpper
  else if Text.isDigit char then "Digit" ++ String.singleton char
  else ""

/-- The value that a key produces, and its name. -/
def valueAndCode (keypad : Bool) : HostKey → String × String
  | char produced =>
      (String.singleton produced,
        if keypad then keypadCode produced else characterCode produced)
  | function number => (s!"F{number}", s!"F{number}")
  | enter => ("Enter", if keypad then "NumpadEnter" else "Enter")
  | backspace => ("Backspace", "Backspace")
  | tab | backTab => ("Tab", "Tab")
  | escape => ("Escape", "Escape")
  | up => ("ArrowUp", "ArrowUp")
  | down => ("ArrowDown", "ArrowDown")
  | left => ("ArrowLeft", "ArrowLeft")
  | right => ("ArrowRight", "ArrowRight")
  | home => ("Home", "Home")
  | endKey => ("End", "End")
  | pageUp => ("PageUp", "PageUp")
  | pageDown => ("PageDown", "PageDown")
  | insert => ("Insert", "Insert")
  | delete => ("Delete", "Delete")
  | capsLock => ("CapsLock", "CapsLock")
  | numLock => ("NumLock", "NumLock")
  | scrollLock => ("ScrollLock", "ScrollLock")
  | pause => ("Pause", "Pause")
  | menu => ("ContextMenu", "ContextMenu")
  | other => ("", "")

end HostKey

namespace KeyEvent

/-- The press that an event reports. -/
def press (event : KeyEvent) : KeyPress :=
  let (key, code) := event.key.valueAndCode event.keypad
  { key, code
    control := event.control
    alt := event.alt
    command := event.super || event.metaKey }

end KeyEvent

end VideoTerminal
