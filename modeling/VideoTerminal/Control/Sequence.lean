import VideoTerminal.Control.Command
import VideoTerminal.Control.Final

/-!
Escape sequences: what a character means where it stands. A character is first
looked up among those that the sequence being read has a use for, then among
the control characters that act anywhere, and last it is what the sequence
takes all other characters for.
-/

namespace VideoTerminal

/-- Where in a sequence the terminal is reading. -/
inductive Phase where
  | ground
  | escape
  | control
  | command
  | commandEnd
  | encoding
  | test
  | charset
  | device
  | privateControl
  | secondaryControl
deriving DecidableEq

/-- What a character does. -/
inductive Action where
  | ignore
  | enter (phase : Phase)
  | proceed (phase : Phase)
  | collect
  | perform (function : ControlFunction)
  | finish (function : ControlFunction)
  | abandon
deriving DecidableEq

namespace Action

/-- The characters after an escape: they introduce a sequence or are one. -/
def ofEscape? : Char → Option Action
  | '[' => some (enter .control)
  | ']' => some (enter .command)
  | 'P' => some (enter .device)
  | '%' => some (enter .encoding)
  | '#' => some (enter .test)
  | '(' | ')' => some (enter .charset)
  | '7' => some (finish .saveState)
  | '8' => some (finish .restoreState)
  | 'c' => some (finish .reset)
  | 'D' => some (finish .index)
  | 'E' => some (finish .nextLine)
  | 'M' => some (finish .reverseIndex)
  | 'Z' => some (finish .reportDevice)
  | 'H' | 'N' | 'O' | 'X' | '>' | '=' => some (finish .nothing)
  | _ => none

/-- The characters of a parameter. -/
def isParameter (char : Char) : Bool :=
  Text.isDigit char || char == ';'

/-- The characters of a control sequence. The marks of private and of
secondary sequences are taken anywhere, and the parameters before them stay. -/
def ofControl? (parameters : Parameters) (char : Char) : Option Action :=
  if isParameter char then some collect
  else if char = '?' then some (proceed .privateControl)
  else if char = '>' then some (proceed .secondaryControl)
  else (ControlFunction.ofFinal? parameters char).map finish

/-- The characters of a private control sequence. -/
def ofPrivate? (parameters : Parameters) (char : Char) : Option Action :=
  if isParameter char then some collect
  else if char = 'h' then some (finish (.setPrivateModes parameters.numbers true))
  else if char = 'l' then some (finish (.setPrivateModes parameters.numbers false))
  else none

/-- The characters of a secondary control sequence. -/
def ofSecondary? (char : Char) : Option Action :=
  if isParameter char then some collect
  else if char = 'c' then some (finish .reportSecondary)
  else none

/-- The characters that the sequence being read has a use for. -/
def ofPhase? (phase : Phase) (parameters : Parameters) (char : Char) : Option Action :=
  match phase with
  | .ground => none
  | .escape => ofEscape? char
  | .control => ofControl? parameters char
  | .command =>
      if char = '\x1b' then some (proceed .commandEnd)
      else if char = '\x07' then
        some (finish (ControlFunction.ofCommand parameters.toList))
      else none
  | .commandEnd =>
      if char = '\\' then some (finish (ControlFunction.ofCommand parameters.toList)) else none
  | .encoding => if char = '@' ∨ char = 'G' then some (finish .nothing) else none
  | .test => if char = '8' then some (finish .alignmentTest) else none
  | .charset =>
      if char = 'B' ∨ char = '0' ∨ char = 'U' ∨ char = 'K' then some (finish .nothing) else none
  | .device => none
  | .privateControl => ofPrivate? parameters char
  | .secondaryControl => ofSecondary? char

/-- The control characters that act anywhere. -/
def ofControlChar? : Char → Option Action
  | '\x00' | '\x05' | '\x07' | '\x0e' | '\x0f' | '\x18' | '\x1a' | '\x7f' => some abandon
  | '\x08' => some (perform .backspace)
  | '\t' => some (perform .horizontalTab)
  | '\n' | '\x0b' | '\x0c' => some (perform .lineFeed)
  | '\r' => some (perform .carriageReturn)
  | '\x1b' => some (enter .escape)
  | _ => none

/-- What becomes of a character that nothing has a use for: strings keep it,
and any other sequence is abandoned. -/
def ofDefault : Phase → Action
  | .ground => ignore
  | .command | .device => collect
  | _ => abandon

/-- What a character does in a phase. -/
def ofChar (phase : Phase) (parameters : Parameters) (char : Char) : Action :=
  match ofPhase? phase parameters char with
  | some action => action
  | none => (ofControlChar? char).getD (ofDefault phase)

end Action

end VideoTerminal
