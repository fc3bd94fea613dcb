import VideoTerminal.Text.Numeral

/-!
Strings of a TOML document: between double quotes, where a backslash begins an
escape, or between single quotes, where every character stands for itself; on
one line with single delimiters, or on several with triple ones.
-/

namespace VideoTerminal.Toml

/-- A character that may stand for itself in a string or a comment: the tab,
and all but the control characters of ASCII. -/
def isPlain (char : Char) : Bool :=
  char == '\t' || (0x20 ≤ char.toNat && char.toNat != 0x7f)

/-- White space within a line. -/
def isSpace (char : Char) : Bool :=
  char == ' ' || char == '\t'

/-! ## Reading -/

/-- Where the reading of a string stands: among its characters, perhaps after
an escaped line end whose following white space is skipped; after a backslash;
among the digits of an escape, with so many `left`; or after a backslash and
white space, where the line must end. -/
inductive StringPhase where
  | characters (skipping : Bool)
  | escape
  | digits (left value : Nat)
  | lineEnd
deriving DecidableEq

/-- The characters that escapes of one letter stand for. -/
def escaped? : Char → Option Char
  | 'b' => some '\x08'
  | 't' => some '\t'
  | 'n' => some '\n'
  | 'f' => some '\x0c'
  | 'r' => some '\r'
  | '"' => some '"'
  | '\\' => some '\\'
  | _ => none

/-- The character with a code point, if there is one. -/
def scalar? (code : Nat) : Option Char :=
  if code.isValidChar then some (Char.ofNat code) else none

/-- The number of delimiting quotes at the end of a string that begins `text`:
at least the three that end it, and up to two more that belong to it. -/
def closingQuotes (quote : Char) (text : List Char) : Nat :=
  min (text.takeWhile (· == quote)).length 5

/-- The characters of a string up to its closing delimiter, and what follows
that. Lines end with or without a carriage return, which is left out. -/
def stringBody (quote : Char) (spansLines : Bool) :
    StringPhase → List Char → Option (List Char × List Char)
  | _, [] => none
  | .characters skipping, char :: rest =>
      let next (phase : StringPhase) := stringBody quote spansLines phase rest
      let push (char : Char) :=
        (next (.characters false)).map fun (text, after) => (char :: text, after)
      if skipping && (isSpace char || char == '\n') then next (.characters true)
      else if char = '\r' then
        if spansLines && rest.head? == some '\n' then next (.characters skipping) else none
      else if char = '\n' then
        if spansLines then push '\n' else none
      else if char = quote then
        if !spansLines then some ([], rest)
        else
          let quotes := closingQuotes quote (char :: rest)
          if quotes < 3 then push quote
          else some (List.replicate (quotes - 3) quote, rest.drop (quotes - 1))
      else if char = '\\' ∧ quote = '"' then next .escape
      else if isPlain char then push char
      else none
  | .escape, char :: rest =>
      let next (phase : StringPhase) := stringBody quote spansLines phase rest
      match escaped? char with
      | some meant =>
          (next (.characters false)).map fun (text, after) => (meant :: text, after)
      | none =>
          if char = 'u' then next (.digits 4 0)
          else if char = 'U' then next (.digits 8 0)
          else if !spansLines then none
          else if char = '\n' then next (.characters true)
          else if isSpace char ∨ (char = '\r' ∧ rest.head? = some '\n') then next .lineEnd
          else none
  | .lineEnd, char :: rest =>
      let next (phase : StringPhase) := stringBody quote spansLines phase rest
      if char = '\n' then next (.characters true)
      else if isSpace char ∨ (char = '\r' ∧ rest.head? = some '\n') then next .lineEnd
      else none
  | .digits left value, char :: rest =>
      let next (phase : StringPhase) := stringBody quote spansLines phase rest
      match Text.digitValue? 16 char with
      | none => none
      | some digit =>
          let value := value * 16 + digit
          if left > 1 then next (.digits (left - 1) value)
          else
            match scalar? value with
            | none => none
            | some meant =>
                (next (.characters false)).map fun (text, after) => (meant :: text, after)

/-- A string on one line, at the beginning of a text. -/
def lineString? : List Char → Option (List Char × List Char)
  | char :: rest =>
      if char = '"' ∨ char = '\'' then stringBody char false (.characters false) rest
      else none
  | [] => none

/-- The text without a line end at its beginning. -/
def dropLineEnd : List Char → List Char
  | '\n' :: rest => rest
  | '\r' :: '\n' :: rest => rest
  | text => text

/-- A string, on one line or several, at the beginning of a text. -/
def string? (text : List Char) : Option (List Char × List Char) :=
  match text with
  | '"' :: '"' :: '"' :: rest =>
      stringBody '"' true (.characters false) (dropLineEnd rest)
  | '\'' :: '\'' :: '\'' :: rest =>
      stringBody '\'' true (.characters false) (dropLineEnd rest)
  | _ => lineString? text

/-! ## Writing -/

/-- The longest run of a character in a text. -/
def longestRun (char : Char) (text : List Char) : Nat :=
  (text.foldl
    (fun (longest, run) each =>
      if each = char then (max longest (run + 1), run + 1) else (longest, 0))
    ((0, 0) : Nat × Nat)).1

/-- The four ways to write a string. -/
structure StringStyle where
  escapes : Bool
  spansLines : Bool
deriving DecidableEq

namespace StringStyle

/-- The first style that needs no escapes: double quotes on one line, single
quotes on one line, triple double quotes, triple single quotes. Where there is
none, double quotes with escapes, triple ones if there are several lines. -/
def suited (text : List Char) : StringStyle :=
  let control := text.any fun char => char != '\n' && !isPlain char
  let backslash := text.contains '\\'
  let lines := text.contains '\n'
  let double := longestRun '"' text
  let single := longestRun '\'' text
  if !control && !backslash && !lines && double == 0 then ⟨true, false⟩
  else if !control && !lines && single == 0 then ⟨false, false⟩
  else if !control && !backslash && double ≤ 2 then ⟨true, true⟩
  else if !control && single ≤ 2 then ⟨false, true⟩
  else ⟨true, lines⟩

/-- The delimiter before and after the text. -/
def delimiter (style : StringStyle) : List Char :=
  List.replicate (if style.spansLines then 3 else 1) (if style.escapes then '"' else '\'')

end StringStyle

/-- A character other than a quote in a string with escapes. -/
def writeChar (spansLines : Bool) (char : Char) : List Char :=
  match char with
  | '\x08' => ['\\', 'b']
  | '\t' => ['\\', 't']
  | '\n' => if spansLines then ['\n'] else ['\\', 'n']
  | '\x0c' => ['\\', 'f']
  | '\r' => ['\\', 'r']
  | '\\' => ['\\', '\\']
  | _ =>
      if isPlain char then [char]
      else
        let digits := (Text.hexByte (UInt8.ofNat char.toNat)).map Char.toUpper
        ['\\', 'u', '0', '0'] ++ digits

/-- The text of a string with escapes. On several lines up to two quotes in a
row stand for themselves, of which `run` have been written. -/
def writeEscaped (spansLines : Bool) (run : Nat) : List Char → List Char
  | [] => []
  | char :: rest =>
      if char = '"' then
        if spansLines ∧ run < 2 then '"' :: writeEscaped spansLines (run + 1) rest
        else '\\' :: '"' :: writeEscaped spansLines 0 rest
      else writeChar spansLines char ++ writeEscaped spansLines 0 rest

/-- The written form of a string. One with several lines begins on a line of
its own. -/
def writeString (text : List Char) : List Char :=
  let style := StringStyle.suited text
  let body := if style.escapes then writeEscaped style.spansLines 0 text else text
  let gap := if style.spansLines && text.contains '\n' then ['\n'] else []
  style.delimiter ++ gap ++ body ++ style.delimiter

end VideoTerminal.Toml
