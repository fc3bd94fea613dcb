import VideoTerminal.Toml.Quoted
import VideoTerminal.Toml.Scalar

/-!
The text of a TOML document: keys, values, and the statements that it is made
of, put together into one table.
-/

namespace VideoTerminal.Toml

/-- Reads something at the beginning of a text and gives what follows it. -/
abbrev Reader (alpha : Type) := List Char → Option (alpha × List Char)

/-! ## Gaps -/

/-- The text after the white space at the beginning of its line. -/
def skipSpace (text : List Char) : List Char :=
  text.dropWhile isSpace

/-- The text after white space, line ends and comments; nothing when a comment
holds a control character. -/
def skipGap (inComment : Bool) : List Char → Option (List Char)
  | [] => some []
  | '\n' :: rest => skipGap false rest
  | '\r' :: '\n' :: rest => skipGap false rest
  | char :: rest =>
      if inComment then if isPlain char then skipGap true rest else none
      else if isSpace char then skipGap false rest
      else if char = '#' then skipGap true rest
      else some (char :: rest)

/-- Nothing more stands on the line, but for a comment. -/
def lineEnds (text : List Char) : Bool :=
  match skipSpace text with
  | [] | '\n' :: _ | '\r' :: '\n' :: _ | '#' :: _ => true
  | _ => false

/-! ## Keys -/

/-- The characters of a key without quotes. -/
def isKeyChar (char : Char) : Bool :=
  char.isAlphanum || char == '_' || char == '-'

/-- A key without dots. -/
def key? : Reader (List Char) := fun text =>
  match text with
  | '"' :: _ | '\'' :: _ => lineString? text
  | _ =>
      let key := text.takeWhile isKeyChar
      if key.isEmpty then none else some (key, text.dropWhile isKeyChar)

/-- The most keys that one with dots may have. -/
def pathLimit : Nat := 79

/-- A key of at most `limit` keys with dots between them, and the white space
around it. -/
def path? (limit : Nat) : Reader Path := fun text =>
  match limit with
  | 0 => none
  | limit + 1 => do
      let (key, rest) ← key? (skipSpace text)
      match skipSpace rest with
      | '.' :: rest => do
          let (path, rest) ← path? limit rest
          return ({ path with outer := key :: path.outer }, rest)
      | rest => some ({ outer := [], last := key }, rest)

/-! ## Values -/

/-- The items of an array up to its closing bracket. There are at most `fuel`
of them, no more than there are characters. -/
def items? (item : Reader Node) (fuel : Nat) : Reader (List Node) := fun text =>
  match fuel with
  | 0 => none
  | fuel + 1 => do
      let text ← skipGap false text
      match text with
      | ']' :: rest => some ([], rest)
      | _ =>
          let (first, rest) ← item text
          match ← skipGap false rest with
          | ',' :: rest =>
              let (items, rest) ← items? item fuel rest
              return (first :: items, rest)
          | ']' :: rest => some ([first], rest)
          | _ => none

/-- A key and its value. -/
def pair (item : Reader Node) : Reader (Path × Node) := fun text => do
  let (path, rest) ← path? pathLimit text
  match rest with
  | '=' :: rest =>
      let (node, rest) ← item (skipSpace rest)
      return ((path, node), rest)
  | _ => none

/-- The rest of a table within a line, up to its closing brace, to be added to
`entries`. It holds at least one more pair and at most `fuel`. -/
def pairs? (item : Reader Node) (fuel : Nat) (entries : Entries) : Reader Entries := fun text =>
  match fuel with
  | 0 => none
  | fuel + 1 => do
      let ((path, node), rest) ← pair item text
      let entries ← entries.insert path node
      match skipSpace rest with
      | ',' :: rest => pairs? item fuel entries rest
      | '\x7d' :: rest => some (entries, rest)
      | _ => none

/-- A table within a line, after its opening brace. -/
def inlineTable? (item : Reader Node) : Reader Entries := fun text =>
  match skipSpace text with
  | '\x7d' :: rest => some ([], rest)
  | rest => pairs? item rest.length [] rest

/-- A value in which arrays and tables are nested at most `depth` deep. -/
def value? (depth : Nat) : Reader Node := fun text =>
  match text, depth with
  | '[' :: rest, depth + 1 => do
      let (items, rest) ← items? (value? depth) (rest.length + 1) rest
      return (.array items, rest)
  | '\x7b' :: rest, depth + 1 => do
      let (entries, rest) ← inlineTable? (value? depth) rest
      return (.table .inline entries, rest)
  | '"' :: _, _ | '\'' :: _, _ => do
      let (characters, rest) ← string? text
      return (.string characters, rest)
  | _, _ => do
      let (word, rest) := valueText text
      return (← scalarNode? word, rest)

/-- How deep arrays and tables may be nested in a value. -/
def depthLimit : Nat := 79

/-! ## Statements -/

/-- One statement of a document: a header of a table or of an item in a list
of tables, or a value. -/
inductive Statement where
  | table (path : Path)
  | item (path : Path)
  | value (path : Path) (node : Node)

/-- What follows `closing` at the beginning of a text, when the line ends
there. -/
def closeHeader? (closing text : List Char) : Option (List Char) :=
  (Text.dropInitial? closing text).filter lineEnds

def statement? : Reader Statement := fun text =>
  match text with
  | '[' :: '[' :: rest => do
      let (path, rest) ← path? pathLimit rest
      return (.item path, ← closeHeader? [']', ']'] rest)
  | '[' :: rest => do
      let (path, rest) ← path? pathLimit rest
      return (.table path, ← closeHeader? [']'] rest)
  | _ => do
      let ((path, node), rest) ← pair (value? depthLimit) text
      if lineEnds rest then some (.value path node, rest) else none

/-- The statements of a text: at most `fuel`, fewer than characters and one. -/
def statements? (fuel : Nat) (text : List Char) : Option (List Statement) :=
  match fuel with
  | 0 => none
  | fuel + 1 => do
      match ← skipGap false text with
      | [] => some []
      | rest =>
          let (statement, rest) ← statement? rest
          return statement :: (← statements? fuel rest)

/-- The table that the statements put together, where `header` is the path of
the table that values are added to. -/
def assemble (entries : Entries) (header : List (List Char)) : List Statement → Option Entries
  | [] => some entries
  | .table path :: rest => do assemble (← entries.beginTable path) path.keys rest
  | .item path :: rest => do assemble (← entries.beginItem path) path.keys rest
  | .value path node :: rest => do
      assemble (← entries.insertUnder header path node) header rest

/-- The table that a document describes, if it is well formed. A byte order
mark may stand in front. -/
def document? (text : List Char) : Option Entries := do
  let text :=
    match text with
    | '\ufeff' :: rest => rest
    | _ => text
  assemble [] [] (← statements? (text.length + 1) text)

end VideoTerminal.Toml
