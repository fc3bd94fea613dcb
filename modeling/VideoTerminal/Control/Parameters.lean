import VideoTerminal.Text.Character
import VideoTerminal.Text.Numeral

/-!
The characters gathered while a sequence is read, and the numbers they stand
for.
-/

namespace VideoTerminal

/-- The characters of a sequence between its introduction and its end. -/
structure Parameters where
  chars : Array Char := #[]
deriving DecidableEq

namespace Parameters

/-- No more characters are kept once there are this many bytes of them. -/
def limit : Nat := 4096

/-- The size of the characters in UTF-8. -/
def byteSize (parameters : Parameters) : Nat :=
  parameters.chars.foldl (fun size char => size + char.utf8Size) 0

/-- Add a character, unless the limit has been reached. -/
def push (parameters : Parameters) (char : Char) : Parameters :=
  if parameters.byteSize < limit then ⟨parameters.chars.push char⟩ else parameters

def toList (parameters : Parameters) : List Char :=
  parameters.chars.toList

/-- The fields between semicolons. -/
def fields (parameters : Parameters) : List (List Char) :=
  Text.fields ';' parameters.toList

/-- The number of a field, unless the field is missing or empty. -/
def number? (parameters : Parameters) (index : Nat) : Option Nat :=
  match parameters.fields[index]? with
  | some (char :: rest) => some (Text.lenientNumber (char :: rest))
  | _ => none

/-- The number of a field, or a default. -/
def number (parameters : Parameters) (index default : Nat) : Nat :=
  (parameters.number? index).getD default

/-- A count: 1 when there is none, and when it is 0. -/
def count (parameters : Parameters) (index : Nat) : Nat :=
  max (parameters.number index 1) 1

/-- The largest number of a list. -/
def listLimit : Nat := 65535

/-- The numbers of all fields, an empty one counting as 0; none when there are
no characters. -/
def numbers (parameters : Parameters) : List Nat :=
  if parameters.chars.isEmpty then []
  else parameters.fields.map fun field => min (Text.lenientNumber field) listLimit

end Parameters

end VideoTerminal
