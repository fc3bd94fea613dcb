/-!
UTF-8 read one byte at a time. An ill-formed piece is read as one replacement
character: the longest start of a well-formed character that the bytes allow,
or a single byte that can start none.
-/

namespace VideoTerminal.Text

/-- A character of which some bytes are still to come: how many, the range of
the next one, and the value of the bits read so far. -/
structure Unfinished where
  owed : Nat
  low : Nat
  high : Nat
  value : Nat
deriving DecidableEq

/-- What a byte between two characters begins. -/
inductive Lead where
  | char (char : Char)
  | start (unfinished : Unfinished)
  | illFormed
deriving DecidableEq

/-- The meaning of a first byte. The narrower ranges of the second byte
exclude overlong forms, surrogates, and values past the last character. -/
def Lead.ofByte (byte : Nat) : Lead :=
  if byte < 0x80 then .char (Char.ofNat byte)
  else if byte < 0xc2 then .illFormed
  else if byte < 0xe0 then .start ⟨1, 0x80, 0xbf, byte - 0xc0⟩
  else if byte < 0xf0 then
    .start ⟨2, if byte = 0xe0 then 0xa0 else 0x80,
      if byte = 0xed then 0x9f else 0xbf, byte - 0xe0⟩
  else if byte < 0xf5 then
    .start ⟨3, if byte = 0xf0 then 0x90 else 0x80,
      if byte = 0xf4 then 0x8f else 0xbf, byte - 0xf0⟩
  else .illFormed

/-- The character shown for an ill-formed piece. -/
def replacement : Char :=
  '\uFFFD'

/-- A reading in progress: the characters so far, whether every piece was well
formed, and the bytes of the character that is not complete yet. -/
structure Reading where
  chars : Array Char := #[]
  sound : Bool := true
  unfinished : Option Unfinished := none
  held : List UInt8 := []

/-- Read a byte between two characters. -/
def Reading.start (reading : Reading) (byte : UInt8) : Reading :=
  match Lead.ofByte byte.toNat with
  | .char char =>
      { reading with chars := reading.chars.push char, unfinished := none, held := [] }
  | .start unfinished =>
      { reading with unfinished := some unfinished, held := [byte] }
  | .illFormed =>
      { chars := reading.chars.push replacement, sound := false }

/-- Read one byte. A byte that cannot continue the unfinished character ends
it as an ill-formed piece and is read again as a first byte. -/
def Reading.step (reading : Reading) (byte : UInt8) : Reading :=
  match reading.unfinished with
  | none => reading.start byte
  | some unfinished =>
      if unfinished.low ≤ byte.toNat ∧ byte.toNat ≤ unfinished.high then
        let value := unfinished.value * 64 + (byte.toNat - 0x80)
        if unfinished.owed ≤ 1 then
          { reading with
            chars := reading.chars.push (Char.ofNat value), unfinished := none, held := [] }
        else
          { reading with
            unfinished := some ⟨unfinished.owed - 1, 0x80, 0xbf, value⟩
            held := reading.held ++ [byte] }
      else
        Reading.start { chars := reading.chars.push replacement, sound := false } byte

/-- Read all of `bytes`. -/
def Reading.ofBytes (bytes : List UInt8) : Reading :=
  bytes.foldl Reading.step {}

/-- The characters read, the unfinished one counting as an ill-formed piece. -/
def Reading.final (reading : Reading) : List Char :=
  match reading.unfinished with
  | none => reading.chars.toList
  | some _ => reading.chars.toList ++ [replacement]

/-- All of `bytes` as characters, ill-formed pieces replaced. -/
def decodeUtf8 (bytes : List UInt8) : List Char :=
  (Reading.ofBytes bytes).final

/-- All of `bytes` as characters, when they are well formed to their end. -/
def decodeUtf8? (bytes : List UInt8) : Option (List Char) :=
  let reading := Reading.ofBytes bytes
  if reading.sound && reading.unfinished.isNone then some reading.chars.toList else none

/-- The characters that `chunk` completes after the bytes `held` back before
it, and the bytes to hold back now. Bytes are held back only at the end of an
otherwise well-formed reading. -/
def decodeChunk (held chunk : List UInt8) : List Char × List UInt8 :=
  let reading := Reading.ofBytes (held ++ chunk)
  if reading.sound then (reading.chars.toList, reading.held)
  else (reading.final, [])

end VideoTerminal.Text
