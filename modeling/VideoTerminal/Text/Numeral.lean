/-!
Numerals: unsigned numbers in a given radix, read strictly or leniently, and
the two-digit hexadecimal text of a byte.
-/

namespace VideoTerminal.Text

/-- The value of a digit, letters of either case counting from ten. -/
def digitValue? (radix : Nat) (char : Char) : Option Nat :=
  let value :=
    if '0' ≤ char ∧ char ≤ '9' then some (char.toNat - '0'.toNat)
    else if 'a' ≤ char ∧ char ≤ 'z' then some (char.toNat - 'a'.toNat + 10)
    else if 'A' ≤ char ∧ char ≤ 'Z' then some (char.toNat - 'A'.toNat + 10)
    else none
  value.filter (· < radix)

/-- One decimal digit. -/
def isDigit (char : Char) : Bool :=
  '0' ≤ char && char ≤ '9'

/-- The number written by `digits` after the digits worth `value`; nothing
when one of them is not a digit of the radix. -/
def readDigits? (radix value : Nat) : List Char → Option Nat
  | [] => some value
  | char :: rest =>
      match digitValue? radix char with
      | some digit => readDigits? radix (value * radix + digit) rest
      | none => none

/-- A number of at most `limit`: one or more digits, after at most one plus
sign. -/
def unsigned? (radix limit : Nat) (text : List Char) : Option Nat :=
  let digits :=
    match text with
    | '+' :: rest => rest
    | _ => text
  match digits with
  | [] => none
  | _ :: _ => (readDigits? radix 0 digits).filter (· ≤ limit)

/-- The number of values of a machine word of 64 bits. -/
def wordSize : Nat :=
  18446744073709551616

/-- The largest number of a machine word. -/
def wordLimit : Nat :=
  wordSize - 1

/-- A decimal number that fits in a machine word. -/
def word? (text : List Char) : Option Nat :=
  unsigned? 10 wordLimit text

/-- A decimal number that fits in a byte. -/
def byte? (text : List Char) : Option UInt8 :=
  (unsigned? 10 255 text).map UInt8.ofNat

/-- The number written by the decimal digits of `text`, all else passed over,
and no more than a machine word holds. -/
def lenientNumber (text : List Char) : Nat :=
  text.foldl
    (fun value char =>
      if isDigit char then
        min (value * 10 + (char.toNat - '0'.toNat)) wordLimit
      else value)
    0

/-- A hexadecimal digit in lower case. -/
def hexDigit (value : Nat) : Char :=
  if value < 10 then Char.ofNat ('0'.toNat + value)
  else Char.ofNat ('a'.toNat + (value - 10))

/-- The two hexadecimal digits of a byte, in lower case. -/
def hexByte (byte : UInt8) : List Char :=
  [hexDigit (byte.toNat / 16), hexDigit (byte.toNat % 16)]

end VideoTerminal.Text
