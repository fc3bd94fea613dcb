import VideoTerminal.Text.Character
import VideoTerminal.Text.Numeral
import VideoTerminal.Toml.Node

/-!
Values of a TOML document without brackets or quotes: truth values, integers,
floating-point numbers and times.
-/

namespace VideoTerminal.Toml

/-! ## Integers -/

/-- The digits of a numeral, single underscores between digits left out. -/
def digits? (radix : Nat) (text : List Char) : Option (List Char) :=
  let groups := Text.fields '_' text
  let isGroup (group : List Char) : Bool :=
    !group.isEmpty && group.all fun char => (Text.digitValue? radix char).isSome
  if groups.all isGroup then some groups.flatten else none

/-- The value of a numeral. -/
def numeral? (radix : Nat) (text : List Char) : Option Nat := do
  Text.readDigits? radix 0 (← digits? radix text)

/-- A sign, and what follows it. -/
def sign : List Char → Bool × List Char
  | '-' :: rest => (true, rest)
  | '+' :: rest => (false, rest)
  | text => (false, text)

/-- Decimal digits without a superfluous zero in front. -/
def wholeDigits? (text : List Char) : Option (List Char) := do
  match ← digits? 10 text with
  | '0' :: _ :: _ => none
  | digits => some digits

/-- An integer of 64 bits; those in other radices have no sign. -/
def integer? (text : List Char) : Option Int :=
  let value : Option Int :=
    match text with
    | '0' :: 'x' :: rest => (numeral? 16 rest).map Int.ofNat
    | '0' :: 'o' :: rest => (numeral? 8 rest).map Int.ofNat
    | '0' :: 'b' :: rest => (numeral? 2 rest).map Int.ofNat
    | _ => do
        let (negative, rest) := sign text
        let magnitude ← Text.readDigits? 10 0 (← wholeDigits? rest)
        return if negative then -Int.ofNat magnitude else Int.ofNat magnitude
  let limit := Int.ofNat (Text.wordSize / 2)
  value.filter fun value => -limit ≤ value ∧ value < limit

/-! ## Floating-point numbers -/

/-- The number `digits * 10 ^ exponent` is too large for a floating-point
number of 64 bits: it is nearer to the power of two after the largest of these
than to that largest one, or as near. -/
def exceedsFloat (digits : Nat) (exponent : Int) : Bool :=
  let limit := Nat.pow 2 1024 - Nat.pow 2 970
  let length := (Nat.toDigits 10 digits).length
  if digits = 0 ∨ exponent + length < 300 then false
  else if exponent + length > 320 then true
  else if exponent ≥ 0 then digits * Nat.pow 10 exponent.toNat ≥ limit
  else digits ≥ limit * Nat.pow 10 (-exponent).toNat

/-- The exponent of a floating-point number, with its letter; zero when there
is none. -/
def exponent? : List Char → Option Int
  | [] => some 0
  | letter :: rest => do
      let (negative, rest) := sign rest
      let magnitude ← numeral? 10 rest
      if letter = 'e' ∨ letter = 'E' then
        some (if negative then -Int.ofNat magnitude else Int.ofNat magnitude)
      else none

/-- A floating-point number: digits with a fraction, an exponent or both, or
one of the two that are not finite. -/
def isFloat (text : List Char) : Bool :=
  let (negative, rest) := sign text
  let isMark (char : Char) : Bool := char == '.' || char == 'e' || char == 'E'
  let whole := rest.takeWhile (!isMark ·)
  let parts : Option (List Char × List Char) :=
    match rest.dropWhile (!isMark ·) with
    | '.' :: more => do
        let fraction ← digits? 10 (more.takeWhile (!isMark ·))
        return (fraction, more.dropWhile (!isMark ·))
    | [] => none
    | more => some ([], more)
  let value : Option (Nat × Int) := do
    let (fraction, more) ← parts
    let digits ← Text.readDigits? 10 0 ((← wholeDigits? whole) ++ fraction)
    return (digits, (← exponent? more) - fraction.length)
  match value with
  | some (digits, exponent) => negative || !exceedsFloat digits exponent
  | none => rest = "inf".toList ∨ rest = "nan".toList

/-! ## Times -/

/-- A number of two digits from `least` to `greatest`. -/
def pair? (least greatest : Nat) (first second : Char) : Option Nat :=
  (Text.readDigits? 10 0 [first, second]).filter fun value =>
    least ≤ value ∧ value ≤ greatest

def isLeapYear (year : Nat) : Bool :=
  year % 4 == 0 && (year % 100 != 0 || year % 400 == 0)

def daysInMonth (year month : Nat) : Nat :=
  if month = 2 then if isLeapYear year then 29 else 28
  else if month ∈ [4, 6, 9, 11] then 30
  else 31

/-- What follows the date at the beginning of a text. -/
def afterDate? : List Char → Option (List Char)
  | a :: b :: c :: d :: '-' :: e :: f :: '-' :: g :: h :: rest => do
      let year ← Text.readDigits? 10 0 [a, b, c, d]
      let month ← pair? 1 12 e f
      let _ ← pair? 1 (daysInMonth year month) g h
      return rest
  | _ => none

/-- What follows the time of day at the beginning of a text. -/
def afterTime? : List Char → Option (List Char)
  | a :: b :: ':' :: c :: d :: ':' :: e :: f :: rest => do
      let _ ← pair? 0 23 a b
      let _ ← pair? 0 59 c d
      let _ ← pair? 0 60 e f
      match rest with
      | '.' :: more =>
          if (more.takeWhile Text.isDigit).isEmpty then none
          else some (more.dropWhile Text.isDigit)
      | _ => some rest
  | _ => none

/-- An offset from universal time, or nothing. -/
def isOffset : List Char → Bool
  | [] | ['Z'] | ['z'] => true
  | [mark, a, b, ':', c, d] =>
      (mark == '+' || mark == '-') && (pair? 0 23 a b).isSome && (pair? 0 59 c d).isSome
  | _ => false

/-- A date, a time of day, or both, with an offset if both are there. -/
def isTime (text : List Char) : Bool :=
  match afterDate? text with
  | some [] => true
  | some (mark :: rest) =>
      (mark == 'T' || mark == 't' || mark == ' ') && (afterTime? rest).any isOffset
  | none => afterTime? text == some []

/-! ## Values -/

/-- The characters of values without brackets or quotes. -/
def isValueChar (char : Char) : Bool :=
  char.isAlphanum || char ∈ ['_', '+', '-', '.', ':']

/-- A date is followed by a blank and a time of day. -/
def timeFollows (date rest : List Char) : Bool :=
  afterDate? date == some [] &&
    match rest with
    | ' ' :: a :: b :: ':' :: _ => Text.isDigit a && Text.isDigit b
    | _ => false

/-- The longest text at the beginning that can be one value, and what follows
it. -/
def valueText (text : List Char) : List Char × List Char :=
  let first := text.takeWhile isValueChar
  let rest := text.dropWhile isValueChar
  if timeFollows first rest then
    (first ++ rest.take 1 ++ (rest.drop 1).takeWhile isValueChar,
      (rest.drop 1).dropWhile isValueChar)
  else (first, rest)

/-- The value of a text without brackets or quotes. -/
def scalarNode? (text : List Char) : Option Node :=
  if text = "true".toList then some (.boolean true)
  else if text = "false".toList then some (.boolean false)
  else if isTime text then some (.time text)
  else if isFloat text then some (.float text)
  else (integer? text).map .integer

end VideoTerminal.Toml
