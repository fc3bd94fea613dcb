/-!
Classes of characters: the control characters, which a terminal never shows,
and the blank characters, which count as white space around a value.
-/

namespace VideoTerminal.Text

/-- The control characters: the C0 set, delete, and the C1 set. -/
def isControl (char : Char) : Bool :=
  char.toNat < 0x20 || (0x7f ≤ char.toNat && char.toNat ≤ 0x9f)

/-- The characters with the white space property of Unicode. -/
def isBlank (char : Char) : Bool :=
  let code := char.toNat
  (0x09 ≤ code && code ≤ 0x0d) || code == 0x20 || code == 0x85 ||
    code == 0xa0 || code == 0x1680 || (0x2000 ≤ code && code ≤ 0x200a) ||
    code == 0x2028 || code == 0x2029 || code == 0x202f ||
    code == 0x205f || code == 0x3000

/-- Drop the longest run at the end of `items` whose members satisfy `drop`. -/
def trimEnd {alpha : Type _} (drop : alpha → Bool) (items : List alpha) : List alpha :=
  (items.reverse.dropWhile drop).reverse

/-- The text without the blank characters at its two ends. -/
def trim (text : List Char) : List Char :=
  trimEnd isBlank (text.dropWhile isBlank)

/-- The fields of `text` between separators: one more than there are
separators, so that the empty text has one empty field. -/
def fields (separator : Char) : List Char → List (List Char)
  | [] => [[]]
  | char :: rest =>
      if char = separator then [] :: fields separator rest
      else
        match fields separator rest with
        | [] => [[char]]
        | field :: others => (char :: field) :: others

/-- The part of `text` after its first separator, with the part before it;
everything is before when there is no separator. -/
def cut (separator : Char) (text : List Char) : List Char × List Char :=
  (text.takeWhile (· != separator), (text.dropWhile (· != separator)).drop 1)

/-- What follows `initial` in `text`, when `text` begins with it. -/
def dropInitial? : List Char → List Char → Option (List Char)
  | [], text => some text
  | _ :: _, [] => none
  | char :: initial, head :: text =>
      if char = head then dropInitial? initial text else none

/-- What precedes `final` in `text`, when `text` ends with it. -/
def dropFinal? (final text : List Char) : Option (List Char) :=
  (dropInitial? final.reverse text.reverse).map List.reverse

end VideoTerminal.Text
