import Mathlib.Data.List.Forall2
import Mathlib.Data.Nat.Digits.Defs
import Mathlib.Tactic.IntervalCases
import VideoTerminal.Colour.Rgb
import VideoTerminal.Proofs.Numerals
import VideoTerminal.Proofs.Resizing

/-!
Colours as they are written: a number sign before six hexadecimal digits, or
three decimal numbers in parentheses. A text is read as a colour just if it has
one of these two forms, but that a plus sign may stand before the last digit of
a hexadecimal part, and before the digits of a decimal one.
-/

namespace VideoTerminal

namespace Text

/-! ## Blanks around a text -/

/-- `text` is `core` with nothing but blanks before and after it. -/
def Around (core text : List Char) : Prop :=
  ∃ before after,
    (∀ char ∈ before, isBlank char = true) ∧ (∀ char ∈ after, isBlank char = true) ∧
      text = before ++ core ++ after

/-- Neither the first nor the last character is a blank. -/
def Bare (core : List Char) : Prop :=
  (∀ char, core.head? = some char → isBlank char = false) ∧
    ∀ char, core.getLast? = some char → isBlank char = false

variable {core text : List Char}

theorem around_self (core : List Char) : Around core core :=
  ⟨[], [], nofun, nofun, (List.append_nil core).symm⟩

theorem around_trim (text : List Char) : Around (trim text) text := by
  obtain ⟨after, whole, blank⟩ := exists_trimEnd_append isBlank (text.dropWhile isBlank)
  refine ⟨text.takeWhile isBlank, after, fun _ => List.mem_takeWhile_imp, blank, ?_⟩
  rw [List.append_assoc, trim, whole, List.takeWhile_append_dropWhile]

theorem Around.trim_eq (around : Around core text) (bare : Bare core) : trim text = core := by
  obtain ⟨before, after, blankBefore, blankAfter, rfl⟩ := around
  rw [trim, List.append_assoc, List.dropWhile_append_of_pos blankBefore]
  cases core with
  | nil =>
      rw [List.nil_append, List.dropWhile_eq_nil_iff.mpr blankAfter]
      rfl
  | cons first rest =>
      have shown : ¬isBlank first = true := by
        rw [bare.1 first rfl]
        exact Bool.false_ne_true
      rw [List.cons_append, List.dropWhile_cons_of_neg shown, ← List.cons_append,
        trimEnd_append_of_all _ blankAfter]
      apply List.rdropWhile_eq_self_iff.mpr
      intro some
      rw [bare.2 _ (List.getLast?_eq_some_getLast some)]
      exact Bool.false_ne_true

theorem Around.mem_iff
    (around : Around core text)
    {char : Char}
    (shown : isBlank char = false) :
    char ∈ text ↔ char ∈ core := by
  obtain ⟨before, after, blankBefore, blankAfter, rfl⟩ := around
  have outside {blanks : List Char} (all : ∀ other ∈ blanks, isBlank other = true) :
      char ∉ blanks := by
    intro member
    exact Bool.false_ne_true (shown.symm.trans (all char member))
  simp [outside blankBefore, outside blankAfter]

theorem bare_of_forall (shown : ∀ char ∈ core, isBlank char = false) : Bare core :=
  ⟨fun char first => shown char (List.mem_of_mem_head? first),
    fun char last => shown char (List.mem_of_getLast? last)⟩

/-! ## What a text begins and ends with -/

theorem dropInitial?_eq_some_iff {initial text rest : List Char} :
    dropInitial? initial text = some rest ↔ text = initial ++ rest := by
  induction initial generalizing text with
  | nil => simp [dropInitial?]
  | cons char initial inductionHypothesis =>
      cases text with
      | nil => simp [dropInitial?]
      | cons head text =>
          rw [dropInitial?, List.cons_append, List.cons.injEq, eq_comm (a := head)]
          split
          · next same => rw [inductionHypothesis, and_iff_right same]
          · next differs => simp [differs]

theorem dropFinal?_eq_some_iff {final text rest : List Char} :
    dropFinal? final text = some rest ↔ text = rest ++ final := by
  rw [dropFinal?, Option.map_eq_some_iff]
  constructor
  · rintro ⟨reversed, found, rfl⟩
    rw [dropInitial?_eq_some_iff] at found
    rw [← List.reverse_reverse text, found, List.reverse_append, List.reverse_reverse]
  · rintro rfl
    refine ⟨rest.reverse, ?_, List.reverse_reverse rest⟩
    rw [dropInitial?_eq_some_iff, List.reverse_append]

/-! ## Numbers of several digits -/

/-- A digit of a radix up to sixteen, in lower or upper case. -/
def IsDigitOf (radix : Nat) (char : Char) (value : Nat) : Prop :=
  value < radix ∧ (char = value.digitChar ∨ char = value.digitChar.toUpper)

/-- One or more digits of a radix, and the number they stand for. -/
def IsNumeral (radix : Nat) (text : List Char) (value : Nat) : Prop :=
  text ≠ [] ∧
    ∃ digits, List.Forall₂ (IsDigitOf radix) text digits ∧
      value = Nat.ofDigits radix digits.reverse

/-- A numeral, or one after a plus sign where signs are admitted. -/
def IsNumber (signs : Bool) (radix : Nat) (text : List Char) (value : Nat) : Prop :=
  IsNumeral radix text value ∨
    signs = true ∧ ∃ digits, text = '+' :: digits ∧ IsNumeral radix digits value

variable {radix value : Nat}

theorem IsNumeral.exists_digit
    (numeral : IsNumeral radix text value)
    {char : Char}
    (member : char ∈ text) :
    ∃ digit, IsDigitOf radix char digit := by
  obtain ⟨-, digits, all, -⟩ := numeral
  induction all with
  | nil => cases member
  | cons first _ inductionHypothesis =>
      rcases List.mem_cons.mp member with rfl | later
      · exact ⟨_, first⟩
      · exact inductionHypothesis later

section Digits

variable (few : radix ≤ 16)
include few

/-- What holds of the sixteen digits in both cases holds of a digit. -/
theorem IsDigitOf.of_forall
    {char : Char} (digit : IsDigitOf radix char value)
    (property : Char → Prop)
    (all : ∀ value : Fin 16,
      property (Nat.digitChar value) ∧ property (Nat.digitChar value).toUpper) :
    property char := by
  obtain ⟨small, rfl | rfl⟩ := digit
  · exact (all ⟨value, Nat.lt_of_lt_of_le small few⟩).1
  · exact (all ⟨value, Nat.lt_of_lt_of_le small few⟩).2

theorem IsDigitOf.plain {char : Char} (digit : IsDigitOf radix char value) :
    char ≠ '+' ∧ char ≠ ',' ∧ isBlank char = false :=
  digit.of_forall few (fun char => char ≠ '+' ∧ char ≠ ',' ∧ isBlank char = false) (by decide)

theorem digitValue?_eq_some_iff {char : Char} :
    digitValue? radix char = some value ↔ IsDigitOf radix char value := by
  rw [digitValue?, Option.filter_eq_some_iff, decide_eq_true_iff, IsDigitOf, and_comm]
  apply and_congr_right
  intro small
  constructor
  · intro found
    -- The character is one of those between the bounds, each with its own value.
    have named := char.ofNat_toNat
    split_ifs at found with decimal lower upper
    · have bounds : 48 ≤ char.toNat ∧ char.toNat ≤ 57 := decimal
      obtain rfl := Option.some.inj found
      rw [← named]
      generalize char.toNat = code at bounds
      obtain ⟨low, high⟩ := bounds
      interval_cases code <;> decide
    · have bounds : 97 ≤ char.toNat ∧ char.toNat ≤ 122 := lower
      obtain rfl := Option.some.inj found
      have last : char.toNat - 97 + 10 < 16 := Nat.lt_of_lt_of_le small few
      rw [← named]
      generalize char.toNat = code at bounds last
      have high : code ≤ 102 := by omega
      obtain ⟨low, -⟩ := bounds
      interval_cases code <;> decide
    · have bounds : 65 ≤ char.toNat ∧ char.toNat ≤ 90 := upper
      obtain rfl := Option.some.inj found
      have last : char.toNat - 65 + 10 < 16 := Nat.lt_of_lt_of_le small few
      rw [← named]
      generalize char.toNat = code at bounds last
      have high : code ≤ 70 := by omega
      obtain ⟨low, -⟩ := bounds
      interval_cases code <;> decide
  · have limit : value < 16 := Nat.lt_of_lt_of_le small few
    rintro (rfl | rfl)
    · interval_cases value <;> rfl
    · interval_cases value <;> rfl

theorem readDigits?_eq_some_iff {text : List Char} {start : Nat} :
    readDigits? radix start text = some value ↔
      ∃ digits, List.Forall₂ (IsDigitOf radix) text digits ∧
        value = start * radix ^ text.length + Nat.ofDigits radix digits.reverse := by
  induction text generalizing start with
  | nil => simp [readDigits?, List.forall₂_nil_left_iff, eq_comm]
  | cons char rest inductionHypothesis =>
      have positional (digit : Nat) {digits : List Nat} (same : rest.length = digits.length) :
          (start * radix + digit) * radix ^ rest.length + Nat.ofDigits radix digits.reverse =
            start * radix ^ (rest.length + 1) +
              Nat.ofDigits radix (digit :: digits).reverse := by
        rw [List.reverse_cons, Nat.ofDigits_append, Nat.ofDigits_singleton, List.length_reverse,
          ← same]
        ring
      simp only [List.forall₂_cons_left_iff, List.length_cons]
      rw [readDigits?]
      constructor
      · intro read
        cases found : digitValue? radix char with
        | none =>
            rw [found] at read
            cases read
        | some digit =>
            rw [found] at read
            obtain ⟨digits, all, rfl⟩ := inductionHypothesis.mp read
            exact ⟨digit :: digits,
              ⟨digit, digits, (digitValue?_eq_some_iff few).mp found, all, rfl⟩,
              positional digit all.length_eq⟩
      · rintro ⟨_, ⟨digit, digits, first, all, rfl⟩, rfl⟩
        rw [(digitValue?_eq_some_iff few).mpr first]
        exact inductionHypothesis.mpr ⟨digits, all, (positional digit all.length_eq).symm⟩

theorem IsNumeral.plain (numeral : IsNumeral radix text value) :
    ∀ char ∈ text, char ≠ '+' ∧ char ≠ ',' ∧ isBlank char = false := by
  intro char member
  obtain ⟨digit, isDigit⟩ := numeral.exists_digit member
  exact isDigit.plain few

theorem IsNumber.plain {signs : Bool} (number : IsNumber signs radix text value) :
    ∀ char ∈ text, char ≠ ',' ∧ isBlank char = false := by
  intro char member
  rcases number with numeral | ⟨-, digits, rfl, numeral⟩
  · exact (numeral.plain few char member).2
  · rcases List.mem_cons.mp member with rfl | later
    · decide
    · exact (numeral.plain few char later).2

/-- Where no plus sign stands, it does not matter whether one may. -/
theorem isNumber_unsigned_iff :
    IsNumber false radix text value ↔ IsNumber true radix text value ∧ '+' ∉ text := by
  constructor
  · rintro (numeral | ⟨signed, -⟩)
    · exact ⟨.inl numeral, fun sign => (numeral.plain few '+' sign).1 rfl⟩
    · cases signed
  · rintro ⟨numeral | ⟨-, digits, rfl, -⟩, unsigned⟩
    · exact .inl numeral
    · exact absurd List.mem_cons_self unsigned

theorem unsigned?_eq_some_iff {limit : Nat} :
    unsigned? radix limit text = some value ↔ IsNumber true radix text value ∧ value ≤ limit := by
  have numeral (first : Char) (rest : List Char) :
      (readDigits? radix 0 (first :: rest)).filter (· ≤ limit) = some value ↔
        IsNumeral radix (first :: rest) value ∧ value ≤ limit := by
    simp only [Option.filter_eq_some_iff, decide_eq_true_iff, readDigits?_eq_some_iff few,
      Nat.zero_mul, Nat.zero_add, IsNumeral, ne_eq, reduceCtorEq, not_false_eq_true, true_and]
  have noNumeral (rest : List Char) : ¬IsNumeral radix ('+' :: rest) value := fun numeral =>
    (numeral.plain few '+' List.mem_cons_self).1 rfl
  cases text with
  | nil => simp [unsigned?, IsNumber, IsNumeral]
  | cons first rest =>
      by_cases signed : first = '+'
      · obtain rfl := signed
        have counted : IsNumber true radix ('+' :: rest) value ↔ IsNumeral radix rest value := by
          simp [IsNumber, noNumeral]
        rw [counted]
        cases rest with
        | nil => simp [unsigned?, IsNumeral]
        | cons next others => exact numeral next others
      · have counted :
            IsNumber true radix (first :: rest) value ↔ IsNumeral radix (first :: rest) value := by
          simp [IsNumber, signed]
        rw [counted, ← numeral]
        simp [unsigned?, signed]

/-- A number that fits in a byte. -/
theorem map_unsigned?_eq_some_iff {byte : UInt8} :
    (unsigned? radix 255 text).map UInt8.ofNat = some byte ↔
      IsNumber true radix text byte.toNat := by
  rw [Option.map_eq_some_iff]
  constructor
  · rintro ⟨value, read, rfl⟩
    obtain ⟨number, small⟩ := (unsigned?_eq_some_iff few).mp read
    rwa [UInt8.toNat_ofNat_of_lt' (Nat.lt_succ_of_le small)]
  · intro number
    have small : byte.toNat ≤ 255 := Nat.le_of_lt_succ byte.toNat_lt
    exact ⟨byte.toNat, (unsigned?_eq_some_iff few).mpr ⟨number, small⟩, UInt8.ofNat_toNat⟩

end Digits

end Text

namespace Rgb

open Text

variable {text red green blue : List Char} {colour : Rgb}

/-! ## The two forms of a colour -/

/-- A part of the hexadecimal form. -/
def IsHexPart (signs : Bool) (text : List Char) (part : UInt8) : Prop :=
  text.length = 2 ∧ IsNumber signs 16 text part.toNat

/-- A part of the decimal form, which may have blanks around it. -/
def IsDecimalPart (signs : Bool) (text : List Char) (part : UInt8) : Prop :=
  ∃ core, Around core text ∧ IsNumber signs 10 core part.toNat

/-- The three parts of a colour, each with the text that it has in a form. -/
def Spells (isPart : List Char → UInt8 → Prop) (red green blue : List Char) (colour : Rgb) :
    Prop :=
  isPart red colour.red ∧ isPart green colour.green ∧ isPart blue colour.blue

/-- What a colour is written as: `#rrggbb` or `rgb(r, g, b)`. -/
inductive Written (signs : Bool) : List Char → Rgb → Prop
  | hexadecimal {red green blue : List Char} {colour : Rgb} :
      Spells (IsHexPart signs) red green blue colour →
      Written signs ('#' :: (red ++ green ++ blue)) colour
  | decimal {red green blue : List Char} {colour : Rgb} :
      Spells (IsDecimalPart signs) red green blue colour →
      Written signs (['r', 'g', 'b', '('] ++ [','].intercalate [red, green, blue] ++ [')']) colour

/-- A colour is written in the text, with nothing but blanks around it. -/
def Denotes (signs : Bool) (text : String) (colour : Rgb) : Prop :=
  ∃ core, Around core text.toList ∧ Written signs core colour

/-! ## Parts -/

theorem hexPart?_eq_some_iff {first second : Char} {part : UInt8} :
    hexPart? first second = some part ↔ IsHexPart true [first, second] part := by
  rw [hexPart?, map_unsigned?_eq_some_iff (by decide)]
  exact (and_iff_right rfl).symm

theorem byte?_trim_eq_some_iff {part : UInt8} :
    byte? (trim text) = some part ↔ IsDecimalPart true text part := by
  rw [byte?, map_unsigned?_eq_some_iff (by decide)]
  constructor
  · intro number
    exact ⟨trim text, around_trim text, number⟩
  · rintro ⟨core, around, number⟩
    have bare : Bare core := bare_of_forall fun char member =>
      (number.plain (by decide) char member).2
    rwa [around.trim_eq bare]

theorem IsDecimalPart.comma_not_mem
    {signs : Bool} {part : UInt8}
    (isPart : IsDecimalPart signs text part) :
    ',' ∉ text := by
  obtain ⟨core, around, number⟩ := isPart
  rw [around.mem_iff (by decide)]
  intro member
  exact (number.plain (by decide) ',' member).1 rfl

theorem isHexPart_unsigned_iff {part : UInt8} :
    IsHexPart false text part ↔ IsHexPart true text part ∧ '+' ∉ text := by
  rw [IsHexPart, IsHexPart, isNumber_unsigned_iff (by decide), and_assoc]

theorem isDecimalPart_unsigned_iff {part : UInt8} :
    IsDecimalPart false text part ↔ IsDecimalPart true text part ∧ '+' ∉ text := by
  have outside {core : List Char} (around : Around core text) : '+' ∉ core ↔ '+' ∉ text :=
    not_congr (around.mem_iff (by decide)).symm
  constructor
  · rintro ⟨core, around, number⟩
    obtain ⟨signed, unsigned⟩ := (isNumber_unsigned_iff (by decide)).mp number
    exact ⟨⟨core, around, signed⟩, (outside around).mp unsigned⟩
  · rintro ⟨⟨core, around, signed⟩, unsigned⟩
    exact ⟨core, around,
      (isNumber_unsigned_iff (by decide)).mpr ⟨signed, (outside around).mpr unsigned⟩⟩

/-! ## Texts that are read -/

theorem ofHex?_eq_some_iff :
    ofHex? text = some colour ↔
      ∃ red green blue, Spells (IsHexPart true) red green blue colour ∧
        text = red ++ green ++ blue := by
  constructor
  · intro read
    unfold ofHex? at read
    split at read
    · next r₁ r₂ g₁ g₂ b₁ b₂ =>
        simp only [Option.bind_eq_bind, Option.bind_eq_some_iff, Option.pure_def,
          Option.some.injEq, hexPart?_eq_some_iff] at read
        obtain ⟨red, isRed, green, isGreen, blue, isBlue, rfl⟩ := read
        exact ⟨[r₁, r₂], [g₁, g₂], [b₁, b₂], ⟨isRed, isGreen, isBlue⟩, rfl⟩
    · cases read
  · rintro ⟨red, green, blue, ⟨isRed, isGreen, isBlue⟩, rfl⟩
    obtain ⟨r₁, r₂, rfl⟩ := List.length_eq_two.mp isRed.1
    obtain ⟨g₁, g₂, rfl⟩ := List.length_eq_two.mp isGreen.1
    obtain ⟨b₁, b₂, rfl⟩ := List.length_eq_two.mp isBlue.1
    rw [← hexPart?_eq_some_iff] at isRed isGreen isBlue
    simp [ofHex?, isRed, isGreen, isBlue]

theorem ofParts?_eq_some_iff :
    ofParts? text = some colour ↔
      ∃ red green blue, Spells (IsDecimalPart true) red green blue colour ∧
        text = [','].intercalate [red, green, blue] := by
  constructor
  · intro read
    unfold ofParts? at read
    split at read
    · next cores =>
        simp only [List.map_eq_cons_iff, List.map_eq_nil_iff] at cores
        obtain ⟨red, _, parts, rfl, green, _, rfl, rfl, blue, _, rfl, rfl, rfl⟩ := cores
        simp only [Option.bind_eq_bind, Option.bind_eq_some_iff, Option.pure_def,
          Option.some.injEq, byte?_trim_eq_some_iff] at read
        obtain ⟨_, isRed, _, isGreen, _, isBlue, rfl⟩ := read
        refine ⟨red, green, blue, ⟨isRed, isGreen, isBlue⟩, ?_⟩
        rw [← parts, intercalate_fields]
    · cases read
  · rintro ⟨red, green, blue, ⟨isRed, isGreen, isBlue⟩, rfl⟩
    have parts : fields ',' ([','].intercalate [red, green, blue]) = [red, green, blue] := by
      apply fields_intercalate
      · simp [isRed.comma_not_mem, isGreen.comma_not_mem, isBlue.comma_not_mem]
      · exact List.cons_ne_nil _ _
    rw [← byte?_trim_eq_some_iff] at isRed isGreen isBlue
    simp only [ofParts?, parts, List.map_cons, List.map_nil, isRed, isGreen, isBlue]
    rfl

theorem Written.bare {signs : Bool} {core : List Char} (written : Written signs core colour) :
    Bare core := by
  cases written with
  | @hexadecimal red green blue _ parts =>
      obtain ⟨-, -, length, number⟩ := parts
      obtain ⟨b₁, b₂, rfl⟩ := List.length_eq_two.mp length
      constructor
      · rintro char ⟨⟩
        decide
      · intro char last
        have ends :
            '#' :: (red ++ green ++ [b₁, b₂]) = ('#' :: (red ++ green ++ [b₁])) ++ [b₂] := by
          simp
        rw [ends, List.getLast?_concat] at last
        obtain rfl := Option.some.inj last
        exact (number.plain (by decide) b₂ (by simp)).2
  | decimal parts =>
      constructor
      · rintro char ⟨⟩
        decide
      · intro char last
        rw [List.getLast?_concat] at last
        obtain rfl := Option.some.inj last
        decide

theorem written_hexadecimal_iff {signs : Bool} {digits : List Char} :
    Written signs ('#' :: digits) colour ↔
      ∃ red green blue, Spells (IsHexPart signs) red green blue colour ∧
        digits = red ++ green ++ blue := by
  constructor
  · intro written
    cases written with
    | hexadecimal parts => exact ⟨_, _, _, parts, rfl⟩
  · rintro ⟨red, green, blue, parts, rfl⟩
    exact .hexadecimal parts

theorem written_decimal_iff
    {signs : Bool} {core : List Char}
    (other : ∀ digits, core ≠ '#' :: digits) :
    Written signs core colour ↔
      ∃ red green blue, Spells (IsDecimalPart signs) red green blue colour ∧
        core = ['r', 'g', 'b', '('] ++ [','].intercalate [red, green, blue] ++ [')'] := by
  constructor
  · intro written
    cases written with
    | hexadecimal => exact absurd rfl (other _)
    | decimal parts => exact ⟨_, _, _, parts, rfl⟩
  · rintro ⟨red, green, blue, parts, rfl⟩
    exact .decimal parts

theorem parse?_eq_some_iff_written {text : String} :
    parse? text = some colour ↔ Written true (trim text.toList) colour := by
  unfold parse?
  generalize trim text.toList = core
  split
  · rw [written_hexadecimal_iff, ofHex?_eq_some_iff]
  · next other =>
      rw [written_decimal_iff other]
      split
      · next rest opened =>
          obtain rfl := dropInitial?_eq_some_iff.mp opened
          rw [Option.bind_eq_some_iff]
          constructor
          · rintro ⟨inner, closed, read⟩
            obtain rfl := dropFinal?_eq_some_iff.mp closed
            obtain ⟨red, green, blue, parts, rfl⟩ := ofParts?_eq_some_iff.mp read
            exact ⟨red, green, blue, parts, rfl⟩
          · rintro ⟨red, green, blue, parts, whole⟩
            refine ⟨[','].intercalate [red, green, blue], ?_, ?_⟩
            · rw [List.append_assoc] at whole
              exact dropFinal?_eq_some_iff.mpr (List.append_cancel_left whole)
            · exact ofParts?_eq_some_iff.mpr ⟨red, green, blue, parts, rfl⟩
      · next notOpened =>
          constructor
          · nofun
          · rintro ⟨red, green, blue, -, rfl⟩
            have opened := dropInitial?_eq_some_iff.mpr (List.append_assoc ['r', 'g', 'b', '(']
              ([','].intercalate [red, green, blue]) [')'])
            exact absurd (notOpened.symm.trans opened) nofun

theorem parse?_eq_some_iff (text : String) (colour : Rgb) :
    parse? text = some colour ↔ Denotes true text colour := by
  rw [parse?_eq_some_iff_written]
  constructor
  · intro written
    exact ⟨trim text.toList, around_trim text.toList, written⟩
  · rintro ⟨core, around, written⟩
    rwa [around.trim_eq written.bare]

/-! ## Texts without a sign -/

theorem spells_unsigned_iff
    {unsigned signed : List Char → UInt8 → Prop}
    (each : ∀ {text part}, unsigned text part ↔ signed text part ∧ '+' ∉ text) :
    Spells unsigned red green blue colour ↔
      Spells signed red green blue colour ∧ '+' ∉ red ++ green ++ blue := by
  simp only [Spells, each, List.mem_append, not_or]
  tauto

theorem written_unsigned_iff {core : List Char} :
    Written false core colour ↔ Written true core colour ∧ '+' ∉ core := by
  have between (red green blue : List Char) :
      '+' ∉ ['r', 'g', 'b', '('] ++ [','].intercalate [red, green, blue] ++ [')'] ↔
        '+' ∉ red ++ green ++ blue := by
    simp [List.intercalate_cons_cons]
  have behind (red green blue : List Char) :
      '+' ∉ '#' :: (red ++ green ++ blue) ↔ '+' ∉ red ++ green ++ blue := by
    simp
  constructor
  · intro written
    cases written with
    | hexadecimal parts =>
        obtain ⟨signed, none⟩ := (spells_unsigned_iff isHexPart_unsigned_iff).mp parts
        exact ⟨.hexadecimal signed, (behind _ _ _).mpr none⟩
    | decimal parts =>
        obtain ⟨signed, none⟩ := (spells_unsigned_iff isDecimalPart_unsigned_iff).mp parts
        exact ⟨.decimal signed, (between _ _ _).mpr none⟩
  · rintro ⟨written, none⟩
    cases written with
    | hexadecimal parts =>
        rw [behind] at none
        exact .hexadecimal ((spells_unsigned_iff isHexPart_unsigned_iff).mpr ⟨parts, none⟩)
    | decimal parts =>
        rw [between] at none
        exact .decimal ((spells_unsigned_iff isDecimalPart_unsigned_iff).mpr ⟨parts, none⟩)

theorem denotes_unsigned_iff (text : String) (colour : Rgb) :
    Denotes false text colour ↔ Denotes true text colour ∧ '+' ∉ text.toList := by
  simp only [Denotes, written_unsigned_iff, ← and_assoc, ← exists_and_right]
  apply exists_congr
  intro core
  apply and_congr_right
  rintro ⟨around, -⟩
  exact not_congr (around.mem_iff (by decide)).symm

/-! ## Texts that are written -/

theorem isHexPart_hexByte (part : UInt8) : IsHexPart false (hexByte part) part := by
  have digit {value : Nat} (small : value < 16) : IsDigitOf 16 (hexDigit value) value := by
    refine ⟨small, .inl ?_⟩
    interval_cases value <;> rfl
  have high : part.toNat / 16 < 16 := by
    have byte := part.toNat_lt
    omega
  have low : part.toNat % 16 < 16 := by omega
  refine ⟨rfl, .inl ⟨List.cons_ne_nil _ _, [part.toNat / 16, part.toNat % 16], ?_, ?_⟩⟩
  · exact .cons (digit high) (.cons (digit low) .nil)
  · rw [List.reverse_cons, List.reverse_singleton, Nat.ofDigits_append, Nat.ofDigits_singleton,
      Nat.ofDigits_singleton, List.length_singleton, pow_one, Nat.mod_add_div]

theorem denotes_hexText (colour : Rgb) : Denotes false colour.hexText colour := by
  refine ⟨colour.hexText.toList, around_self _, ?_⟩
  rw [hexText, String.toList_ofList]
  exact .hexadecimal
    ⟨isHexPart_hexByte colour.red, isHexPart_hexByte colour.green, isHexPart_hexByte colour.blue⟩

/-- A text is read as a colour just if this colour is written in it, where plus
signs are admitted before the numbers. It is written there without a sign just
if the text is read as it and has no plus sign. The text that is written for a
colour is read as that colour again. -/
theorem parse?_eq_some_iff_denotes (text : String) (colour : Rgb) :
    (parse? text = some colour ↔ Denotes true text colour) ∧
      (Denotes false text colour ↔ parse? text = some colour ∧ '+' ∉ text.toList) ∧
      parse? colour.hexText = some colour := by
  refine ⟨parse?_eq_some_iff text colour, ?_, ?_⟩
  · rw [denotes_unsigned_iff, parse?_eq_some_iff]
  · obtain ⟨signed, -⟩ := (denotes_unsigned_iff _ _).mp (denotes_hexText colour)
    exact (parse?_eq_some_iff _ _).mpr signed

/-- Numbers with a sign, in both forms. -/
theorem parse?_plus_signs :
    parse? "#+1+2+3" = some ⟨1, 2, 3⟩ ∧
      parse? "rgb(+1, 2, +255)" = some ⟨1, 2, 255⟩ ∧
      ∀ text ∈ ["#+1+2+3", "rgb(+1, 2, +255)"], ∀ colour, ¬Denotes false text colour := by
  refine ⟨by decide +kernel, by decide +kernel, ?_⟩
  intro text member colour denotes
  have signed : ∀ text ∈ ["#+1+2+3", "rgb(+1, 2, +255)"], '+' ∈ text.toList := by decide +kernel
  exact ((denotes_unsigned_iff text colour).mp denotes).2 (signed text member)

end Rgb

end VideoTerminal
