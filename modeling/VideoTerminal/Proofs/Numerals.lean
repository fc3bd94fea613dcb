import Mathlib.Algebra.Group.Nat.Defs
import VideoTerminal.Text.Character
import VideoTerminal.Text.Numeral

/-!
Decimal numbers, as they are written and as they are read again, and the fields
in which several of them stand.
-/

namespace VideoTerminal.Text

/-! ## Numbers as they are written -/

theorem toList_toString (n : Nat) : (toString n).toList = Nat.toDigits 10 n := by
  simp [Nat.toString_eq_repr, Nat.repr]

theorem isDigit_of_mem_toString
    {n : Nat} {char : Char}
    (member : char ∈ (toString n).toList) :
    isDigit char = true := by
  rw [toList_toString] at member
  have digit := Nat.isDigit_of_mem_toDigits (by decide) (by decide) member
  rw [Char.isDigit, Bool.and_eq_true] at digit
  rw [isDigit, Bool.and_eq_true]
  exact digit

theorem toString_ne_nil (n : Nat) : (toString n).toList ≠ [] := by
  rw [toList_toString]
  exact Nat.toDigits_ne_nil

theorem semicolon_not_mem_toString (n : Nat) : ';' ∉ (toString n).toList := by
  intro member
  exact absurd (isDigit_of_mem_toString member) (by decide)

/-! ## Numbers as they are read -/

/-- The number that some digits stand for, however large. -/
def decimal (digits : List Char) : Nat :=
  Nat.ofDigitChars 10 digits 0

theorem decimal_toString (n : Nat) : decimal (toString n).toList = n := by
  rw [decimal, toList_toString, Nat.ofDigitChars_ten_toDigits]

theorem value_lt_of_isDigit {char : Char} (digit : isDigit char = true) :
    char.toNat - '0'.toNat < 10 := by
  rw [isDigit, Bool.and_eq_true, decide_eq_true_iff, decide_eq_true_iff] at digit
  have upper : char.toNat ≤ '9'.toNat := digit.2
  have nine : '9'.toNat = 57 ∧ '0'.toNat = 48 := by decide
  omega

theorem decimal_lt_pow
    {digits : List Char}
    (all : ∀ char ∈ digits, isDigit char = true) :
    decimal digits < 10 ^ digits.length := by
  -- What follows a number is worth less than one more of its last digit.
  have carried (value : Nat) :
      Nat.ofDigitChars 10 digits value < (value + 1) * 10 ^ digits.length := by
    induction digits generalizing value with
    | nil =>
        rw [Nat.ofDigitChars_nil, List.length_nil, Nat.pow_zero, Nat.mul_one]
        exact Nat.lt_succ_self value
    | cons char rest inductionHypothesis =>
        have small := value_lt_of_isDigit (all char List.mem_cons_self)
        have later := inductionHypothesis
          (fun other member => all other (List.mem_cons_of_mem char member))
          (10 * value + (char.toNat - '0'.toNat))
        rw [Nat.ofDigitChars_cons, List.length_cons]
        calc
          _ < (10 * value + (char.toNat - '0'.toNat) + 1) * 10 ^ rest.length := later
          _ ≤ ((value + 1) * 10) * 10 ^ rest.length := Nat.mul_le_mul_right _ (by omega)
          _ = (value + 1) * 10 ^ (rest.length + 1) := by
            rw [Nat.pow_succ', Nat.mul_assoc]
  have bound := carried 0
  rwa [Nat.zero_add, Nat.one_mul] at bound

/-- A number is written with no more digits than any number that is at least
as large. -/
theorem length_toString_le
    {digits : List Char}
    (all : ∀ char ∈ digits, isDigit char = true)
    (some : digits ≠ [])
    {n : Nat}
    (small : n ≤ decimal digits) :
    (toString n).toList.length ≤ digits.length := by
  rw [toList_toString,
    Nat.length_toDigits_le_iff (by decide) (List.length_pos_iff.mpr some)]
  exact Nat.lt_of_le_of_lt small (decimal_lt_pow all)

/-- A number that does not fit in a machine word is read as the largest one
that does. -/
theorem lenientNumber_eq_min
    {digits : List Char}
    (all : ∀ char ∈ digits, isDigit char = true) :
    lenientNumber digits = min (decimal digits) wordLimit := by
  -- The bound may be applied at the end, as what has reached it stays there.
  have carried (value : Nat) :
      digits.foldl
          (fun value char =>
            if isDigit char then
              min (value * 10 + (char.toNat - '0'.toNat)) wordLimit
            else value)
          (min value wordLimit) =
        min (Nat.ofDigitChars 10 digits value) wordLimit := by
    induction digits generalizing value with
    | nil => rw [Nat.ofDigitChars_nil, List.foldl_nil]
    | cons char rest inductionHypothesis =>
        have here := all char List.mem_cons_self
        have next :
            min (min value wordLimit * 10 + (char.toNat - '0'.toNat)) wordLimit =
              min (10 * value + (char.toNat - '0'.toNat)) wordLimit := by
          omega
        rw [List.foldl_cons, if_pos here, next, Nat.ofDigitChars_cons]
        have later (other : Char) (member : other ∈ rest) :=
          all other (List.mem_cons_of_mem char member)
        exact inductionHypothesis later _
  exact carried 0

/-- A number that fits in a machine word is read as it is written. -/
theorem lenientNumber_toString {n : Nat} (fits : n ≤ wordLimit) :
    lenientNumber (toString n).toList = n := by
  rw [lenientNumber_eq_min fun _ => isDigit_of_mem_toString, decimal_toString, Nat.min_eq_left fits]

/-! ## Fields -/

theorem fields_eq_splitOn (separator : Char) (text : List Char) :
    fields separator text = text.splitOn separator := by
  induction text with
  | nil => rfl
  | cons char rest inductionHypothesis =>
      rw [fields, List.splitOn_cons_eq_if_modifyHead, inductionHypothesis]
      obtain ⟨field, others, parts⟩ :=
        List.exists_cons_of_ne_nil (List.splitOn_ne_nil separator rest)
      by_cases separates : char = separator
      · rw [if_pos separates, if_pos (beq_iff_eq.mpr separates)]
      · rw [if_neg separates, if_neg (mt beq_iff_eq.mp separates), parts]
        rfl

theorem fields_intercalate
    {separator : Char} {parts : List (List Char)}
    (none : ∀ part ∈ parts, separator ∉ part)
    (some : parts ≠ []) :
    fields separator ([separator].intercalate parts) = parts := by
  rw [fields_eq_splitOn, List.splitOn_intercalate separator none some]

theorem intercalate_fields (separator : Char) (text : List Char) :
    [separator].intercalate (fields separator text) = text := by
  rw [fields_eq_splitOn, List.intercalate_splitOn]

theorem fields_ne_nil (separator : Char) (text : List Char) : fields separator text ≠ [] := by
  rw [fields_eq_splitOn]
  exact List.splitOn_ne_nil _ _

theorem mem_of_mem_fields
    {separator : Char} {text field : List Char}
    (part : field ∈ fields separator text)
    {char : Char}
    (member : char ∈ field) :
    char ∈ text ∧ char ≠ separator := by
  induction text generalizing field with
  | nil =>
      rw [fields, List.mem_singleton] at part
      subst part
      cases member
  | cons head rest inductionHypothesis =>
      have later {other : List Char}
          (here : other ∈ fields separator rest) (inside : char ∈ other) :
          char ∈ head :: rest ∧ char ≠ separator :=
        (inductionHypothesis here inside).imp_left (List.mem_cons_of_mem head)
      rw [fields] at part
      split at part
      · rcases List.mem_cons.mp part with rfl | here
        · cases member
        · exact later here member
      · next differs =>
          obtain ⟨more, others, parts⟩ :=
            List.exists_cons_of_ne_nil (fields_ne_nil separator rest)
          rw [parts] at part
          rcases List.mem_cons.mp part with rfl | here
          · rcases List.mem_cons.mp member with rfl | further
            · exact ⟨List.mem_cons_self, differs⟩
            · exact later (parts ▸ List.mem_cons_self) further
          · exact later (parts ▸ List.mem_cons_of_mem more here) member

theorem forall_mem_intercalate
    {separator : List Char} {parts : List (List Char)} {good : Char → Prop}
    (between : ∀ char ∈ separator, good char)
    (each : ∀ part ∈ parts, ∀ char ∈ part, good char) :
    ∀ char ∈ separator.intercalate parts, good char := by
  induction parts with
  | nil => nofun
  | cons part rest inductionHypothesis =>
      have later := inductionHypothesis fun other member =>
        each other (List.mem_cons_of_mem part member)
      have here := each part List.mem_cons_self
      cases rest with
      | nil => rwa [List.intercalate_singleton]
      | cons next others =>
          rw [List.intercalate_cons_cons]
          intro char member
          simp only [List.mem_append] at member
          rcases member with (first | middle) | last
          · exact here char first
          · exact between char middle
          · exact later char last

theorem length_intercalate_map_le
    {parts : List (List Char)} {change : List Char → List Char}
    (shorter : ∀ part ∈ parts, (change part).length ≤ part.length)
    (separator : List Char) :
    (separator.intercalate (parts.map change)).length ≤ (separator.intercalate parts).length := by
  induction parts with
  | nil => exact Nat.le_refl _
  | cons part rest inductionHypothesis =>
      have later := inductionHypothesis fun other member =>
        shorter other (List.mem_cons_of_mem part member)
      have here := shorter part List.mem_cons_self
      cases rest with
      | nil => rwa [List.map_singleton, List.intercalate_singleton, List.intercalate_singleton]
      | cons next others =>
          simp only [List.map_cons, List.intercalate_cons_cons, List.length_append] at later ⊢
          omega

end VideoTerminal.Text
