import VideoTerminal.Rendition.Selection

/-!
Lists of numbers that select a rendition, applied one after the other and
twice. How a list is read does not depend on the rendition it is applied to:
in the end each part of the rendition has been set to a value, or is what it
was. And a list says the same before another one as alone, unless it ends too
soon for the operands of a colour, which would be looked for in the other.
-/

namespace VideoTerminal.Rendition

/-! ## Parts that are set -/

/-- The values that some parts of a rendition are set to. -/
structure Setting where
  foreground : Option Colour := none
  background : Option Colour := none
  bold : Option Bool := none
  italic : Option Bool := none
  underline : Option Bool := none
  reverse : Option Bool := none
  blink : Option Bool := none

namespace Setting

/-- Set these parts, and leave the others as they are. -/
def apply (setting : Setting) (rendition : Rendition) : Rendition where
  foreground := setting.foreground.getD rendition.foreground
  background := setting.background.getD rendition.background
  bold := setting.bold.getD rendition.bold
  italic := setting.italic.getD rendition.italic
  underline := setting.underline.getD rendition.underline
  reverse := setting.reverse.getD rendition.reverse
  blink := setting.blink.getD rendition.blink

/-- The parts that either of two settings has, with the value of the second
where both have one. -/
def andThen (first second : Setting) : Setting where
  foreground := second.foreground.or first.foreground
  background := second.background.or first.background
  bold := second.bold.or first.bold
  italic := second.italic.or first.italic
  underline := second.underline.or first.underline
  reverse := second.reverse.or first.reverse
  blink := second.blink.or first.blink

theorem apply_andThen (first second : Setting) (rendition : Rendition) :
    (first.andThen second).apply rendition = second.apply (first.apply rendition) := by
  simp only [apply, andThen, Option.getD_or]

theorem apply_apply (setting : Setting) (rendition : Rendition) :
    setting.apply (setting.apply rendition) = setting.apply rendition := by
  have twice {part : Type} (value : Option part) (old : part) :
      value.getD (value.getD old) = value.getD old := by
    cases value <;> rfl
  simp only [apply, twice]

end Setting

/-- The change sets parts of a rendition to values that do not depend on it,
and leaves the others as they are. -/
def Sets (change : Rendition → Rendition) : Prop :=
  ∃ setting : Setting, ∀ rendition, change rendition = setting.apply rendition

namespace Sets

variable {change first second : Rendition → Rendition}

theorem idempotent (sets : Sets change) (rendition : Rendition) :
    change (change rendition) = change rendition := by
  obtain ⟨setting, same⟩ := sets
  rw [same, same, Setting.apply_apply]

theorem congr (sets : Sets second) (same : ∀ rendition, first rendition = second rendition) :
    Sets first := by
  obtain ⟨setting, secondEq⟩ := sets
  exact ⟨setting, fun rendition => (same rendition).trans (secondEq rendition)⟩

theorem nothing : Sets fun rendition => rendition :=
  ⟨{}, fun _ => rfl⟩

theorem followedBy (before : Sets first) (after : Sets second) :
    Sets fun rendition => second (first rendition) := by
  obtain ⟨firstSetting, firstEq⟩ := before
  obtain ⟨secondSetting, secondEq⟩ := after
  exact ⟨firstSetting.andThen secondSetting, fun rendition => by
    simp only [firstEq, secondEq, Setting.apply_andThen]⟩

theorem either {condition : Prop} [Decidable condition] (yes : Sets first) (no : Sets second) :
    Sets fun rendition => if condition then first rendition else second rendition := by
  by_cases holds : condition
  · simpa only [if_pos holds] using yes
  · simpa only [if_neg holds] using no

theorem paint (ground : Ground) (colour : Colour) :
    Sets fun rendition => rendition.paint ground colour := by
  cases ground with
  | foreground => exact ⟨{ foreground := some colour }, fun _ => rfl⟩
  | background => exact ⟨{ background := some colour }, fun _ => rfl⟩

theorem applyCode (blinkIsBold : Bool) (code : Nat) :
    Sets fun rendition => rendition.applyCode blinkIsBold code := by
  have reset : Sets fun _ => {} :=
    ⟨⟨some .default, some .default, some false, some false, some false, some false, some false⟩,
      fun _ => rfl⟩
  have bold (value : Bool) : Sets fun rendition => { rendition with bold := value } :=
    ⟨{ bold := some value }, fun _ => rfl⟩
  have italic (value : Bool) : Sets fun rendition => { rendition with italic := value } :=
    ⟨{ italic := some value }, fun _ => rfl⟩
  have underline (value : Bool) : Sets fun rendition => { rendition with underline := value } :=
    ⟨{ underline := some value }, fun _ => rfl⟩
  have reverse (value : Bool) : Sets fun rendition => { rendition with reverse := value } :=
    ⟨{ reverse := some value }, fun _ => rfl⟩
  have blink (value : Bool) : Sets fun rendition => { rendition with blink := value } :=
    ⟨{ blink := some value }, fun _ => rfl⟩
  exact either reset <| either (bold true) <| either (italic true) <| either (underline true) <|
    either (either (bold true) (blink true)) <| either (reverse true) <|
    either (bold false) <| either (italic false) <| either (underline false) <|
    either (either (bold false) (blink false)) <| either (reverse false) <|
    either (paint _ _) <| either (paint _ _) <| either (paint _ _) <| either (paint _ _) <|
    either (paint _ _) <| either (paint _ _) nothing

end Sets

/-! ## Lists that are read -/

section Scan

variable {blinkIsBold : Bool} {code : Nat} {ground : Ground}

theorem scan_of_plain
    (plain : extended? code = none)
    (rest : List Nat) (rendition : Rendition) :
    scan blinkIsBold (code :: rest) rendition =
      scan blinkIsBold rest (rendition.applyCode blinkIsBold code) := by
  rw [scan, plain]

theorem scan_of_index
    (extended : extended? code = some ground)
    (index : Nat) (rest : List Nat) (rendition : Rendition) :
    scan blinkIsBold (code :: 5 :: index :: rest) rendition =
      scan blinkIsBold rest (rendition.paint ground (.indexed (clampByte index))) := by
  rw [scan, extended]
  rfl

theorem scan_of_direct
    (extended : extended? code = some ground)
    (red green blue : Nat) (rest : List Nat) (rendition : Rendition) :
    scan blinkIsBold (code :: 2 :: red :: green :: blue :: rest) rendition =
      scan blinkIsBold rest
        (rendition.paint ground (.direct ⟨clampByte red, clampByte green, clampByte blue⟩)) := by
  rw [scan, extended]
  rfl

/-- An operand of no known kind is read as a number of its own. -/
theorem scan_of_unknown
    (extended : extended? code = some ground)
    {operand : Nat}
    (noIndex : operand ≠ 5) (noDirect : operand ≠ 2)
    (rest : List Nat) (rendition : Rendition) :
    scan blinkIsBold (code :: operand :: rest) rendition =
      scan blinkIsBold (operand :: rest) rendition := by
  rw [scan, extended]
  grind

theorem sets_scan (blinkIsBold : Bool) (codes : List Nat) : Sets (scan blinkIsBold codes) := by
  -- The rendition that the induction is on plays no part in the statement.
  induction codes, ({} : Rendition) using scan.induct blinkIsBold with
  | case1 => exact .nothing
  | case2 code rest _ plain inductionHypothesis =>
      exact ((Sets.applyCode blinkIsBold code).followedBy inductionHypothesis).congr
        (scan_of_plain plain rest)
  | case3 code _ ground extended index others inductionHypothesis =>
      exact ((Sets.paint ground _).followedBy inductionHypothesis).congr
        (scan_of_index extended index others)
  | case4 code _ ground extended =>
      exact Sets.nothing.congr fun rendition => by
        rw [scan, extended]
        rfl
  | case5 code _ ground extended red green blue others inductionHypothesis =>
      exact ((Sets.paint ground _).followedBy inductionHypothesis).congr
        (scan_of_direct extended red green blue others)
  | case6 code _ ground extended tail short =>
      exact Sets.nothing.congr fun rendition => by
        rw [scan, extended]
        grind
  | case7 code _ ground extended others noIndex noFive noDirect noTwo inductionHypothesis =>
      exact inductionHypothesis.congr fun rendition => by
        rw [scan, extended]
        grind

/-! ## Lists that are whole -/

/-- No operands are missing at the end of the list: wherever 38 or 48 selects a
colour, another number follows, with an index after it if it is 5, and with
three parts if it is 2. -/
inductive Whole : List Nat → Prop
  | nil : Whole []
  | plain {code : Nat} {rest : List Nat} :
      extended? code = none → Whole rest → Whole (code :: rest)
  | index {code : Nat} {ground : Ground} (index : Nat) {rest : List Nat} :
      extended? code = some ground → Whole rest → Whole (code :: 5 :: index :: rest)
  | direct {code : Nat} {ground : Ground} (red green blue : Nat) {rest : List Nat} :
      extended? code = some ground → Whole rest → Whole (code :: 2 :: red :: green :: blue :: rest)
  | unknown {code : Nat} {ground : Ground} {operand : Nat} {rest : List Nat} :
      extended? code = some ground → operand ≠ 5 → operand ≠ 2 →
        Whole (operand :: rest) → Whole (code :: operand :: rest)

theorem scan_append
    {first : List Nat}
    (whole : Whole first)
    (second : List Nat) (rendition : Rendition) :
    scan blinkIsBold (first ++ second) rendition =
      scan blinkIsBold second (scan blinkIsBold first rendition) := by
  induction whole generalizing rendition with
  | nil => rfl
  | plain plain _ inductionHypothesis =>
      rw [List.cons_append, scan_of_plain plain, scan_of_plain plain, inductionHypothesis]
  | index index extended _ inductionHypothesis =>
      simp only [List.cons_append, scan_of_index extended, inductionHypothesis]
  | direct red green blue extended _ inductionHypothesis =>
      simp only [List.cons_append, scan_of_direct extended, inductionHypothesis]
  | unknown extended noIndex noDirect _ inductionHypothesis =>
      rw [scan_of_unknown extended noIndex noDirect, ← inductionHypothesis]
      exact scan_of_unknown extended noIndex noDirect _ rendition

end Scan

/-! ## Lists one after the other, and twice -/

/-- Lists of numbers compose: one in which no operands are missing and another
one, both of them not empty, do as one list what they do one after the other.
And no list does anything more when it is applied again. -/
theorem select_append_and_twice (blinkIsBold : Bool) (rendition : Rendition) :
    (∀ first second : List Nat, first ≠ [] → second ≠ [] → Whole first →
      rendition.select blinkIsBold (first ++ second) =
        (rendition.select blinkIsBold first).select blinkIsBold second) ∧
      ∀ codes,
        (rendition.select blinkIsBold codes).select blinkIsBold codes =
          rendition.select blinkIsBold codes := by
  have scanned {codes : List Nat} (some : codes ≠ []) (rendition : Rendition) :
      rendition.select blinkIsBold codes = scan blinkIsBold codes rendition := by
    rw [select]
    exact some
  constructor
  · intro first second someFirst someSecond whole
    have someBoth : first ++ second ≠ [] := List.append_ne_nil_of_left_ne_nil someFirst second
    rw [scanned someBoth, scanned someFirst, scanned someSecond, scan_append whole]
  · intro codes
    by_cases none : codes = []
    · rw [none]
      rfl
    · rw [scanned none, scanned none]
      exact (sets_scan blinkIsBold codes).idempotent rendition

/-- A list that ends in an unknown operand before one that begins like the
operands of a colour. -/
theorem select_append_and_twice_operands :
    let pen : Rendition := { italic := true, background := .indexed 3 }
    let first := [1, 38, 2, 300, 0, 7, 48, 5, 9, 38, 7]
    let second := [5, 38, 25]
    Whole first ∧
      pen.select false (first ++ second) = (pen.select false first).select false second ∧
      (pen.select false second).select false second = pen.select false second := by
  intro pen first second
  have whole : Whole first :=
    .plain rfl <| .direct 300 0 7 rfl <| .index 9 rfl <|
      .unknown rfl (by decide) (by decide) <| .plain rfl .nil
  have laws := select_append_and_twice false pen
  exact ⟨whole, laws.1 first second nofun nofun whole, laws.2 second⟩

end VideoTerminal.Rendition
