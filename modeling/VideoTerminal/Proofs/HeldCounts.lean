import VideoTerminal.Proofs.ControlSequences
import VideoTerminal.Proofs.MachineWords

/-!
Counts beyond the size of the screen. In whatever way a function makes use of a
count, any count that is larger than the numbers of rows and of columns does the
same as the larger of the two.
-/

namespace VideoTerminal

/-! ## Sums that are held at a limit -/

theorem min_add_min
    {last most : Nat}
    (enough : last ≤ most)
    (start count : Nat) :
    min (start + min count most) last = min (start + count) last := by
  omega

theorem min_min_sub_one
    {size most : Nat}
    (enough : size ≤ most)
    (place : Nat) :
    min (min place (most - 1)) (size - 1) = min place (size - 1) := by
  omega

namespace Terminal

variable {lines columns limit most : Nat} {terminal : Terminal}

/-! ## Functions that count rows -/

section Rows

variable (wellFormed : terminal.WellFormed lines columns limit) (enough : lines ≤ most)

include wellFormed enough

theorem moveUp_min (count : Nat) :
    terminal.moveUp (min count most) = terminal.moveUp count := by
  have row := wellFormed.cursor_row
  have same : terminal.cursor.y - min count most = terminal.cursor.y - count := by omega
  rw [moveUp, moveUp, same]

theorem moveDown_min (count : Nat) :
    terminal.moveDown (min count most) = terminal.moveDown count := by
  have bottom := wellFormed.margins_inside
  have height := wellFormed.lines_eq
  rw [moveDown, moveDown, min_add_min]
  split <;> omega

theorem moveToRow_add_min (count : Nat) :
    terminal.moveToRow (terminal.cursor.y + min count most) =
      terminal.moveToRow (terminal.cursor.y + count) := by
  have height := wellFormed.lines_eq
  rw [moveToRow, moveToRow, moveTo, moveTo, Position.clamp, Position.clamp, min_add_min]
  omega

/-- A top margin below the screen leaves no row to any bottom margin. -/
theorem setMargins_min (top bottom : Nat) :
    terminal.setMargins (min top most) (min bottom most) = terminal.setMargins top bottom := by
  have height := wellFormed.lines_eq
  have sameBottom : min (min bottom most) terminal.lines = min bottom terminal.lines := by omega
  rw [setMargins, setMargins, sameBottom]
  by_cases inside : top ≤ most
  · rw [Nat.min_eq_left inside]
  · rw [if_neg (by omega), if_neg (by omega)]

theorem clampLines_min (count : Nat) :
    terminal.clampLines (min count most) = terminal.clampLines count := by
  have height := wellFormed.lines_eq
  rw [clampLines, clampLines]
  omega

end Rows

/-! ## Functions that count columns -/

section Columns

variable (wellFormed : terminal.WellFormed lines columns limit) (enough : columns ≤ most)

include wellFormed enough

theorem moveRight_min (count : Nat) :
    terminal.moveRight (min count most) = terminal.moveRight count := by
  have width := wellFormed.columns_eq
  rw [moveRight, moveRight, min_add_min]
  omega

theorem moveLeft_min (count : Nat) :
    terminal.moveLeft (min count most) = terminal.moveLeft count := by
  have column := wellFormed.cursorColumn_lt
  have same : terminal.cursorColumn - min count most = terminal.cursorColumn - count := by omega
  rw [moveLeft, moveLeft, same]

/-- No more columns are left than there are. -/
theorem min_columnsLeft (count : Nat) :
    min (min count most) (terminal.columns - terminal.cursorColumn) =
      min count (terminal.columns - terminal.cursorColumn) := by
  have width := wellFormed.columns_eq
  omega

theorem insertChars_min (count : Nat) :
    terminal.insertChars (min count most) = terminal.insertChars count := by
  rw [insertChars, insertChars, min_columnsLeft wellFormed enough]

theorem deleteChars_min (count : Nat) :
    terminal.deleteChars (min count most) = terminal.deleteChars count := by
  rw [deleteChars, deleteChars, min_columnsLeft wellFormed enough]

theorem eraseChars_min (count : Nat) :
    terminal.eraseChars (min count most) = terminal.eraseChars count := by
  rw [eraseChars, eraseChars, min_add_min]
  exact wellFormed.columns_eq ▸ enough

end Columns

/-! ## Positions -/

theorem moveTo_min
    (wellFormed : terminal.WellFormed lines columns limit)
    (enoughLines : lines ≤ most)
    (enoughColumns : columns ≤ most)
    (x y : Nat) :
    terminal.moveTo (min x (most - 1)) (min y (most - 1)) = terminal.moveTo x y := by
  rw [← wellFormed.lines_eq] at enoughLines
  rw [← wellFormed.columns_eq] at enoughColumns
  rw [moveTo, moveTo, Position.clamp, Position.clamp, min_min_sub_one enoughColumns,
    min_min_sub_one enoughLines]

theorem moveToColumn_min
    (wellFormed : terminal.WellFormed lines columns limit)
    (enoughLines : lines ≤ most)
    (enoughColumns : columns ≤ most)
    (x : Nat) :
    terminal.moveToColumn (min x (most - 1)) = terminal.moveToColumn x := by
  have inside : min terminal.cursor.y (most - 1) = terminal.cursor.y := by
    have row := wellFormed.cursor_row
    omega
  have held := moveTo_min wellFormed enoughLines enoughColumns x terminal.cursor.y
  rwa [inside] at held

theorem moveToRow_min
    (wellFormed : terminal.WellFormed lines columns limit)
    (enoughLines : lines ≤ most)
    (enoughColumns : columns ≤ most)
    (y : Nat) :
    terminal.moveToRow (min y (most - 1)) = terminal.moveToRow y := by
  have inside : min terminal.cursorColumn (most - 1) = terminal.cursorColumn := by
    have column := wellFormed.cursorColumn_lt
    omega
  have held := moveTo_min wellFormed enoughLines enoughColumns terminal.cursorColumn y
  rwa [inside] at held

end Terminal

/-! ## Functions with counts -/

/-- The function with none of its counts above `most`. Rows and columns that
are given from 0 are one less than they are counted. -/
def ControlFunction.hold (most : Nat) : ControlFunction → ControlFunction
  | .moveUp count => .moveUp (min count most)
  | .moveDown count => .moveDown (min count most)
  | .moveRight count => .moveRight (min count most)
  | .moveLeft count => .moveLeft (min count most)
  | .moveUpLines count => .moveUpLines (min count most)
  | .moveDownLines count => .moveDownLines (min count most)
  | .moveTo x y => .moveTo (min x (most - 1)) (min y (most - 1))
  | .moveToColumn x => .moveToColumn (min x (most - 1))
  | .moveToRow y => .moveToRow (min y (most - 1))
  | .moveRowsDown count => .moveRowsDown (min count most)
  | .insertLines count => .insertLines (min count most)
  | .deleteLines count => .deleteLines (min count most)
  | .insertChars count => .insertChars (min count most)
  | .deleteChars count => .deleteChars (min count most)
  | .eraseChars count => .eraseChars (min count most)
  | .scrollUp count => .scrollUp (min count most)
  | .scrollDown count => .scrollDown (min count most)
  | .setMargins top bottom => .setMargins (min top most) (bottom.map (min · most))
  | function => function

namespace Terminal

variable {lines columns limit most : Nat} {terminal : Terminal}

theorem answer_hold (terminal : Terminal) (most : Nat) (function : ControlFunction) :
    terminal.answer (function.hold most) = terminal.answer function := by
  cases function <;> rfl

theorem perform_hold
    (wellFormed : terminal.WellFormed lines columns limit)
    (enoughLines : lines ≤ most)
    (enoughColumns : columns ≤ most)
    (function : ControlFunction) :
    terminal.perform (function.hold most) = terminal.perform function := by
  cases function with
  | moveUp count => exact moveUp_min wellFormed enoughLines count
  | moveDown count => exact moveDown_min wellFormed enoughLines count
  | moveRight count => exact moveRight_min wellFormed enoughColumns count
  | moveLeft count => exact moveLeft_min wellFormed enoughColumns count
  | moveUpLines count =>
      exact congrArg (moveToColumn · 0) (moveUp_min wellFormed enoughLines count)
  | moveDownLines count =>
      exact congrArg (moveToColumn · 0) (moveDown_min wellFormed enoughLines count)
  | moveTo x y => exact moveTo_min wellFormed enoughLines enoughColumns x y
  | moveToColumn x => exact moveToColumn_min wellFormed enoughLines enoughColumns x
  | moveToRow y => exact moveToRow_min wellFormed enoughLines enoughColumns y
  | moveRowsDown count => exact moveToRow_add_min wellFormed enoughLines count
  | insertLines count | deleteLines count | scrollUp count | scrollDown count =>
      have same := clampLines_min wellFormed enoughLines count
      simp only [ControlFunction.hold, perform, insertLines, deleteLines, scrollUp, scrollDown,
        same]
  | insertChars count => exact insertChars_min wellFormed enoughColumns count
  | deleteChars count => exact deleteChars_min wellFormed enoughColumns count
  | eraseChars count => exact eraseChars_min wellFormed enoughColumns count
  | setMargins top bottom =>
      cases bottom with
      | some bottom => exact setMargins_min wellFormed enoughLines top bottom
      | none =>
          have height : min terminal.lines most = terminal.lines := by
            rw [wellFormed.lines_eq, Nat.min_eq_left enoughLines]
          have held := setMargins_min wellFormed enoughLines top terminal.lines
          rwa [height] at held
  | _ => rfl

end Terminal

/-! ## Numbers that are held -/

namespace Parameters

/-- The numbers of `held` are those of `parameters` as far as these are not
above `most`. -/
def HeldAt (most : Nat) (parameters held : Parameters) : Prop :=
  ∀ index, held.number? index = (parameters.number? index).map (min · most)

namespace HeldAt

variable {most : Nat} {parameters held : Parameters}

theorem number_eq
    (heldAt : HeldAt most parameters held)
    {default : Nat}
    (small : default ≤ most)
    (index : Nat) :
    held.number index default = min (parameters.number index default) most := by
  rw [number, number, heldAt index]
  cases parameters.number? index with
  | none => exact (Nat.min_eq_left small).symm
  | some number => rfl

theorem count_eq (heldAt : HeldAt most parameters held) (positive : 0 < most) (index : Nat) :
    held.count index = min (parameters.count index) most := by
  have number : held.number index 1 = min (parameters.number index 1) most :=
    heldAt.number_eq positive index
  rw [count, count, number]
  omega

end HeldAt

end Parameters

namespace ControlFunction

/-- The final characters of the functions that make use of counts. -/
def countingFinals : List Char :=
  ['A', 'B', 'C', 'D', 'E', 'F', 'G', 'H', 'L', 'M', 'P', 'S', 'T', 'X', '@', 'a', 'd', 'e', 'f',
    'r', '\x60']

theorem ofFinal?_heldAt
    {most : Nat} {parameters held : Parameters} {final : Char}
    (heldAt : Parameters.HeldAt most parameters held)
    (positive : 0 < most)
    (counting : final ∈ countingFinals) :
    ∃ function,
      ofFinal? parameters final = some function ∧
        ofFinal? held final = some (function.hold most) := by
  have counts := heldAt.count_eq positive
  have top : held.number 0 1 = min (parameters.number 0 1) most := heldAt.number_eq positive 0
  have bottom := heldAt 1
  simp only [countingFinals, List.mem_cons, List.not_mem_nil, or_false] at counting
  rcases counting with rfl | rfl | rfl | rfl | rfl | rfl | rfl | rfl | rfl | rfl | rfl | rfl |
    rfl | rfl | rfl | rfl | rfl | rfl | rfl | rfl | rfl
  all_goals
    refine ⟨_, rfl, ?_⟩
    simp only [ofFinal?, hold, counts, top, bottom, Nat.sub_min_sub_right]

end ControlFunction

/-! ## Held numbers as they are written -/

namespace Text

/-- A field with its number written anew, or with `most` when that is less. A
field without a number stays without one. -/
def holdField (most : Nat) (field : List Char) : List Char :=
  if field = [] then [] else (toString (min (decimal field) most)).toList

/-- Parameters with none of their numbers above `most`. -/
def holdNumbers (most : Nat) (parameters : List Char) : List Char :=
  [';'].intercalate ((fields ';' parameters).map (holdField most))

variable {most : Nat} {parameters : List Char}

theorem isDigit_of_mem_holdField
    {field : List Char} {char : Char}
    (member : char ∈ holdField most field) :
    isDigit char = true := by
  rw [holdField] at member
  split at member
  · cases member
  · exact isDigit_of_mem_toString member

theorem length_holdField_le
    {field : List Char}
    (digits : ∀ char ∈ field, isDigit char = true) :
    (holdField most field).length ≤ field.length := by
  rw [holdField]
  split
  · exact Nat.zero_le _
  · next some => exact length_toString_le digits some (Nat.min_le_left _ _)

theorem isDigit_of_mem_fields
    (taken : ∀ char ∈ parameters, Action.isParameter char = true)
    {field : List Char}
    (part : field ∈ fields ';' parameters)
    {char : Char}
    (member : char ∈ field) :
    isDigit char = true := by
  obtain ⟨inside, differs⟩ := mem_of_mem_fields part member
  have known := taken char inside
  rw [Action.isParameter, Bool.or_eq_true, beq_iff_eq] at known
  exact known.resolve_right differs

theorem isParameter_of_mem_holdNumbers :
    ∀ char ∈ holdNumbers most parameters, Action.isParameter char = true := by
  apply forall_mem_intercalate
  · exact List.forall_mem_singleton.mpr (by decide)
  · intro part member char inside
    obtain ⟨field, -, rfl⟩ := List.mem_map.mp member
    rw [Action.isParameter, isDigit_of_mem_holdField inside, Bool.true_or]

theorem length_holdNumbers_le
    (taken : ∀ char ∈ parameters, Action.isParameter char = true) :
    (holdNumbers most parameters).length ≤ parameters.length := by
  conv_rhs => rw [← intercalate_fields ';' parameters]
  apply length_intercalate_map_le
  intro field part
  exact length_holdField_le fun _ => isDigit_of_mem_fields taken part

theorem fields_holdNumbers (most : Nat) (parameters : List Char) :
    fields ';' (holdNumbers most parameters) =
      (fields ';' parameters).map (holdField most) := by
  apply fields_intercalate
  · intro part member separator
    obtain ⟨field, -, rfl⟩ := List.mem_map.mp member
    exact absurd (isDigit_of_mem_holdField separator) (by decide)
  · exact mt List.map_eq_nil_iff.mp (fields_ne_nil ';' parameters)

/-- A number that is held is read as what is read of the number, held. -/
theorem lenientNumber_holdField
    {field : List Char}
    (digits : ∀ char ∈ field, isDigit char = true)
    (some : field ≠ [])
    (most : Nat) :
    lenientNumber (holdField most field) = min (lenientNumber field) most := by
  rw [lenientNumber_eq_min fun _ => isDigit_of_mem_holdField, lenientNumber_eq_min digits,
    holdField, if_neg some, decimal_toString, Nat.min_right_comm]

theorem heldAt_holdNumbers
    (taken : ∀ char ∈ parameters, Action.isParameter char = true) :
    Parameters.HeldAt most ⟨parameters.toArray⟩ ⟨(holdNumbers most parameters).toArray⟩ := by
  intro index
  simp only [Parameters.number?, Parameters.fields, Parameters.toList, fields_holdNumbers,
    List.getElem?_map]
  cases found : (fields ';' parameters)[index]? with
  | none => rfl
  | some field =>
      -- A field is empty after it has been held just if it was before.
      have part := List.mem_of_getElem? found
      cases field with
      | nil => rfl
      | cons char rest =>
          have read := lenientNumber_holdField
            (fun _ => isDigit_of_mem_fields taken part) (List.cons_ne_nil char rest) most
          cases written : holdField most (char :: rest) with
          | nil =>
              rw [holdField, if_neg (List.cons_ne_nil char rest)] at written
              exact absurd written (toString_ne_nil _)
          | cons first others =>
              rw [written] at read
              simp only [Option.map_some, written, read]

end Text

/-! ## Sequences with counts -/

namespace Console

/-- A control sequence with counts does the same when its numbers are held at
the larger of the numbers of rows and of columns, however large they are. The
function that it stands for can be performed with machine words as well. -/
theorem feed_holdNumbers
    {lines columns limit : Nat} {console : Console}
    (wellFormed : console.terminal.WellFormed lines columns limit)
    (inGround : console.interpreter.phase = .ground)
    {parameters : List Char}
    (taken : ∀ char ∈ parameters, Action.isParameter char = true)
    (fits : parameters.length ≤ Parameters.limit)
    {final : Char}
    (counting : final ∈ ControlFunction.countingFinals) :
    let held := Text.holdNumbers (max lines columns) parameters
    console.feed (controlSequence parameters final) = console.feed (controlSequence held final) ∧
      ∃ function,
        ControlFunction.ofFinal? ⟨parameters.toArray⟩ final = some function ∧
          (lines < Text.wordSize / 2 → columns < Text.wordSize / 2 →
            (console.feed (controlSequence parameters final)).terminal =
              Words.perform console.flush.terminal function) := by
  intro held
  have flushed := flush_wellFormed wellFormed
  have positive : 0 < max lines columns := by
    have some := wellFormed.lines_pos
    omega
  obtain ⟨function, found, heldFound⟩ :=
    ControlFunction.ofFinal?_heldAt (Text.heldAt_holdNumbers taken) positive counting
  have read := feed_controlSequence inGround taken fits found
  have heldRead :=
    feed_controlSequence inGround Text.isParameter_of_mem_holdNumbers
      (Nat.le_trans (Text.length_holdNumbers_le taken) fits) heldFound
  have same :
      console.flush.perform (function.hold (max lines columns)) =
        console.flush.perform function := by
    rw [perform, perform, Terminal.answer_hold,
      Terminal.perform_hold flushed (Nat.le_max_left _ _) (Nat.le_max_right _ _)]
  constructor
  · rw [read, heldRead, same]
  · refine ⟨function, found, fun fewLines fewColumns => ?_⟩
    rw [read, Words.perform_eq flushed fewLines fewColumns]
    rfl

/-- Numbers that fit in no signed word, and in no word, for a position and for
a scroll down. -/
theorem feed_holdNumbers_beyond_words :
    let console := (blank 2 3 1).advance 'a'
    let parameters := "9223372036854775809;18446744073709551617".toList
    ((∀ char ∈ parameters, Action.isParameter char = true) ∧
      parameters.length ≤ Parameters.limit ∧ Text.holdNumbers 3 parameters = "3;3".toList) ∧
      console.feed (controlSequence parameters 'H') =
        console.feed (controlSequence "3;3".toList 'H') ∧
      (console.feed (controlSequence parameters 'T')).terminal =
        Words.perform console.flush.terminal (.scrollDown 9223372036854775809) := by
  intro console parameters
  have wellFormed : console.terminal.WellFormed 2 3 1 :=
    advance_wellFormed (Terminal.WellFormed.blank (by decide) (by decide) 1) 'a'
  have taken : ∀ char ∈ parameters, Action.isParameter char = true :=
    List.all_eq_true.mp (by decide)
  have fits : parameters.length ≤ Parameters.limit := by decide
  have held : Text.holdNumbers 3 parameters = "3;3".toList := by decide
  have position : 'H' ∈ ControlFunction.countingFinals := by decide
  have scroll : 'T' ∈ ControlFunction.countingFinals := by decide
  have known :
      ControlFunction.ofFinal? ⟨parameters.toArray⟩ 'T' =
        some (.scrollDown 9223372036854775809) := rfl
  refine ⟨⟨taken, fits, held⟩, ?_, ?_⟩
  · have same := (feed_holdNumbers wellFormed rfl taken fits position).1
    have larger : max 2 3 = 3 := rfl
    rwa [larger, held] at same
  · obtain ⟨function, found, words⟩ := (feed_holdNumbers wellFormed rfl taken fits scroll).2
    rw [found, Option.some.injEq] at known
    subst known
    exact words (by decide) (by decide)

end Console

end VideoTerminal
