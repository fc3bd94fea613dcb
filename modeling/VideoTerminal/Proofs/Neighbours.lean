import VideoTerminal.Proofs.MovedCells

/-!
Neighbours in a scroll. A row says of itself that it continues the logical
line of the row above it, and a scroll takes this along wherever the row goes.
Rows that move together stay neighbours; two rows at most are parted from the
row above them, and what they say is wrong from then on if they continue a
line.
-/

namespace VideoTerminal

/-- A composed row continues the logical line of the one above it. -/
def ScreenBuffer.continues (buffer : ScreenBuffer) (index : Nat) : Bool :=
  (buffer.composedRow index).wrap.continues

/-- The control functions that move rows. -/
def ControlFunction.movesRows : ControlFunction → Bool
  | .index | .reverseIndex | .insertLines _ | .deleteLines _ | .scrollUp _ | .scrollDown _ => true
  | _ => false

namespace Terminal

variable {lines columns limit top bottom : Nat} {amount : Int} {terminal : Terminal}

/-- The scroll is one of the whole main screen up, which makes history of the
rows at the top. -/
def makesHistory (terminal : Terminal) (top bottom : Nat) (amount : Int) : Bool :=
  !terminal.onAlternate && top == 0 && bottom == terminal.lines - 1 && decide (amount > 0)

/-- The row that row `index` was before the rows from `first` to `last` moved
by `moved`, up when that is positive; none for one that has come in blank. -/
def regionOrigin (first last : Nat) (moved : Int) (index : Nat) : Option Nat :=
  if first ≤ index ∧ index ≤ last then
    if (first : Int) ≤ index + moved ∧ index + moved ≤ last then some (index + moved).toNat
    else none
  else some index

/-- The row that row `index` was before `count` rows came in at the end of
`size` rows, of which there may be no more than `capacity`. -/
def advanceOrigin (size capacity count index : Nat) : Option Nat :=
  let former := index + (size + count - capacity)
  if former < size then some former else none

/-- The composed row that row `index` was before a scroll; none for a row that
has come in blank. -/
def scrollOrigin
    (terminal : Terminal) (top bottom : Nat) (amount : Int) (index : Nat) : Option Nat :=
  let base := terminal.buffer.screenBase
  let moved := clampAmount top bottom amount
  if amount = 0 ∨ top > bottom ∨ bottom ≥ terminal.lines then some index
  else if terminal.makesHistory top bottom amount then
    advanceOrigin terminal.buffer.composedSize terminal.buffer.capacity moved.toNat index
  else regionOrigin (base + top) (base + bottom) moved index

/-- The composed rows that a scroll leaves on the screen, but parts from the
row above them: the first one that stays in the region, and the one below the
region. -/
def partedRows (terminal : Terminal) (top bottom : Nat) (amount : Int) : List Nat :=
  let first := terminal.buffer.screenBase + top
  let below := terminal.buffer.screenBase + bottom + 1
  let moved := clampAmount top bottom amount
  if (amount = 0 ∨ top > bottom ∨ bottom ≥ terminal.lines) ∨
      terminal.makesHistory top bottom amount then
    []
  else
    (if moved.natAbs < bottom + 1 - top ∧ (moved > 0 → 0 < first) then [first + moved.toNat]
      else []) ++
      if below < terminal.buffer.composedSize then [below] else []

/-- Every row that continues the row above it after a scroll did so before, and
the row above it is still the same. -/
def ScrollKeepsLines (terminal : Terminal) (top bottom : Nat) (amount : Int) : Prop :=
  ∀ index, 1 ≤ index → index < (terminal.scroll top bottom amount).buffer.composedSize →
    (terminal.scroll top bottom amount).buffer.continues index = true →
      ∃ former, 1 ≤ former ∧ terminal.buffer.continues former = true ∧
        terminal.scrollOrigin top bottom amount index = some former ∧
        terminal.scrollOrigin top bottom amount (index - 1) = some (former - 1)

/-! ## Where the rows were -/

/-- The main screen scrolled up: blank rows come in at its end, and the oldest
rows are lost when there are too many. -/
theorem toList_advance
    (wellFormed : terminal.WellFormed lines columns limit)
    (fill : Cell) (count : Nat) :
    (terminal.advance fill count).buffer.ring.toList =
      (terminal.buffer.ring.toList ++ List.replicate count (Row.filled columns fill)).drop
        (terminal.buffer.ring.size + count - terminal.buffer.capacity) := by
  have atMost := wellFormed.shaped.size_le
  induction count generalizing terminal with
  | zero =>
      rw [List.replicate_zero, List.append_nil, Nat.sub_eq_zero_of_le (by omega), List.drop_zero]
      rfl
  | succ count inductionHypothesis =>
      have after := wellFormed.advance fill 1
      have sameCapacity :
          (terminal.advance fill 1).buffer.capacity = terminal.buffer.capacity := by
        rw [ScreenBuffer.capacity, ScreenBuffer.capacity, after.shaped.limit_eq,
          after.shaped.lines_eq, wellFormed.shaped.limit_eq, wellFormed.shaped.lines_eq]
      have once :
          (terminal.advance fill 1).buffer.ring.toList =
            (terminal.buffer.ring.toList ++ [Row.filled columns fill]).drop
              (terminal.buffer.ring.size + 1 - terminal.buffer.capacity) :=
        wellFormed.shaped.toList_advance fill
      have lengthEq : terminal.buffer.ring.toList.length = terminal.buffer.ring.size :=
        Ring.length_toList _
      have sizeAfter := congrArg List.length once
      rw [Ring.length_toList, List.length_drop, List.length_append, List.length_singleton,
        lengthEq] at sizeAfter
      have onlyFirst :
          terminal.buffer.ring.size + 1 - terminal.buffer.capacity ≤
            (terminal.buffer.ring.toList ++ [Row.filled columns fill]).length := by
        rw [List.length_append, List.length_singleton, lengthEq]
        omega
      change ((terminal.advance fill 1).advance fill count).buffer.ring.toList = _
      rw [inductionHypothesis after after.shaped.size_le, sameCapacity, once,
        ← List.drop_append_of_le_length onlyFirst, List.drop_drop, List.append_assoc]
      congr 1
      omega

theorem buffer_scroll
    (valid : ¬(amount = 0 ∨ top > bottom ∨ bottom ≥ terminal.lines)) :
    (terminal.scroll top bottom amount).buffer =
      (terminal.moveRows top bottom (clampAmount top bottom amount)).buffer := by
  rw [(scroll_content terminal valid).buffer_eq, buffer_modifyBlink]

theorem scroll_of_nothing
    (nothing : amount = 0 ∨ top > bottom ∨ bottom ≥ terminal.lines) :
    terminal.scroll top bottom amount = terminal := by
  rw [scroll, if_pos nothing]

/-- The amount is held back at the height of the region, and stays what it is
otherwise. -/
theorem makesHistory_clampAmount
    (valid : ¬(amount = 0 ∨ top > bottom ∨ bottom ≥ terminal.lines)) :
    terminal.makesHistory top bottom (clampAmount top bottom amount) =
      terminal.makesHistory top bottom amount := by
  have sameSign : clampAmount top bottom amount > 0 ↔ amount > 0 := by
    rw [clampAmount]
    omega
  rw [makesHistory, makesHistory, decide_eq_decide.mpr sameSign]

/-- A scroll of the whole main screen up adds rows, as far as there is room for
them. -/
theorem buffer_scroll_of_makesHistory
    (valid : ¬(amount = 0 ∨ top > bottom ∨ bottom ≥ terminal.lines))
    (history : terminal.makesHistory top bottom amount = true) :
    (terminal.scroll top bottom amount).buffer =
      (terminal.advance terminal.fill (clampAmount top bottom amount).toNat).buffer := by
  have whole := history
  rw [← makesHistory_clampAmount valid, makesHistory, Bool.and_eq_true, decide_eq_true_iff] at whole
  rw [buffer_scroll valid, moveRows, if_pos whole]

/-- Any other scroll moves the rows of its region. -/
theorem buffer_scroll_of_not_makesHistory
    (valid : ¬(amount = 0 ∨ top > bottom ∨ bottom ≥ terminal.lines))
    (noHistory : terminal.makesHistory top bottom amount = false) :
    (terminal.scroll top bottom amount).buffer =
      terminal.buffer.scrollRows top bottom (clampAmount top bottom amount) terminal.fill := by
  have part := noHistory
  rw [← makesHistory_clampAmount valid, ← Bool.not_eq_true, makesHistory, Bool.and_eq_true,
    decide_eq_true_iff] at part
  rw [buffer_scroll valid, moveRows, if_neg part]

theorem onAlternate_advance (terminal : Terminal) (fill : Cell) (count : Nat) :
    (terminal.advance fill count).onAlternate = terminal.onAlternate := by
  induction count generalizing terminal with
  | zero => rfl
  | succ count inductionHypothesis =>
      have once : (terminal.advance fill 1).onAlternate = terminal.onAlternate := by
        change (terminal.buffer.advance fill).1.onAlternate = terminal.buffer.onAlternate
        rw [ScreenBuffer.advance_frame]
      exact (inductionHypothesis (terminal.advance fill 1)).trans once

theorem composedSize_of_main (main : terminal.onAlternate = false) :
    terminal.buffer.composedSize = terminal.buffer.ring.size := by
  change terminal.buffer.onAlternate = false at main
  rw [ScreenBuffer.composedSize, main, if_neg Bool.false_ne_true]

theorem composedRow_of_main
    (wellFormed : terminal.WellFormed lines columns limit)
    (main : terminal.onAlternate = false)
    {index : Nat}
    (inside : index < terminal.buffer.composedSize) :
    terminal.buffer.composedRow index = terminal.buffer.ring.toList[index]?.getD {} := by
  change terminal.buffer.onAlternate = false at main
  rw [wellFormed.shaped.composedRow_eq inside, ScreenBuffer.shown_rowLists, main,
    if_neg Bool.false_ne_true]

theorem composedRow_advance
    (wellFormed : terminal.WellFormed lines columns limit)
    (main : terminal.onAlternate = false)
    (fill : Cell) (count : Nat)
    {index : Nat}
    (inside : index < (terminal.advance fill count).buffer.composedSize) :
    (terminal.advance fill count).buffer.composedRow index =
      let former :=
        index + (terminal.buffer.composedSize + count - terminal.buffer.capacity)
      if former < terminal.buffer.composedSize then terminal.buffer.composedRow former
      else Row.filled columns fill := by
  have after := wellFormed.advance fill count
  have mainAfter := (onAlternate_advance terminal fill count).trans main
  have listAfter := toList_advance wellFormed fill count
  have lengthEq : terminal.buffer.ring.toList.length = terminal.buffer.ring.size :=
    Ring.length_toList _
  have sizeAfter := congrArg List.length listAfter
  rw [Ring.length_toList, List.length_drop, List.length_append, List.length_replicate,
    lengthEq] at sizeAfter
  rw [composedRow_of_main after mainAfter inside, listAfter, composedSize_of_main main,
    List.getElem?_drop]
  rw [composedSize_of_main mainAfter] at inside
  dsimp only
  by_cases old :
      index + (terminal.buffer.ring.size + count - terminal.buffer.capacity) <
        terminal.buffer.ring.size
  · rw [if_pos old, List.getElem?_append_left (by omega),
      composedRow_of_main wellFormed main (by rw [composedSize_of_main main]; exact old),
      Nat.add_comm]
  · rw [if_neg old, List.getElem?_append_right (by omega), List.getElem?_replicate,
      if_pos (by omega), Option.getD_some]

/-- Every row after a scroll is the one it was before, or has come in blank. -/
theorem composedRow_scroll
    (wellFormed : terminal.WellFormed lines columns limit)
    (top bottom : Nat) (amount : Int)
    {index : Nat}
    (inside : index < (terminal.scroll top bottom amount).buffer.composedSize) :
    (terminal.scroll top bottom amount).buffer.composedRow index =
      ((terminal.scrollOrigin top bottom amount index).map terminal.buffer.composedRow).getD
        (Row.filled columns terminal.fill) := by
  have shaped := wellFormed.shaped
  rw [scrollOrigin]
  by_cases nothing : amount = 0 ∨ top > bottom ∨ bottom ≥ terminal.lines
  · rw [if_pos nothing, scroll_of_nothing nothing]
    rfl
  · rw [if_neg nothing]
    cases history : terminal.makesHistory top bottom amount with
    | true =>
        rw [if_pos rfl]
        have main : terminal.buffer.onAlternate = false := by
          simp only [makesHistory, Bool.and_eq_true, Bool.not_eq_true'] at history
          exact history.1.1.1
        rw [buffer_scroll_of_makesHistory nothing history] at inside ⊢
        rw [composedRow_advance wellFormed main _ _ inside, advanceOrigin]
        dsimp only
        split <;> rfl
    | false =>
        rw [if_neg Bool.false_ne_true]
        rw [buffer_scroll_of_not_makesHistory nothing history] at inside ⊢
        rw [ScreenBuffer.composedSize_scrollRows] at inside
        rw [wellFormed.lines_eq] at nothing
        have some : clampAmount top bottom amount ≠ 0 := by
          rw [clampAmount]
          omega
        have atMost : (clampAmount top bottom amount).natAbs ≤ bottom + 1 - top := by
          rw [clampAmount]
          omega
        rw [shaped.composedRow_scrollRows (by omega) (by omega) some atMost _ inside,
          regionOrigin]
        split
        · split <;> rfl
        · rfl

/-- A row that continues a line has not come in blank. -/
theorem continues_scroll
    (wellFormed : terminal.WellFormed lines columns limit)
    {index : Nat}
    (inside : index < (terminal.scroll top bottom amount).buffer.composedSize) :
    (terminal.scroll top bottom amount).buffer.continues index = true ↔
      ∃ former, terminal.scrollOrigin top bottom amount index = some former ∧
        terminal.buffer.continues former = true := by
  rw [ScreenBuffer.continues, composedRow_scroll wellFormed top bottom amount inside]
  cases terminal.scrollOrigin top bottom amount index with
  | none => simp [Row.filled]
  | some former => simp [ScreenBuffer.continues]

/-- The control functions that move rows do so by one scroll, or by none, and
only move the cursor besides. -/
theorem perform_eq_scroll
    (terminal : Terminal)
    {function : ControlFunction}
    (moves : function.movesRows = true) :
    ∃ top bottom amount cursor,
      terminal.perform function = { terminal.scroll top bottom amount with cursor } := by
  have stays : ∀ cursor, ∃ top bottom amount cursor',
      { terminal with cursor } = { terminal.scroll top bottom amount with cursor := cursor' } :=
    fun cursor => ⟨0, 0, 0, cursor, by rw [scroll_of_nothing (Or.inl rfl)]⟩
  have shifts : ∀ amount, ∃ top bottom amount' cursor,
      terminal.shiftLines amount = { terminal.scroll top bottom amount' with cursor } := by
    intro amount
    unfold shiftLines
    split
    · exact ⟨_, _, _, _, rfl⟩
    · exact stays terminal.cursor
  cases function with
  | insertLines count => exact shifts _
  | deleteLines count => exact shifts _
  | scrollUp count => exact ⟨_, _, _, (terminal.scrollUp count).cursor, rfl⟩
  | scrollDown count => exact ⟨_, _, _, (terminal.scrollDown count).cursor, rfl⟩
  | index =>
      change ∃ top bottom amount cursor,
        terminal.index.1 = { terminal.scroll top bottom amount with cursor }
      unfold index
      dsimp only
      split
      · exact ⟨_, _, _, (terminal.scroll _ _ _).cursor, rfl⟩
      · split
        · exact stays _
        · exact stays terminal.cursor
  | reverseIndex =>
      change ∃ top bottom amount cursor,
        terminal.reverseIndex = { terminal.scroll top bottom amount with cursor }
      unfold reverseIndex
      dsimp only
      split
      · exact ⟨_, _, _, (terminal.scroll _ _ _).cursor, rfl⟩
      · exact stays _
  | _ => cases moves

/-! ## Rows that are parted -/

theorem regionOrigin_eq_some_iff {first last index former : Nat} {moved : Int} :
    regionOrigin first last moved index = some former ↔
      (index < first ∨ last < index) ∧ former = index ∨
        (first ≤ index ∧ index ≤ last) ∧ (first ≤ former ∧ former ≤ last) ∧
          (former : Int) = index + moved := by
  rw [regionOrigin]
  split
  · split
    · rw [Option.some.injEq]
      omega
    · simp only [reduceCtorEq, false_iff]
      omega
  · rw [Option.some.injEq]
    omega

/-- The first row that stays in a region that moves, and the row below the
region, do not follow the row any more that they followed before; all others
do. -/
theorem parted_regionOrigin_iff
    {first last size former : Nat} {moved : Int}
    (ordered : first ≤ last)
    (inside : last < size)
    (moves : moved ≠ 0) :
    (∃ index, 1 ≤ index ∧ index < size ∧ regionOrigin first last moved index = some former ∧
        ¬(1 ≤ former ∧ regionOrigin first last moved (index - 1) = some (former - 1))) ↔
      ((moved.natAbs < last + 1 - first ∧ (moved > 0 → 0 < first)) ∧
          former = first + moved.toNat) ∨
        last + 1 < size ∧ former = last + 1 := by
  simp only [regionOrigin_eq_some_iff]
  constructor
  · rintro ⟨index, positive, indexInside, ⟨outside, rfl⟩ | ⟨within, formerWithin, arrived⟩, parted⟩
    · right
      omega
    · left
      omega
  · rintro (⟨⟨stays, below⟩, rfl⟩ | ⟨below, rfl⟩)
    · refine ⟨first + (-moved).toNat, ?_, ?_, ?_, ?_⟩ <;> omega
    · refine ⟨last + 1, ?_, below, ?_, ?_⟩ <;> omega

/-- Rows that advance together stay neighbours. -/
theorem advanceOrigin_sub_one
    {size capacity count index former : Nat}
    (positive : 1 ≤ index)
    (origin : advanceOrigin size capacity count index = some former) :
    1 ≤ former ∧ advanceOrigin size capacity count (index - 1) = some (former - 1) := by
  rw [advanceOrigin] at origin ⊢
  split at origin
  · cases origin
    rw [if_pos (by omega), Option.some.injEq]
    omega
  · cases origin

/-- The rows that a scroll parts from the row above them are those that it
leaves on the screen below another row than before. -/
theorem mem_partedRows_iff
    (wellFormed : terminal.WellFormed lines columns limit)
    {former : Nat} :
    former ∈ terminal.partedRows top bottom amount ↔
      ∃ index, 1 ≤ index ∧ index < (terminal.scroll top bottom amount).buffer.composedSize ∧
        terminal.scrollOrigin top bottom amount index = some former ∧
        ¬(1 ≤ former ∧
          terminal.scrollOrigin top bottom amount (index - 1) = some (former - 1)) := by
  simp only [partedRows, scrollOrigin]
  by_cases nothing : amount = 0 ∨ top > bottom ∨ bottom ≥ terminal.lines
  · simp only [if_pos nothing, if_pos (Or.inl nothing), List.not_mem_nil, false_iff]
    rintro ⟨index, positive, -, origin, parted⟩
    cases origin
    exact parted ⟨positive, rfl⟩
  · cases history : terminal.makesHistory top bottom amount with
    | true =>
        simp only [if_neg nothing, if_pos, or_true, List.not_mem_nil, false_iff]
        rintro ⟨index, positive, -, origin, parted⟩
        exact parted (advanceOrigin_sub_one positive origin)
    | false =>
        have fits := wellFormed.shaped.screenBase_add_lines
        have moves : clampAmount top bottom amount ≠ 0 := by
          rw [clampAmount]
          omega
        have height :
            terminal.buffer.screenBase + bottom + 1 - (terminal.buffer.screenBase + top) =
              bottom + 1 - top := by omega
        have bottomInside : bottom < lines := by
          rw [wellFormed.lines_eq] at nothing
          omega
        rw [buffer_scroll_of_not_makesHistory nothing history,
          ScreenBuffer.composedSize_scrollRows]
        simp only [if_neg nothing, Bool.false_eq_true, or_false, if_false]
        rw [parted_regionOrigin_iff (by omega) (by omega) moves, height, List.mem_append]
        apply or_congr
        · split
          · next stays => rw [List.mem_singleton, and_iff_right stays]
          · next gone => exact iff_of_false List.not_mem_nil fun both => gone both.1
        · split
          · next inside => rw [List.mem_singleton, and_iff_right inside]
          · next outside => exact iff_of_false List.not_mem_nil fun both => outside both.1

/-- Where each row was before a scroll, and when it is that every row which
continues the row above it still follows the row it continued: just if none of
the rows that the scroll parts from the row above them continues it. What the
control functions do to the rows is such a scroll. -/
theorem scroll_keepsLines_iff
    (wellFormed : terminal.WellFormed lines columns limit)
    (top bottom : Nat) (amount : Int) :
    (∀ function : ControlFunction, function.movesRows = true → ∃ top bottom amount cursor,
      terminal.perform function = { terminal.scroll top bottom amount with cursor }) ∧
    (∀ index, index < (terminal.scroll top bottom amount).buffer.composedSize →
      (terminal.scroll top bottom amount).buffer.composedRow index =
        ((terminal.scrollOrigin top bottom amount index).map terminal.buffer.composedRow).getD
          (Row.filled columns terminal.fill)) ∧
      (terminal.ScrollKeepsLines top bottom amount ↔
        ∀ row ∈ terminal.partedRows top bottom amount, terminal.buffer.continues row = false) := by
  refine ⟨fun _ moves => perform_eq_scroll terminal moves,
    fun _ inside => composedRow_scroll wellFormed top bottom amount inside, ?_, ?_⟩
  · intro keeps row member
    obtain ⟨index, positive, inside, origin, parted⟩ := (mem_partedRows_iff wellFormed).mp member
    rw [← Bool.not_eq_true]
    intro continued
    have still := (continues_scroll wellFormed inside).mpr ⟨row, origin, continued⟩
    obtain ⟨former, formerPositive, -, sameOrigin, above⟩ := keeps index positive inside still
    rw [origin] at sameOrigin
    cases sameOrigin
    exact parted ⟨formerPositive, above⟩
  · intro apart index positive inside continued
    obtain ⟨former, origin, before⟩ := (continues_scroll wellFormed inside).mp continued
    by_contra glued
    have parted : former ∈ terminal.partedRows top bottom amount := by
      refine (mem_partedRows_iff wellFormed).mpr ⟨index, positive, inside, origin, ?_⟩
      intro together
      exact glued ⟨former, together.1, before, origin, together.2⟩
    exact Bool.false_ne_true ((apart former parted).symm.trans before)

/-- A scroll of the upper part of a screen whose rows have a neighbour of their
own to follow: the row below the region begins a line. -/
theorem scroll_keepsLines_iff_upper_part :
    let terminal := ((Console.blank 3 2 0).feed "abcd\r\ne".toList).terminal
    terminal.WellFormed 3 2 0 ∧
      terminal.partedRows 0 1 1 = [2] ∧
      terminal.buffer.continues 1 = true ∧
      terminal.ScrollKeepsLines 0 1 1 := by
  intro terminal
  have wellFormed : terminal.WellFormed 3 2 0 :=
    Console.feed_wellFormed (.blank (by decide) (by decide) 0) _
  have parted : terminal.partedRows 0 1 1 = [2] := by decide +kernel
  have begins : terminal.buffer.continues 2 = false := by decide +kernel
  refine ⟨wellFormed, parted, by decide +kernel, ?_⟩
  apply (scroll_keepsLines_iff wellFormed 0 1 1).2.2.mpr
  intro row member
  rw [parted] at member
  rw [List.mem_singleton.mp member]
  exact begins

/-- A line is broken over the two rows of a region below another line. When the
region scrolls, the end of the line comes to continue that other one. -/
theorem not_scrollKeepsLines_lower_part :
    let terminal := ((Console.blank 3 2 0).feed "a\r\nbcd\x1b[2;3r".toList).terminal
    let scrolled := terminal.perform (.scrollUp 1)
    ¬ terminal.ScrollKeepsLines 1 2 1 ∧
      scrolled = terminal.scroll 1 2 1 ∧
      scrolled.rowText 0 = "a" ∧ scrolled.rowText 1 = "d" ∧
      scrolled.buffer.continues 1 = true ∧
      ∀ former, former < terminal.buffer.composedSize → 1 ≤ former →
        terminal.buffer.continues former = true →
          ¬(terminal.buffer.composedRow (former - 1) = scrolled.buffer.composedRow 0 ∧
            terminal.buffer.composedRow former = scrolled.buffer.composedRow 1) := by
  intro terminal scrolled
  refine ⟨?_, by decide +kernel, by decide +kernel, by decide +kernel, by decide +kernel,
    by decide +kernel⟩
  intro keeps
  obtain ⟨former, -, -, origin, above⟩ :=
    keeps 1 (by decide) (by decide +kernel) (by decide +kernel)
  have arrived : terminal.scrollOrigin 1 2 1 1 = some 2 := by decide +kernel
  have stayed : terminal.scrollOrigin 1 2 1 (1 - 1) = some 0 := by decide +kernel
  rw [arrived] at origin
  rw [stayed] at above
  cases origin
  cases above

end Terminal

end VideoTerminal
