import VideoTerminal.Proofs.Isolation
import VideoTerminal.Proofs.MovedCells
import VideoTerminal.Proofs.MovingMarks

/-!
Blink marks and blinking cells. A mark is always on a cell that blinks. A cell
that blinks is marked as long as no marks have collided in a move to the right
or down; in such a move a mark is lost, and the cell it stood for is missed.
-/

namespace VideoTerminal

/-! ## Marks of an edited row -/

namespace RowEdit

variable {edit : RowEdit} {columns x y : Nat} {marked : Nat → Prop} {old : Nat → Cell}
variable {fill : Cell}

/-- Whether column `x` of a row of `columns` cells is marked after an edit. -/
def markedAt (columns : Nat) (marked : Nat → Prop) (x : Nat) : RowEdit → Prop
  | clear => False
  | erase start stop => ¬(start ≤ x ∧ x < stop) ∧ marked x
  | put column cell => if x = column then cell.rendition.blink = true else marked x
  | insert column cell =>
      if x < column then marked x
      else if x = column then cell.rendition.blink = true
      else x < columns ∧ marked (x - 1) ∧ ¬marked x
  | openGap column count =>
      if x < column then marked x
      else x < columns ∧ column + count ≤ x ∧ marked (x - count) ∧ ¬(0 < count ∧ marked x)
  | closeGap column count =>
      if x < column then marked x else x < columns ∧ marked (x + count)

/-- Two of the marked columns are as far apart as an edit moves them. -/
def Collides (marked : Nat → Prop) : RowEdit → Prop
  | insert column _ => ∃ x, column ≤ x ∧ marked x ∧ marked (x + 1)
  | openGap column count => 0 < count ∧ ∃ x, column ≤ x ∧ marked x ∧ marked (x + count)
  | clear | erase _ _ | put _ _ | closeGap _ _ => False

theorem collides_iff (marks : BlinkMarks) :
    edit.collides marks y = true ↔ edit.Collides fun x => ⟨x, y⟩ ∈ marks.positions := by
  cases edit with
  | insert column cell =>
      rw [collides, BlinkMarks.collidesRight_iff]
      exact and_iff_right Nat.one_pos
  | openGap column count => exact BlinkMarks.collidesRight_iff
  | clear | erase | put | closeGap => simp [collides, Collides]

theorem mem_writeMark {marks : BlinkMarks} {cell : Cell} {column row : Nat} :
    ⟨x, row⟩ ∈ (writeMark cell ⟨column, y⟩ marks).positions ↔
      if row = y ∧ x = column then cell.rendition.blink = true
      else ⟨x, row⟩ ∈ marks.positions := by
  rw [writeMark]
  by_cases blinks : cell.rendition.blink = true
  · rw [if_pos blinks, BlinkMarks.mem_insert, Position.mk.injEq]
    grind
  · rw [if_neg blinks, BlinkMarks.mem_erase, ne_eq, Position.mk.injEq]
    grind

theorem mem_marking
    {marks : BlinkMarks} {row : Nat}
    (ordered : marks.Ordered) :
    ⟨x, row⟩ ∈ (edit.marking columns y marks).positions ↔
      if row = y then edit.markedAt columns (fun x => ⟨x, y⟩ ∈ marks.positions) x
      else ⟨x, row⟩ ∈ marks.positions := by
  cases edit with
  | clear =>
      rw [marking, BlinkMarks.mem_eraseRow, markedAt]
      grind
  | erase start stop =>
      rw [marking, BlinkMarks.mem_eraseSpan, markedAt]
      grind
  | put column cell =>
      rw [marking, mem_writeMark, markedAt]
      grind
  | insert column cell =>
      rw [marking, mem_writeMark, markedAt, show (1 : Int) = (1 : Nat) from rfl,
        BlinkMarks.mem_shiftColumns_right ordered]
      grind
  | openGap column count =>
      rw [marking, BlinkMarks.mem_eraseSpan, BlinkMarks.mem_shiftColumns_right ordered, markedAt]
      grind
  | closeGap column count =>
      have erased : (marks.eraseSpan y column (column + count)).Ordered := ordered.filter _
      rw [marking, BlinkMarks.mem_shiftColumns_left erased, BlinkMarks.mem_eraseSpan,
        BlinkMarks.mem_eraseSpan, markedAt]
      grind

/-- Marks stay on blinking cells. -/
theorem blink_of_markedAt
    (fits : edit.Fits columns)
    (sound : ∀ x, marked x → x < columns ∧ (old x).rendition.blink = true)
    (here : edit.markedAt columns marked x) :
    x < columns ∧ (edit.cellAt fill columns old x).rendition.blink = true := by
  cases edit with
  | clear => exact here.elim
  | erase start stop =>
      rw [cellAt, if_neg here.1]
      exact sound x here.2
  | put column cell =>
      rw [markedAt] at here
      rw [cellAt]
      split at here
      · next same => exact ⟨same ▸ fits, by rwa [if_pos same]⟩
      · next other => exact ⟨(sound x here).1, by rw [if_neg other]; exact (sound x here).2⟩
  | insert column cell =>
      rw [markedAt] at here
      rw [cellAt]
      grind [Fits]
  | openGap column count =>
      rw [markedAt] at here
      rw [cellAt]
      grind
  | closeGap column count =>
      rw [markedAt] at here
      rw [cellAt]
      grind

/-- Blinking cells stay marked when no marks collide. -/
theorem markedAt_of_blink
    (dark : fill.rendition.blink = false)
    (complete : ∀ x < columns, (old x).rendition.blink = true → marked x)
    (apart : ¬edit.Collides marked)
    (inside : x < columns)
    (blinks : (edit.cellAt fill columns old x).rendition.blink = true) :
    edit.markedAt columns marked x := by
  cases edit with
  | clear =>
      rw [cellAt, dark] at blinks
      cases blinks
  | erase start stop =>
      rw [cellAt] at blinks
      rw [markedAt]
      grind
  | put column cell =>
      rw [cellAt] at blinks
      rw [markedAt]
      grind
  | insert column cell =>
      rw [cellAt] at blinks
      rw [markedAt]
      rw [Collides] at apart
      grind
  | openGap column count =>
      rw [cellAt] at blinks
      rw [markedAt]
      split
      · next before =>
          rw [if_pos before] at blinks
          exact complete x inside blinks
      · next reached =>
          rw [if_neg reached] at blinks
          split at blinks
          · rw [dark] at blinks
            cases blinks
          · next moved =>
              have source := complete (x - count) (by omega) blinks
              refine ⟨inside, by omega, source, ?_⟩
              rintro ⟨some, here⟩
              refine apart ⟨some, x - count, by omega, source, ?_⟩
              rwa [Nat.sub_add_cancel (by omega)]
  | closeGap column count =>
      rw [cellAt] at blinks
      rw [markedAt]
      grind

/-- A mark on which another one was put down is lost. -/
theorem exists_missed
    (sound : ∀ x, marked x → x < columns ∧ (old x).rendition.blink = true)
    (collides : edit.Collides marked) :
    ∃ x < columns,
      (edit.cellAt fill columns old x).rendition.blink = true ∧
        ¬edit.markedAt columns marked x := by
  cases edit with
  | insert column cell =>
      obtain ⟨x, reached, here, landed⟩ := collides
      refine ⟨x + 1, (sound _ landed).1, ?_, ?_⟩
      · rw [cellAt, if_neg (by omega), if_neg (by omega)]
        exact (sound x here).2
      · rw [markedAt, if_neg (by omega), if_neg (by omega)]
        exact fun kept => kept.2.2 landed
  | openGap column count =>
      obtain ⟨some, x, reached, here, landed⟩ := collides
      refine ⟨x + count, (sound _ landed).1, ?_, ?_⟩
      · rw [cellAt, if_neg (by omega), if_neg (by omega), Nat.add_sub_cancel]
        exact (sound x here).2
      · rw [markedAt, if_neg (by omega)]
        exact fun kept => kept.2.2.2 ⟨some, landed⟩
  | clear | erase | put | closeGap => exact collides.elim

end RowEdit

/-! ## Marks of a screen -/

namespace BlinkMarks

/-- The marks are on cells of a screen that blink, and unless some were missed
on all of them. -/
structure Tracks (lines columns : Nat) (cells : Nat → Nat → Cell) (missed : Bool)
    (marks : BlinkMarks) : Prop where
  ordered : marks.Ordered
  sound : ∀ x y, ⟨x, y⟩ ∈ marks.positions →
    x < columns ∧ y < lines ∧ (cells x y).rendition.blink = true
  complete : missed = false → ∀ x y, x < columns → y < lines →
    (cells x y).rendition.blink = true → ⟨x, y⟩ ∈ marks.positions

/-- A cell blinks that is not marked. -/
def Misses (lines columns : Nat) (cells : Nat → Nat → Cell) (marks : BlinkMarks) : Prop :=
  ∃ x y, x < columns ∧ y < lines ∧ (cells x y).rendition.blink = true ∧
    ⟨x, y⟩ ∉ marks.positions

namespace Tracks

variable {lines columns : Nat} {cells after : Nat → Nat → Cell} {missed : Bool}
variable {marks : BlinkMarks} {fill : Cell}

theorem congr
    (tracks : marks.Tracks lines columns cells missed)
    (same : ∀ x y, x < columns → y < lines → after x y = cells x y) :
    marks.Tracks lines columns after missed where
  ordered := tracks.ordered
  sound x y member := by
    obtain ⟨column, inside, blinks⟩ := tracks.sound x y member
    exact ⟨column, inside, by rwa [same x y column inside]⟩
  complete kept x y column inside blinks := by
    rw [same x y column inside] at blinks
    exact tracks.complete kept x y column inside blinks

theorem of_dark
    (dark : ∀ x y, x < columns → y < lines → (cells x y).rendition.blink = false) :
    Tracks lines columns cells missed {} where
  ordered := ordered_empty
  sound x y member := by cases member
  complete _ x y column inside blinks := by
    rw [dark x y column inside] at blinks
    cases blinks

/-- Misses stay misses. -/
theorem weaken (tracks : marks.Tracks lines columns cells missed) (more : Bool) :
    marks.Tracks lines columns cells (missed || more) where
  ordered := tracks.ordered
  sound := tracks.sound
  complete kept := tracks.complete (Bool.or_eq_false_iff.mp kept).1

section Edit

variable {edit : RowEdit} {y : Nat}

theorem ordered_marking (ordered : marks.Ordered) :
    (edit.marking columns y marks).Ordered := by
  cases edit with
  | clear | erase => exact ordered.filter _
  | put column cell =>
      rw [RowEdit.marking, RowEdit.writeMark]
      split
      · exact ordered.insert _
      · exact ordered.filter _
  | insert column cell =>
      rw [RowEdit.marking, RowEdit.writeMark]
      split
      · exact ordered.relocate.insert _
      · exact ordered.relocate.filter _
  | openGap column count => exact ordered.relocate.filter _
  | closeGap column count => exact (ordered.filter _).relocate

/-- The marks follow an edit of row `y`; those that collide are missed. -/
theorem after_edit
    (tracks : marks.Tracks lines columns cells missed)
    (fits : edit.Fits columns)
    (editInside : y < lines)
    (dark : fill.rendition.blink = false)
    (edited : ∀ x row, x < columns → row < lines →
      after x row = if row = y then edit.cellAt fill columns (cells · y) x else cells x row) :
    (edit.marking columns y marks).Tracks lines columns after
      (missed || edit.collides marks y) where
  ordered := ordered_marking tracks.ordered
  sound x row member := by
    rw [RowEdit.mem_marking tracks.ordered] at member
    by_cases here : row = y
    · subst here
      rw [if_pos rfl] at member
      obtain ⟨column, blinks⟩ :=
        RowEdit.blink_of_markedAt fits
          (fun x marked => ⟨(tracks.sound x row marked).1, (tracks.sound x row marked).2.2⟩) member
      refine ⟨column, editInside, ?_⟩
      rw [edited x row column editInside, if_pos rfl]
      exact blinks
    · rw [if_neg here] at member
      obtain ⟨column, inside, blinks⟩ := tracks.sound x row member
      exact ⟨column, inside, by rwa [edited x row column inside, if_neg here]⟩
  complete kept x row column inside blinks := by
    obtain ⟨keptBefore, apart⟩ := Bool.or_eq_false_iff.mp kept
    have complete := tracks.complete keptBefore
    rw [edited x row column inside] at blinks
    rw [RowEdit.mem_marking tracks.ordered]
    by_cases here : row = y
    · subst here
      rw [if_pos rfl] at blinks ⊢
      refine RowEdit.markedAt_of_blink dark (fun x column => complete x row column inside) ?_
        column blinks
      rw [← RowEdit.collides_iff, apart]
      exact Bool.false_ne_true
    · rw [if_neg here] at blinks ⊢
      exact complete x row column inside blinks

theorem misses_edit
    (tracks : marks.Tracks lines columns cells missed)
    (editInside : y < lines)
    (edited : ∀ x row, x < columns → row < lines →
      after x row = if row = y then edit.cellAt fill columns (cells · y) x else cells x row)
    (collides : edit.collides marks y = true) :
    (edit.marking columns y marks).Misses lines columns after := by
  have sound : ∀ x, ⟨x, y⟩ ∈ marks.positions →
      x < columns ∧ (cells x y).rendition.blink = true :=
    fun x marked => ⟨(tracks.sound x y marked).1, (tracks.sound x y marked).2.2⟩
  obtain ⟨x, column, blinks, unmarked⟩ :=
    RowEdit.exists_missed sound ((RowEdit.collides_iff marks).mp collides)
  refine ⟨x, y, column, editInside, ?_, ?_⟩
  · rw [edited x y column editInside, if_pos rfl]
    exact blinks
  · rwa [RowEdit.mem_marking tracks.ordered, if_pos rfl]

end Edit

section Scroll

variable {top bottom : Nat} {amount : Int}

/-- The marks follow rows that move; those that collide are missed. -/
theorem after_scroll
    (tracks : marks.Tracks lines columns cells missed)
    (bottomInside : bottom < lines)
    (dark : fill.rendition.blink = false)
    (moved : ∀ x y, x < columns → y < lines →
      after x y =
        if top ≤ y ∧ y ≤ bottom then
          if (top : Int) ≤ y + amount ∧ y + amount ≤ bottom then cells x (y + amount).toNat
          else fill
        else cells x y) :
    (marks.shiftRows top bottom amount).Tracks lines columns after
      (missed || marks.collidesDown top bottom (-amount).toNat) where
  ordered := tracks.ordered.relocate
  sound x y member := by
    rw [mem_shiftRows tracks.ordered] at member
    rcases member with ⟨old, outside⟩ | ⟨region, row, rowEq, rowInside, old, -⟩
    · obtain ⟨column, inside, blinks⟩ := tracks.sound x y old
      exact ⟨column, inside, by rwa [moved x y column inside, if_neg outside]⟩
    · obtain ⟨column, -, blinks⟩ := tracks.sound x row old
      refine ⟨column, by omega, ?_⟩
      have rowHere : ((y : Int) + amount).toNat = row := by omega
      rwa [moved x y column (by omega), if_pos region, if_pos (by omega), rowHere]
  complete kept x y column inside blinks := by
    obtain ⟨keptBefore, apart⟩ := Bool.or_eq_false_iff.mp kept
    have complete := tracks.complete keptBefore
    rw [moved x y column inside] at blinks
    rw [mem_shiftRows tracks.ordered]
    by_cases region : top ≤ y ∧ y ≤ bottom
    · rw [if_pos region] at blinks
      by_cases stays : (top : Int) ≤ y + amount ∧ y + amount ≤ bottom
      · rw [if_pos stays] at blinks
        have source := complete x (y + amount).toNat column (by omega) blinks
        refine Or.inr ⟨region, (y + amount).toNat, by omega, by omega, source, ?_⟩
        rintro ⟨down, here⟩
        apply Bool.false_ne_true
        rw [← apart, collidesDown_iff]
        refine ⟨by omega, x, (y + amount).toNat, by omega, by omega, source, ?_⟩
        have rowHere : (y + amount).toNat + (-amount).toNat = y := by omega
        rwa [rowHere]
      · rw [if_neg stays, dark] at blinks
        cases blinks
    · rw [if_neg region] at blinks
      exact Or.inl ⟨complete x y column inside blinks, region⟩

theorem misses_scroll
    (tracks : marks.Tracks lines columns cells missed)
    (moved : ∀ x y, x < columns → y < lines →
      after x y =
        if top ≤ y ∧ y ≤ bottom then
          if (top : Int) ≤ y + amount ∧ y + amount ≤ bottom then cells x (y + amount).toNat
          else fill
        else cells x y)
    (collides : marks.collidesDown top bottom (-amount).toNat = true) :
    (marks.shiftRows top bottom amount).Misses lines columns after := by
  obtain ⟨some, x, y, above, below, here, landed⟩ := collidesDown_iff.mp collides
  obtain ⟨column, -, blinks⟩ := tracks.sound x y here
  obtain ⟨-, inside, -⟩ := tracks.sound x _ landed
  refine ⟨x, y + (-amount).toNat, column, inside, ?_, ?_⟩
  · have source : (((y + (-amount).toNat : Nat) : Int) + amount).toNat = y := by omega
    rwa [moved x _ column inside, if_pos (by omega), if_pos (by omega), source]
  · rw [mem_shiftRows tracks.ordered]
    rintro (⟨-, outside⟩ | ⟨-, row, rowEq, -, -, alone⟩)
    · exact outside (by omega)
    · exact alone ⟨by omega, landed⟩

end Scroll

end Tracks

end BlinkMarks

end VideoTerminal
