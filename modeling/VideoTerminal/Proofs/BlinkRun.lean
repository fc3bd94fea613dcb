import VideoTerminal.Proofs.Blinking

/-!
Blink marks in a run. Both screens keep their marks on blinking cells, and on
all of them until marks collide. What a renderer is told to blink is then just
what blinks.
-/

namespace VideoTerminal

namespace BlinkMarks

/-- An amount that is held back at the height of the region makes no other
marks collide. -/
theorem collidesDown_clampAmount (marks : BlinkMarks) (top bottom : Nat) (amount : Int) :
    marks.collidesDown top bottom (-Terminal.clampAmount top bottom amount).toNat =
      marks.collidesDown top bottom (-amount).toNat := by
  have far : ∀ count, bottom - top < count → marks.collidesDown top bottom count = false := by
    intro count beyond
    rw [← Bool.not_eq_true, collidesDown_iff]
    rintro ⟨_, x, y, above, below, -⟩
    omega
  by_cases beyond : bottom - top < (-amount).toNat
  · rw [far _ beyond, far _ (by rw [Terminal.clampAmount]; omega)]
  · by_cases up : 0 ≤ amount
    · have none : (-amount).toNat = 0 := by omega
      have noneClamped : (-Terminal.clampAmount top bottom amount).toNat = 0 := by
        rw [Terminal.clampAmount]
        omega
      rw [none, noneClamped]
    · have same : Terminal.clampAmount top bottom amount = amount := by
        rw [Terminal.clampAmount]
        omega
      rw [same]

end BlinkMarks

namespace Terminal

variable {lines columns limit : Nat} {missed collided : Bool} {terminal first second : Terminal}

/-! ## The marks of the screen that is shown -/

theorem blink_modifyBlink (terminal : Terminal) (change : BlinkMarks → BlinkMarks) :
    (terminal.modifyBlink change).blink = change terminal.blink := by
  cases shown : terminal.buffer.onAlternate <;>
    simp [blink, Terminal.modifyBlink, onAlternate, shown]

theorem blink_withBuffer
    {buffer : ScreenBuffer}
    (same : buffer.onAlternate = terminal.buffer.onAlternate) :
    { terminal with buffer }.blink = terminal.blink := by
  change (if buffer.onAlternate then terminal.alternateBlink else terminal.mainBlink) = _
  rw [same]
  rfl

theorem blink_moveRows (terminal : Terminal) (top bottom : Nat) (amount : Int) :
    (terminal.moveRows top bottom amount).blink = terminal.blink := by
  have shown := (SameHidden.moveRows terminal top bottom amount).onAlternate_eq
  rw [moveRows] at shown ⊢
  split at shown
  · next whole =>
      rw [if_pos whole, blink, blink, shown, advance_frame]
  · next part =>
      rw [if_neg part]
      exact blink_withBuffer shown

theorem blink_of_sameContent (same : first.SameContent second) : second.blink = first.blink := by
  rw [blink, onAlternate, same.buffer_eq, same.mainBlink_eq, same.alternateBlink_eq]
  rfl

theorem cell_of_sameContent (same : first.SameContent second) : second.cell = first.cell := by
  funext x y
  simp only [cell, same.buffer_eq]

theorem cell_modifyBlink (terminal : Terminal) (change : BlinkMarks → BlinkMarks) :
    (terminal.modifyBlink change).cell = terminal.cell := by
  funext x y
  rw [cell, buffer_modifyBlink]
  rfl

theorem blink_edit (terminal : Terminal) (y : Nat) (edit : RowEdit) :
    (terminal.edit y edit).blink = edit.marking terminal.columns y terminal.blink := by
  rw [Terminal.edit, blink_modifyBlink]
  exact congrArg _
    (blink_withBuffer (ScreenBuffer.SameHidden.modifyScreen _ _ _).onAlternate_eq)

theorem filled_dark
    {fill : Cell}
    (dark : fill.rendition.blink = false)
    (width x : Nat) :
    ((Row.filled width fill).cells[x]?.getD {}).rendition.blink = false := by
  rw [Row.filled, List.getElem?_replicate]
  split
  · exact dark
  · rfl

/-- What is erased does not blink. -/
theorem fill_dark (terminal : Terminal) : terminal.fill.rendition.blink = false :=
  rfl

section Scroll

variable {top bottom : Nat} {amount : Int}

theorem blink_scroll (valid : ¬(amount = 0 ∨ top > bottom ∨ bottom ≥ terminal.lines)) :
    (terminal.scroll top bottom amount).blink =
      terminal.blink.shiftRows top bottom (clampAmount top bottom amount) := by
  rw [blink_of_sameContent (scroll_content terminal valid), blink_modifyBlink, blink_moveRows]

theorem cell_scroll
    (wellFormed : terminal.WellFormed lines columns limit)
    (valid : ¬(amount = 0 ∨ top > bottom ∨ bottom ≥ terminal.lines))
    {x y : Nat}
    (column : x < columns)
    (inside : y < lines) :
    (terminal.scroll top bottom amount).cell x y =
      if top ≤ y ∧ y ≤ bottom then
        if (top : Int) ≤ y + clampAmount top bottom amount ∧
            y + clampAmount top bottom amount ≤ bottom then
          terminal.cell x (y + clampAmount top bottom amount).toNat
        else terminal.fill
      else terminal.cell x y := by
  rw [cell_of_sameContent (scroll_content terminal valid), cell_modifyBlink]
  rw [wellFormed.lines_eq] at valid
  have some : clampAmount top bottom amount ≠ 0 := by
    rw [clampAmount]
    omega
  have atMost : (clampAmount top bottom amount).natAbs ≤ bottom + 1 - top := by
    rw [clampAmount]
    omega
  exact cell_moveRows wellFormed some atMost (by omega) column inside

theorem scrollCollides_eq (valid : ¬(amount = 0 ∨ top > bottom ∨ bottom ≥ terminal.lines)) :
    terminal.scrollCollides top bottom amount =
      terminal.blink.collidesDown top bottom (-clampAmount top bottom amount).toNat := by
  rw [scrollCollides, decide_eq_true (by omega), Bool.true_and,
    BlinkMarks.collidesDown_clampAmount]

theorem scrollCollides_of_nothing (nothing : amount = 0 ∨ top > bottom ∨ bottom ≥ terminal.lines) :
    terminal.scrollCollides top bottom amount = false := by
  rw [← Bool.not_eq_true, scrollCollides, Bool.and_eq_true, decide_eq_true_iff,
    BlinkMarks.collidesDown_iff]
  rintro ⟨bottomInside, some, x, y, above, below, -⟩
  omega

end Scroll

/-- The marks follow a small step; those that collide are missed. -/
theorem tracks_of_step
    (step : Step lines columns limit collided first second)
    (tracks : first.blink.Tracks lines columns first.cell missed) :
    second.blink.Tracks lines columns second.cell (missed || collided) := by
  cases step with
  | still same =>
      rw [blink_of_sameContent same, cell_of_sameContent same]
      exact tracks.weaken false
  | edit wellFormed inside fits =>
      rw [blink_edit, wellFormed.columns_eq]
      exact tracks.after_edit fits inside (fill_dark first) fun x row column rowInside =>
        cell_edit wellFormed fits inside column rowInside
  | scroll top bottom amount wellFormed =>
      by_cases nothing : amount = 0 ∨ top > bottom ∨ bottom ≥ first.lines
      · rw [Terminal.scroll, if_pos nothing]
        exact tracks.weaken _
      · have bottomInside : bottom < lines := by
          rw [← wellFormed.lines_eq]
          omega
        rw [blink_scroll nothing, scrollCollides_eq nothing]
        exact tracks.after_scroll bottomInside (fill_dark first) fun x y column inside =>
          cell_scroll wellFormed nothing column inside
  | fillScreen wellFormed dark =>
      rw [fillScreen, blink_modifyBlink]
      apply BlinkMarks.Tracks.of_dark
      intro x y column inside
      rw [← fillScreen, cell_fillScreen wellFormed _ column inside]
      exact dark
  | clearHistory wellFormed =>
      have shown : first.clearHistory.blink = first.blink := by
        rw [clearHistory]
        split <;> rfl
      rw [shown]
      exact (tracks.weaken false).congr fun x y _ inside => cell_clearHistory wellFormed inside
  | continueLine y wellFormed =>
      rw [blink_withBuffer (ScreenBuffer.SameCells.continueLine _ y).onAlternate_eq]
      exact (tracks.weaken false).congr fun _ _ _ inside =>
        cell_of_sameCells wellFormed (wellFormed.shaped.continueLine y) (.continueLine _ y) inside
  | completeLine x y wellFormed =>
      rw [blink_withBuffer (ScreenBuffer.SameCells.completeLine _ x y).onAlternate_eq]
      exact (tracks.weaken false).congr fun _ _ _ inside =>
        cell_of_sameCells wellFormed (wellFormed.shaped.completeLine x y) (.completeLine _ x y)
          inside
  | beginLine y wellFormed =>
      rw [blink_withBuffer (ScreenBuffer.SameCells.beginLine _ y).onAlternate_eq]
      exact (tracks.weaken false).congr fun _ _ _ inside =>
        cell_of_sameCells wellFormed (wellFormed.shaped.beginLine y) (.beginLine _ y) inside

/-- Marks that collide in a small step leave a cell that blinks unmarked. -/
theorem misses_of_step
    (step : Step lines columns limit collided first second)
    (collides : collided = true)
    (tracks : first.blink.Tracks lines columns first.cell missed) :
    second.blink.Misses lines columns second.cell := by
  cases step with
  | edit wellFormed inside fits =>
      rw [blink_edit, wellFormed.columns_eq]
      exact tracks.misses_edit inside
        (fun x row column rowInside => cell_edit wellFormed fits inside column rowInside) collides
  | scroll top bottom amount wellFormed =>
      by_cases nothing : amount = 0 ∨ top > bottom ∨ bottom ≥ first.lines
      · rw [scrollCollides_of_nothing nothing] at collides
        cases collides
      · rw [blink_scroll nothing]
        rw [scrollCollides_eq nothing] at collides
        exact tracks.misses_scroll
          (fun x y column inside => cell_scroll wellFormed nothing column inside) collides
  | still | fillScreen | clearHistory | continueLine | completeLine | beginLine =>
      cases collides

/-- Nothing is missed or found by what leaves rows and marks. -/
theorem misses_of_sameContent
    (same : first.SameContent second)
    (misses : first.blink.Misses lines columns first.cell) :
    second.blink.Misses lines columns second.cell := by
  rwa [blink_of_sameContent same, cell_of_sameContent same]

/-! ## The marks of both screens -/

/-- The cell of a position of one of the two screens. -/
def screenCell (terminal : Terminal) (alternate : Bool) (x y : Nat) : Cell :=
  ((terminal.buffer.showAlternate alternate).screenRow y).cells[x]?.getD {}

/-- The marks of one of the two screens. -/
def screenMarks (terminal : Terminal) (alternate : Bool) : BlinkMarks :=
  if alternate then terminal.alternateBlink else terminal.mainBlink

/-- The marks of both screens are on their blinking cells, and unless some were
missed on all of them. -/
def BlinkTracked (lines columns : Nat) (missed : Bool) (terminal : Terminal) : Prop :=
  ∀ alternate,
    (terminal.screenMarks alternate).Tracks lines columns (terminal.screenCell alternate) missed

theorem screenCell_main (terminal : Terminal) (x y : Nat) :
    terminal.screenCell false x y =
      ((terminal.buffer.ring.get?
        (terminal.buffer.ring.size - terminal.buffer.lines + y)).getD {}).cells[x]?.getD {} :=
  rfl

theorem screenCell_alternate (terminal : Terminal) (x y : Nat) :
    terminal.screenCell true x y =
      (terminal.buffer.alternate[terminal.buffer.lines - terminal.buffer.lines + y]?.getD
        {}).cells[x]?.getD {} :=
  rfl

theorem SameHidden.screenMarks_eq (same : first.SameHidden second) :
    second.screenMarks (!first.onAlternate) = first.screenMarks (!first.onAlternate) := by
  cases shown : first.onAlternate with
  | true => exact same.mainBlink_eq shown
  | false => exact same.alternateBlink_eq shown

theorem SameHidden.screenCell_eq (same : first.SameHidden second) :
    second.screenCell (!first.onAlternate) = first.screenCell (!first.onAlternate) := by
  funext x y
  cases shown : first.onAlternate with
  | true =>
      rw [Bool.not_true, screenCell_main, screenCell_main, same.buffer.ring_eq shown,
        same.buffer.lines_eq]
  | false =>
      rw [Bool.not_false, screenCell_alternate, screenCell_alternate,
        same.buffer.alternate_eq shown, same.buffer.lines_eq]

namespace BlinkTracked

theorem shown (tracked : terminal.BlinkTracked lines columns missed) :
    terminal.blink.Tracks lines columns terminal.cell missed :=
  tracked terminal.onAlternate

theorem step
    (tracked : first.BlinkTracked lines columns missed)
    (step : Step lines columns limit collided first second) :
    second.BlinkTracked lines columns (missed || collided) := by
  have same := SameHidden.of_step step
  intro alternate
  by_cases shown : alternate = first.onAlternate
  · have here := tracks_of_step step tracked.shown
    rw [shown, ← same.onAlternate_eq]
    exact here
  · have hidden : alternate = !first.onAlternate := Bool.eq_not.mpr shown
    rw [hidden, same.screenMarks_eq, same.screenCell_eq]
    exact (tracked _).weaken collided

theorem steps
    (tracked : first.BlinkTracked lines columns missed)
    (steps : Steps lines columns limit collided first second) :
    second.BlinkTracked lines columns (missed || collided) := by
  induction steps generalizing missed with
  | refl => rwa [Bool.or_false]
  | head here _ inductionHypothesis =>
      rw [← Bool.or_assoc]
      exact inductionHypothesis (tracked.step here)

/-- Nothing else is looked at than rows and marks. -/
theorem of_eq
    (tracked : first.BlinkTracked lines columns missed)
    (buffer_eq : second.buffer = first.buffer)
    (mainBlink_eq : second.mainBlink = first.mainBlink)
    (alternateBlink_eq : second.alternateBlink = first.alternateBlink) :
    second.BlinkTracked lines columns missed := by
  intro alternate
  have cells : second.screenCell alternate = first.screenCell alternate := by
    funext x y
    rw [screenCell, buffer_eq]
    rfl
  have marks : second.screenMarks alternate = first.screenMarks alternate := by
    rw [screenMarks, mainBlink_eq, alternateBlink_eq]
    rfl
  rw [cells, marks]
  exact tracked alternate

theorem clearAlternate (tracked : terminal.BlinkTracked lines columns missed) :
    BlinkTracked lines columns missed
      { terminal with
        buffer := terminal.buffer.clearAlternate terminal.fill, alternateBlink := {} } := by
  intro alternate
  cases alternate with
  | false => exact tracked false
  | true =>
      apply BlinkMarks.Tracks.of_dark
      intro x y _ _
      change
        (((terminal.buffer.alternate.map (Row.clear terminal.fill))[
          terminal.buffer.lines - terminal.buffer.lines + y]?.getD {}).cells[x]?.getD
            {}).rendition.blink = false
      rw [Array.getElem?_map]
      cases terminal.buffer.alternate[terminal.buffer.lines - terminal.buffer.lines + y]? with
      | none => rfl
      | some row => exact filled_dark (fill_dark terminal) _ x

theorem showScreen (tracked : terminal.BlinkTracked lines columns missed)
    (alternate clear : Bool) :
    (terminal.showScreen alternate clear).BlinkTracked lines columns missed := by
  rw [Terminal.showScreen]
  split
  · exact tracked
  · split
    · exact tracked.clearAlternate
    · exact tracked

theorem setPrivateMode
    (tracked : terminal.BlinkTracked lines columns missed) (mode : Nat) (on : Bool) :
    (terminal.setPrivateMode mode on).BlinkTracked lines columns missed := by
  have saved : terminal.saveMainPosition.BlinkTracked lines columns missed :=
    tracked.of_eq rfl rfl rfl
  refine terminal.setPrivateMode_cases on mode ?modes ?visible ?screen ?save ?restore ?enter ?leave
  case modes => exact fun _ => tracked.of_eq rfl rfl rfl
  case visible => exact tracked.of_eq rfl rfl rfl
  case screen => exact tracked.showScreen on
  case save => exact saved
  case restore => exact tracked.of_eq rfl rfl rfl
  case enter => exact saved.showScreen true true
  case leave => exact (tracked.showScreen false false).of_eq rfl rfl rfl

/-- Blank screens have no marks and need none. -/
theorem blank (newLines newColumns newLimit : Nat) :
    (Terminal.blank newLines newColumns newLimit).BlinkTracked lines columns missed := by
  intro alternate
  have marks : (Terminal.blank newLines newColumns newLimit).screenMarks alternate = {} := by
    cases alternate <;> rfl
  rw [marks]
  apply BlinkMarks.Tracks.of_dark
  intro x y _ _
  have dark : ({} : Cell).rendition.blink = false := rfl
  have row : ((Row.filled newColumns {}).cells[x]?.getD {}).rendition.blink = false :=
    filled_dark dark newColumns x
  cases alternate with
  | false =>
      rw [screenCell_main]
      cases lookup : (Terminal.blank newLines newColumns newLimit).buffer.ring.get? _ with
      | none => rfl
      | some found =>
          have member := Ring.get?_mem lookup
          rw [Terminal.blank, ScreenBuffer.blank, Ring.toList_ofList] at member
          rwa [Option.getD_some, List.eq_of_mem_replicate member]
  | true =>
      change
        (((Array.replicate newLines (Row.filled newColumns {}))[newLines - newLines + y]?.getD
          {}).cells[x]?.getD {}).rendition.blink = false
      rw [Array.getElem?_replicate]
      split
      · exact row
      · rfl

theorem reset (missed : Bool) (terminal : Terminal) :
    terminal.reset.BlinkTracked lines columns missed :=
  (blank terminal.lines terminal.columns terminal.buffer.historyLimit).of_eq rfl rfl rfl

end BlinkTracked

/-! ## Requests -/

namespace BlinkTracked

theorem serve
    (tracked : terminal.BlinkTracked lines columns missed)
    (wellFormed : terminal.WellFormed lines columns limit)
    {request : Request}
    (sameSize : request.isResize = false) :
    (terminal.serve request).BlinkTracked lines columns
      (missed || terminal.serveCollides request) := by
  rcases request.cases_screens with stays | ⟨modes, on, rfl⟩ | replaces
  · exact tracked.steps (.serve wellFormed stays)
  · rw [show terminal.serveCollides _ = false from rfl, Bool.or_false]
    exact List.foldlRecOn modes _ (motive := BlinkTracked lines columns missed) tracked
      fun current kept mode _ => kept.setPrivateMode mode on
  · cases request with
    | resize => cases sameSize
    | perform function =>
        cases function with
        | reset => exact reset _ terminal
        | _ => cases replaces
    | _ => cases replaces

theorem foldl_serve
    (tracked : terminal.BlinkTracked lines columns missed)
    (wellFormed : terminal.WellFormed lines columns limit)
    {requests : List Request}
    (sameSize : ∀ request ∈ requests, request.isResize = false) :
    (requests.foldl Terminal.serve terminal).BlinkTracked lines columns
        (missed || terminal.collidesIn requests) ∧
      (requests.foldl Terminal.serve terminal).WellFormed lines columns limit := by
  induction requests generalizing terminal missed with
  | nil => exact ⟨by rwa [collidesIn, Bool.or_false], wellFormed⟩
  | cons request rest inductionHypothesis =>
      have here := sameSize request List.mem_cons_self
      rw [collidesIn, ← Bool.or_assoc]
      exact inductionHypothesis (tracked.serve wellFormed here)
        (wellFormed.serve_of_not_resize here)
        fun each member => sameSize each (List.mem_cons_of_mem request member)

end BlinkTracked

/-- The marks are the positions of the cells of the screen that blink. -/
def MarksExact (terminal : Terminal) : Prop :=
  ∀ x y, x < terminal.columns → y < terminal.lines →
    (⟨x, y⟩ ∈ terminal.blink.positions ↔ (terminal.cell x y).rendition.blink = true)

theorem BlinkTracked.marksExact
    (tracked : terminal.BlinkTracked lines columns false)
    (wellFormed : terminal.WellFormed lines columns limit) :
    terminal.MarksExact := by
  intro x y column inside
  rw [wellFormed.columns_eq] at column
  rw [wellFormed.lines_eq] at inside
  exact ⟨fun marked => (tracked.shown.sound x y marked).2.2,
    tracked.shown.complete rfl x y column inside⟩

theorem not_marksExact
    (wellFormed : terminal.WellFormed lines columns limit)
    (misses : terminal.blink.Misses lines columns terminal.cell) :
    ¬terminal.MarksExact := by
  obtain ⟨x, y, column, inside, blinks, unmarked⟩ := misses
  intro exact
  rw [← wellFormed.columns_eq] at column
  rw [← wellFormed.lines_eq] at inside
  exact unmarked ((exact x y column inside).mpr blinks)

/-- The request is served in one go, which more than one character are not. -/
def Request.isStep : Request → Bool
  | .resize _ _ => false
  | .print text => text.length ≤ 1
  | _ => true

theorem misses_of_edit
    (tracked : terminal.BlinkTracked lines columns missed)
    (wellFormed : terminal.WellFormed lines columns limit)
    (edit : RowEdit)
    (fits : edit.Fits columns)
    (collides : edit.collides terminal.blink terminal.cursor.y = true)
    (start stop : Nat) :
    let after := (terminal.edit terminal.cursor.y edit).markDamage terminal.cursor.y start stop
    after.blink.Misses lines columns after.cell := by
  have edited :=
    misses_of_step (.edit wellFormed wellFormed.cursor_row fits) collides tracked.shown
  refine misses_of_sameContent ?_ edited
  exact ⟨rfl, rfl, rfl, rfl, rfl, rfl, id⟩

theorem misses_of_print
    (tracked : terminal.BlinkTracked lines columns missed)
    (wellFormed : terminal.WellFormed lines columns limit)
    {char : Char}
    (collides : terminal.printCollides = true) :
    (terminal.print char).blink.Misses lines columns (terminal.print char).cell := by
  obtain ⟨wrapped, column⟩ := wellFormed.wrap
  have trackedWrapped := tracked.steps (.wrap wellFormed)
  have written :
      let after := terminal.wrap.putCell ⟨char, terminal.wrap.pen⟩
      after.blink.Misses lines columns after.cell := by
    rw [Steps.putCell_eq]
    rw [printCollides, ← Steps.collides_writing] at collides
    exact misses_of_edit trackedWrapped wrapped _ (Steps.writing_fits column) collides _ _
  refine misses_of_sameContent ?_ written
  exact ⟨rfl, rfl, rfl, rfl, rfl, rfl, id⟩

/-- Marks that collide while a request is served in one go leave a cell that
blinks unmarked. -/
theorem misses_of_serve
    (tracked : terminal.BlinkTracked lines columns missed)
    (wellFormed : terminal.WellFormed lines columns limit)
    {request : Request}
    (step : request.isStep = true)
    (collides : terminal.serveCollides request = true) :
    (terminal.serve request).blink.Misses lines columns (terminal.serve request).cell := by
  cases request with
  | scroll top bottom amount =>
      exact misses_of_step (.scroll top bottom amount wellFormed) collides tracked.shown
  | print text =>
      match text with
      | [] => cases collides
      | [char] =>
          rw [serveCollides, printAllCollides, printAllCollides, Bool.or_false] at collides
          exact misses_of_print tracked wellFormed collides
      | _ :: _ :: _ => cases step
  | perform function =>
      cases function with
      | reverseIndex =>
          obtain ⟨atMargin, collides⟩ := (Bool.and_eq_true _ _).mp collides
          have scrolled :
              terminal.reverseIndex =
                terminal.scroll terminal.margins.top terminal.margins.bottom (-1) :=
            if_pos (beq_iff_eq.mp atMargin)
          change terminal.reverseIndex.blink.Misses lines columns terminal.reverseIndex.cell
          rw [scrolled]
          exact misses_of_step (.scroll _ _ _ wellFormed) collides tracked.shown
      | insertLines count =>
          obtain ⟨between, collides⟩ := (Bool.and_eq_true _ _).mp collides
          have shifted :
              (terminal.scroll terminal.cursor.y terminal.margins.bottom
                (-(terminal.clampLines count : Int))).SameContent (terminal.insertLines count) := by
            rw [insertLines, shiftLines, if_pos between]
            exact ⟨rfl, rfl, rfl, rfl, rfl, rfl, id⟩
          exact misses_of_sameContent shifted
            (misses_of_step (.scroll _ _ _ wellFormed) collides tracked.shown)
      | scrollDown count =>
          exact misses_of_step (.scroll _ _ _ wellFormed) collides tracked.shown
      | insertChars count =>
          exact misses_of_edit tracked wellFormed (.openGap _ _)
            (Steps.gap_inside wellFormed count) collides _ _
      | _ => cases collides
  | _ => cases collides

end Terminal

namespace Console

open Terminal (Request)

/-- At a fixed size every mark is on a cell that blinks. As long as no marks
collide, every cell that blinks is marked too; a request in which they do
collide leaves one unmarked. -/
theorem blink_run
    {lines columns limit : Nat}
    (linesPositive : 0 < lines)
    (columnsPositive : 0 < columns)
    {inputs : List Input}
    (sameSize : ∀ request ∈ (blank lines columns limit).runRequests inputs,
      request.isResize = false) :
    let start := blank lines columns limit
    let after := (start.run inputs).terminal
    (after.blink.Ordered ∧
      ∀ mark ∈ after.blink.positions,
        mark.x < columns ∧ mark.y < lines ∧
          (after.cell mark.x mark.y).rendition.blink = true) ∧
      (start.terminal.collidesIn (start.runRequests inputs) = false →
        after.MarksExact ∧
          ∀ request : Request, request.isStep = true →
            ((after.serve request).MarksExact ↔ after.serveCollides request = false)) := by
  intro start after
  have blankWellFormed : start.terminal.WellFormed lines columns limit :=
    .blank linesPositive columnsPositive limit
  have begun : start.terminal.BlinkTracked lines columns false := .blank lines columns limit
  obtain ⟨tracked, wellFormed⟩ := begun.foldl_serve blankWellFormed sameSize
  rw [← terminal_run] at tracked wellFormed
  refine ⟨⟨tracked.shown.ordered, fun mark marked => tracked.shown.sound _ _ marked⟩, ?_⟩
  intro apart
  rw [apart, Bool.or_false] at tracked
  refine ⟨tracked.marksExact wellFormed, ?_⟩
  intro request step
  have sameSize : request.isResize = false := by
    cases request with
    | resize => cases step
    | _ => rfl
  have served := tracked.serve wellFormed sameSize
  have servedWellFormed := wellFormed.serve_of_not_resize sameSize
  cases collides : after.serveCollides request with
  | false =>
      rw [collides, Bool.or_false] at served
      exact iff_of_true (served.marksExact servedWellFormed) rfl
  | true =>
      have misses := Terminal.misses_of_serve tracked wellFormed step collides
      exact iff_of_false (Terminal.not_marksExact servedWellFormed misses)
        Bool.true_eq_false.mp

/-- Blinking cells side by side and one below the other. A column inserted at
the lower row moves one mark; the rows moved down put a mark on another one. -/
theorem blink_run_two_rows :
    let start := blank 2 4 0
    let inputs : List Input :=
      [.request (.configure {} false true {}), .text "\x1b[5mab\r\n\x1b[0mc\x1b[5md\r".toList]
    let after := (start.run inputs).terminal
    (∀ request ∈ start.runRequests inputs, request.isResize = false) ∧
      start.terminal.collidesIn (start.runRequests inputs) = false ∧
      after.blink.positions = [⟨0, 0⟩, ⟨1, 0⟩, ⟨1, 1⟩] ∧
      after.MarksExact ∧
      (after.serve (.perform (.insertChars 1))).MarksExact ∧
      ¬(after.serve (.scroll 0 1 (-1))).MarksExact := by
  intro start inputs after
  have sameSize : ∀ request ∈ start.runRequests inputs, request.isResize = false := by
    decide +kernel
  have apart : start.terminal.collidesIn (start.runRequests inputs) = false := by
    decide +kernel
  have marks : after.blink.positions = [⟨0, 0⟩, ⟨1, 0⟩, ⟨1, 1⟩] := by decide +kernel
  have inserts : after.serveCollides (.perform (.insertChars 1)) = false := by decide +kernel
  have scrolls : after.serveCollides (.scroll 0 1 (-1)) = true := by decide +kernel
  obtain ⟨exact, next⟩ := (blink_run (by decide) (by decide) sameSize).2 apart
  refine ⟨sameSize, apart, marks, exact, (next _ rfl).mpr inserts, ?_⟩
  rw [next (.scroll 0 1 (-1)) rfl, scrolls]
  exact Bool.true_eq_false.mp

/-- A column inserted before two blinking cells side by side takes both marks
along and loses one of them. -/
theorem blink_insert_adjacent :
    let console :=
      (blank 1 4 0).run
        [.request (.configure {} false true {}), .text "\x1b[5mab\r\x1b[@".toList]
    console.terminal.blink.positions = [⟨2, 0⟩] ∧
      (console.terminal.cell 1 0).rendition.blink = true ∧
      (console.terminal.cell 2 0).rendition.blink = true := by
  decide +kernel

end Console

end VideoTerminal
