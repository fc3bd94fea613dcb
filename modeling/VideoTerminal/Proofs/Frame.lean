import VideoTerminal.Terminal.Print
import VideoTerminal.Terminal.Switch

/-!
What changes of a terminal leave alone. Scrolling and printing change the rows
and what a renderer has to know of them; a scroll does not move the cursor. A
renderer that takes the damage, or makes content blink, changes no rows.
-/

namespace VideoTerminal.Terminal

variable (terminal : Terminal)

theorem modifyBlink_frame (change : BlinkMarks → BlinkMarks) :
    terminal.modifyBlink change =
      { terminal with
        mainBlink := (terminal.modifyBlink change).mainBlink
        alternateBlink := (terminal.modifyBlink change).alternateBlink } := by
  unfold modifyBlink
  split <;> rfl

theorem advance_frame (fill : Cell) (count : Nat) :
    terminal.advance fill count =
      { terminal with
        buffer := (terminal.advance fill count).buffer
        evicted := (terminal.advance fill count).evicted } := by
  induction count generalizing terminal with
  | zero => rfl
  | succ count inductionHypothesis => exact inductionHypothesis _

theorem scroll_frame (top bottom : Nat) (amount : Int) :
    terminal.scroll top bottom amount =
      { terminal with
        buffer := (terminal.scroll top bottom amount).buffer
        damage := (terminal.scroll top bottom amount).damage
        mainBlink := (terminal.scroll top bottom amount).mainBlink
        alternateBlink := (terminal.scroll top bottom amount).alternateBlink
        drawnCursor := (terminal.scroll top bottom amount).drawnCursor
        evicted := (terminal.scroll top bottom amount).evicted } := by
  unfold scroll
  split
  · rfl
  · dsimp only
    rw [modifyBlink_frame]
    split
    · rw [advance_frame]
    · rfl

theorem index_cursor_x : terminal.index.1.cursor.x = terminal.cursor.x := by
  unfold index
  dsimp only
  split
  · rw [scroll_frame]
  · split <;> rfl

theorem putCell_cursor (cell : Cell) : (terminal.putCell cell).cursor = terminal.cursor := by
  unfold putCell
  dsimp only
  rw [modifyBlink_frame]
  split
  · rw [modifyBlink_frame]
    rfl
  · rfl

/-- The kinds of change that the private modes make. -/
@[elab_as_elim]
theorem setPrivateMode_cases
    {motive : Terminal → Prop}
    (on : Bool)
    (mode : Nat)
    (modes : ∀ modes, motive { terminal with modes })
    (visible : motive (terminal.setCursorVisible on))
    (screen : ∀ clear, motive (terminal.showScreen on clear))
    (save : motive terminal.saveMainPosition)
    (restore : motive terminal.restoreMainPosition)
    (enter : motive (terminal.saveMainPosition.showScreen true true))
    (leave : motive (terminal.showScreen false false).restoreMainPosition) :
    motive (terminal.setPrivateMode mode on) := by
  unfold setPrivateMode
  split
  · exact modes _
  · exact modes _
  · split
    · exact modes terminal.modes
    · exact modes _
  · exact visible
  · exact screen false
  · exact screen true
  · split
    · exact save
    · exact restore
  · split
    · exact enter
    · exact leave
  · exact modes _
  · exact modes terminal.modes

theorem noteCursor_frame :
    terminal.noteCursor =
      { terminal with
        damage := terminal.noteCursor.damage
        drawnCursor := some terminal.cursor } := by
  unfold noteCursor
  split
  · next still => rw [← still]
  · cases terminal.drawnCursor <;> rfl

theorem takeDamage_frame :
    terminal.takeDamage.1 =
      { terminal with
        damage := terminal.takeDamage.1.damage
        drawnCursor := some terminal.cursor } := by
  simp only [takeDamage]
  rw [noteCursor_frame]

theorem markBlink_frame :
    terminal.markBlink = { terminal with damage := terminal.markBlink.damage } := by
  have marked : ∀ (marks : List Position) (current : Terminal),
      marks.foldl (fun each mark => each.markDamage mark.y mark.x (mark.x + 1)) current =
        { current with
          damage :=
            (marks.foldl
              (fun each mark => each.markDamage mark.y mark.x (mark.x + 1)) current).damage } := by
    intro marks
    induction marks with
    | nil => exact fun _ => rfl
    | cons mark rest inductionHypothesis =>
        intro current
        rw [List.foldl_cons, inductionHypothesis]
        rfl
  rw [markBlink, marked]
  rfl

end VideoTerminal.Terminal
