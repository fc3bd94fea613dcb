import VideoTerminal.Proofs.EmbeddedControls
import VideoTerminal.Proofs.Holding

/-!
A reset forgets everything. Text changes no settings, so that a terminal that
is reset begins anew as a terminal just made with them; whatever is read from
then on is read as by that one.
-/

namespace VideoTerminal

namespace Terminal

/-! ## What text leaves alone -/

/-- The second terminal has the settings of the first one. If the first one is
to be drawn as a whole, no damage was added either, and if it has a reset to
tell of, so has the second. -/
structure KeepsSettings (first second : Terminal) : Prop where
  palette_eq : second.palette = first.palette
  blinkIsBold_eq : second.blinkIsBold = first.blinkIsBold
  cursorAlwaysBlinks_eq : second.cursorAlwaysBlinks = first.cursorAlwaysBlinks
  cellSize_eq : second.cellSize = first.cellSize
  damage_eq : first.damage.full = true → second.damage = first.damage
  wasReset_of : first.wasReset = true → second.wasReset = true

namespace KeepsSettings

variable {first second third : Terminal}

theorem refl (terminal : Terminal) : terminal.KeepsSettings terminal :=
  ⟨rfl, rfl, rfl, rfl, fun _ => rfl, id⟩

theorem trans
    (before : first.KeepsSettings second)
    (after : second.KeepsSettings third) :
    first.KeepsSettings third where
  palette_eq := after.palette_eq.trans before.palette_eq
  blinkIsBold_eq := after.blinkIsBold_eq.trans before.blinkIsBold_eq
  cursorAlwaysBlinks_eq := after.cursorAlwaysBlinks_eq.trans before.cursorAlwaysBlinks_eq
  cellSize_eq := after.cellSize_eq.trans before.cellSize_eq
  damage_eq := by
    intro full
    have same := before.damage_eq full
    rw [after.damage_eq (by rw [same]; exact full), same]
  wasReset_of reset := after.wasReset_of (before.wasReset_of reset)

/-- The same holds of a terminal that differs elsewhere. -/
theorem of_eq
    (kept : first.KeepsSettings second)
    (palette_eq : third.palette = second.palette)
    (blinkIsBold_eq : third.blinkIsBold = second.blinkIsBold)
    (cursorAlwaysBlinks_eq : third.cursorAlwaysBlinks = second.cursorAlwaysBlinks)
    (cellSize_eq : third.cellSize = second.cellSize)
    (damage_eq : third.damage = second.damage)
    (wasReset_eq : third.wasReset = second.wasReset) :
    first.KeepsSettings third :=
  kept.trans
    ⟨palette_eq, blinkIsBold_eq, cursorAlwaysBlinks_eq, cellSize_eq, fun _ => damage_eq,
      wasReset_eq.trans⟩

theorem foldl
    {Item : Type} {change : Terminal → Item → Terminal}
    (terminal : Terminal)
    (items : List Item)
    (keeps : ∀ (current : Terminal), ∀ item ∈ items, current.KeepsSettings (change current item)) :
    terminal.KeepsSettings (items.foldl change terminal) :=
  List.foldlRecOn items change (motive := terminal.KeepsSettings) (refl terminal)
    fun _ kept item member => kept.trans (keeps _ item member)

variable (terminal : Terminal)

theorem modifyBlink (change : BlinkMarks → BlinkMarks) :
    terminal.KeepsSettings (terminal.modifyBlink change) := by
  rw [modifyBlink_frame]
  exact ⟨rfl, rfl, rfl, rfl, fun _ => rfl, id⟩

theorem markDamage (y start stop : Nat) :
    terminal.KeepsSettings (terminal.markDamage y start stop) :=
  ⟨rfl, rfl, rfl, rfl, fun full => DamageLog.mark_of_full full _ _ _, id⟩

theorem markAll : terminal.KeepsSettings terminal.markAll :=
  ⟨rfl, rfl, rfl, rfl, DamageLog.markAll_of_full, id⟩

theorem scroll (top bottom : Nat) (amount : Int) :
    terminal.KeepsSettings (terminal.scroll top bottom amount) := by
  by_cases nothing : amount = 0 ∨ top > bottom ∨ bottom ≥ terminal.lines
  · unfold Terminal.scroll
    rw [if_pos nothing]
    exact refl terminal
  · obtain ⟨clamped, buffer, evicted, mainBlink, alternateBlink, result, _⟩ :=
      Tells.scroll_of_valid nothing
    rw [result]
    exact ⟨rfl, rfl, rfl, rfl, fun full => DamageLog.markRows_of_full full _ _ _, id⟩

theorem index : terminal.KeepsSettings terminal.index.1 := by
  unfold Terminal.index
  dsimp only
  split
  · exact scroll terminal _ _ _
  · split <;> exact (refl terminal).of_eq rfl rfl rfl rfl rfl rfl

theorem reverseIndex : terminal.KeepsSettings terminal.reverseIndex := by
  unfold Terminal.reverseIndex
  dsimp only
  split
  · exact scroll terminal _ _ _
  · exact (refl terminal).of_eq rfl rfl rfl rfl rfl rfl

theorem shiftLines (amount : Int) : terminal.KeepsSettings (terminal.shiftLines amount) := by
  unfold Terminal.shiftLines
  split
  · exact (scroll terminal _ _ _).of_eq rfl rfl rfl rfl rfl rfl
  · exact refl terminal

theorem beginNextLine : terminal.KeepsSettings terminal.beginNextLine := by
  unfold Terminal.beginNextLine
  dsimp only
  split
  · exact (index terminal).of_eq rfl rfl rfl rfl rfl rfl
  · exact index terminal

theorem lineFeed : terminal.KeepsSettings terminal.lineFeed := by
  have completed : terminal.KeepsSettings
      { terminal.completeLine with
        cursor :=
          { terminal.cursor with
            x := if terminal.modes.newLine then 0 else terminal.cursorColumn } } :=
    (refl terminal).of_eq rfl rfl rfl rfl rfl rfl
  exact completed.trans (beginNextLine _)

theorem nextLine : terminal.KeepsSettings terminal.nextLine := by
  have returned : terminal.KeepsSettings terminal.carriageReturn :=
    (refl terminal).of_eq rfl rfl rfl rfl rfl rfl
  exact returned.trans (beginNextLine _)

/-- Most edits of a row move its marks and add the damage of some columns. -/
theorem edit (y : Nat) (change : Row → Row) (marking : BlinkMarks → BlinkMarks) (start stop : Nat) :
    terminal.KeepsSettings
      (((terminal.modifyRow y change).modifyBlink marking).markDamage y start stop) := by
  have moved : terminal.KeepsSettings (terminal.modifyRow y change) :=
    (refl terminal).of_eq rfl rfl rfl rfl rfl rfl
  exact (moved.trans (modifyBlink _ marking)).trans (markDamage _ y start stop)

theorem clearRows (top count : Nat) : terminal.KeepsSettings (terminal.clearRows top count) :=
  foldl terminal _ fun current _ _ => edit current _ _ _ _ _

theorem eraseInLine (part : Nat) : terminal.KeepsSettings (terminal.eraseInLine part) := by
  unfold Terminal.eraseInLine
  dsimp only
  split
  · exact edit terminal _ _ _ _ _
  · exact edit terminal _ _ _ _ _
  · exact edit terminal _ _ _ _ _
  · exact refl terminal

theorem clearHistory : terminal.KeepsSettings terminal.clearHistory := by
  unfold Terminal.clearHistory
  split
  · exact refl terminal
  · exact (refl terminal).of_eq rfl rfl rfl rfl rfl rfl

theorem eraseInDisplay (part : Nat) : terminal.KeepsSettings (terminal.eraseInDisplay part) := by
  unfold Terminal.eraseInDisplay
  dsimp only
  split
  · exact (eraseInLine terminal 0).trans (clearRows _ _ _)
  · exact (clearRows terminal _ _).trans (eraseInLine _ 1)
  · exact clearRows terminal _ _
  · exact (clearRows terminal _ _).trans (clearHistory _)
  · exact refl terminal

theorem wrap : terminal.KeepsSettings terminal.wrap := by
  have returned : terminal.KeepsSettings
      { terminal with cursor := { terminal.cursor with x := 0 } } :=
    (refl terminal).of_eq rfl rfl rfl rfl rfl rfl
  unfold Terminal.wrap
  dsimp only
  split
  · exact refl terminal
  · split
    · split
      · exact (returned.trans (index _)).of_eq rfl rfl rfl rfl rfl rfl
      · exact returned.trans (index _)
    · exact (refl terminal).of_eq rfl rfl rfl rfl rfl rfl

theorem putCell (cell : Cell) : terminal.KeepsSettings (terminal.putCell cell) := by
  have moved : ∀ y change, terminal.KeepsSettings (terminal.modifyRow y change) :=
    fun y change => (refl terminal).of_eq rfl rfl rfl rfl rfl rfl
  unfold Terminal.putCell
  dsimp only
  split
  · exact (edit terminal _ _ _ _ _).trans (modifyBlink _ _)
  · exact ((moved _ _).trans (markDamage _ _ _ _)).trans (modifyBlink _ _)

theorem print (char : Char) : terminal.KeepsSettings (terminal.print char) :=
  ((wrap terminal).trans (putCell _ _)).of_eq rfl rfl rfl rfl rfl rfl

theorem printAll (text : List Char) : terminal.KeepsSettings (terminal.printAll text) :=
  foldl terminal text fun current char _ => print current char

theorem showScreen (alternate clear : Bool) :
    terminal.KeepsSettings (terminal.showScreen alternate clear) := by
  unfold Terminal.showScreen
  dsimp only
  split
  · exact refl terminal
  · refine trans ?_ (markAll _)
    split <;> exact (refl terminal).of_eq rfl rfl rfl rfl rfl rfl

theorem setMode (mode : Nat) (on : Bool) : terminal.KeepsSettings (terminal.setMode mode on) := by
  unfold Terminal.setMode
  split <;> exact (refl terminal).of_eq rfl rfl rfl rfl rfl rfl

theorem setPrivateMode (mode : Nat) (on : Bool) :
    terminal.KeepsSettings (terminal.setPrivateMode mode on) := by
  have saved : terminal.KeepsSettings terminal.saveMainPosition :=
    (refl terminal).of_eq rfl rfl rfl rfl rfl rfl
  have switched (modes : Modes) : terminal.KeepsSettings { terminal with modes } :=
    (refl terminal).of_eq rfl rfl rfl rfl rfl rfl
  refine terminal.setPrivateMode_cases on mode ?modes ?visible ?screen ?save ?restore ?enter ?leave
  case modes => exact switched
  case visible => exact (switched _).trans (markDamage _ _ _ _)
  case screen => exact showScreen terminal on
  case save => exact saved
  case restore => exact (refl terminal).of_eq rfl rfl rfl rfl rfl rfl
  case enter => exact saved.trans (showScreen _ _ _)
  case leave => exact (showScreen terminal _ _).of_eq rfl rfl rfl rfl rfl rfl

theorem alignmentTest : terminal.KeepsSettings terminal.alignmentTest := by
  have filled : terminal.KeepsSettings
      { terminal with buffer := terminal.buffer.clearScreenRows 0 terminal.lines ⟨'E', {}⟩ } :=
    (refl terminal).of_eq rfl rfl rfl rfl rfl rfl
  have unmarked := filled.trans (modifyBlink _ fun _ => {})
  unfold Terminal.alignmentTest
  refine trans ?_ (markAll _)
  exact unmarked.of_eq rfl rfl rfl rfl rfl rfl

theorem setTitle (title : String) : terminal.KeepsSettings (terminal.setTitle title) := by
  unfold Terminal.setTitle
  split <;> exact (refl terminal).of_eq rfl rfl rfl rfl rfl rfl

theorem backspace : terminal.KeepsSettings terminal.backspace := by
  unfold Terminal.backspace
  split
  · split <;> exact (refl terminal).of_eq rfl rfl rfl rfl rfl rfl
  · exact (refl terminal).of_eq rfl rfl rfl rfl rfl rfl

theorem setMargins (top bottom : Nat) :
    terminal.KeepsSettings (terminal.setMargins top bottom) := by
  unfold Terminal.setMargins
  dsimp only
  split <;> exact (refl terminal).of_eq rfl rfl rfl rfl rfl rfl

theorem restoreState : terminal.KeepsSettings terminal.restoreState := by
  unfold Terminal.restoreState
  split <;> exact (refl terminal).of_eq rfl rfl rfl rfl rfl rfl

theorem reset : terminal.KeepsSettings terminal.reset :=
  ⟨rfl, rfl, rfl, rfl, DamageLog.markAll_of_full, fun _ => rfl⟩

theorem perform (function : ControlFunction) :
    terminal.KeepsSettings (terminal.perform function) := by
  cases function with
  | backspace => exact backspace terminal
  | lineFeed => exact lineFeed terminal
  | index => exact index terminal
  | nextLine => exact nextLine terminal
  | reverseIndex => exact reverseIndex terminal
  | eraseInDisplay part => exact eraseInDisplay terminal part
  | eraseInLine part => exact eraseInLine terminal part
  | insertLines | deleteLines => exact shiftLines terminal _
  | insertChars | deleteChars | eraseChars => exact edit terminal _ _ _ _ _
  | scrollUp | scrollDown => exact scroll terminal _ _ _
  | setMargins top bottom => exact setMargins terminal _ _
  | restoreState => exact restoreState terminal
  | setModes modes on => exact foldl terminal modes fun current mode _ => setMode current mode on
  | setPrivateModes modes on =>
      exact foldl terminal modes fun current mode _ => setPrivateMode current mode on
  | reset => exact reset terminal
  | alignmentTest => exact alignmentTest terminal
  | setTitle title => exact setTitle terminal _
  | nothing | horizontalTab | carriageReturn | moveUp | moveDown | moveRight | moveLeft
  | moveUpLines | moveDownLines | moveTo | moveToColumn | moveToRow | moveRowsDown
  | selectRendition | savePosition | restorePosition | saveState | reportDevice
  | reportSecondary | reportStatus | reportWindow | reportPalette | reportDynamic =>
      exact (refl terminal).of_eq rfl rfl rfl rfl rfl rfl

theorem feed (console : Console) (text : List Char) :
    console.terminal.KeepsSettings (console.feed text).terminal := by
  have served := Console.terminal_receive console (.text text)
  change (console.feed text).terminal = _ at served
  rw [served]
  refine foldl console.terminal _ fun current request member => ?_
  rcases Console.mem_requests member with asked | ⟨printed, rfl⟩ | ⟨function, rfl⟩
  · cases asked
  · exact printAll current printed
  · exact perform current function

end KeepsSettings

end Terminal

namespace Console

end Console

end VideoTerminal
