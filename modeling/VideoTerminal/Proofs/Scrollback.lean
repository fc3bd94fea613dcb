import VideoTerminal.Proofs.Frame
import VideoTerminal.Proofs.History

/-!
Scrollback over runs. The terminals at which a row leaves the top of the main
screen are told apart from all the others that a run goes through; the rows
that they lose are what the history gains, in that order, and it gives up
nothing but its oldest rows.
-/

namespace VideoTerminal

namespace Terminal

/-! ## Where rows leave the screen -/

/-- The cells of the first row of the screen. -/
def topCells (terminal : Terminal) : List Cell :=
  (terminal.buffer.screenRow 0).cells

/-- The terminals at which the whole main screen is scrolled up by a row, when
that is done `count` times. -/
def advances (terminal : Terminal) (fill : Cell) : Nat → List Terminal
  | 0 => []
  | count + 1 => terminal :: (terminal.advance fill 1).advances fill count

@[simp]
theorem length_advances (terminal : Terminal) (fill : Cell) (count : Nat) :
    (terminal.advances fill count).length = count := by
  induction count generalizing terminal with
  | zero => rfl
  | succ count inductionHypothesis =>
      rw [advances, List.length_cons, inductionHypothesis]

/-- The terminals at which a scroll brings a row to the history. -/
def scrollAdvances (terminal : Terminal) (top bottom : Nat) (amount : Int) : List Terminal :=
  if amount = 0 ∨ top > bottom ∨ bottom ≥ terminal.lines then []
  else
    let height : Int := (bottom - top + 1 : Nat)
    let amount := max (-height) (min amount height)
    let whole := !terminal.onAlternate && top == 0 && bottom == terminal.lines - 1
    if whole ∧ amount > 0 then terminal.advances terminal.fill amount.toNat else []

def indexAdvances (terminal : Terminal) : List Terminal :=
  let margins := terminal.margins
  if terminal.cursor.y = margins.bottom then terminal.scrollAdvances margins.top margins.bottom 1
  else []

def reverseIndexAdvances (terminal : Terminal) : List Terminal :=
  let margins := terminal.margins
  if terminal.cursor.y = margins.top then terminal.scrollAdvances margins.top margins.bottom (-1)
  else []

def shiftLinesAdvances (terminal : Terminal) (amount : Int) : List Terminal :=
  if terminal.insideMargins then
    terminal.scrollAdvances terminal.cursor.y terminal.margins.bottom amount
  else []

/-- The terminal that a line feed moves down. -/
def lineCompleted (terminal : Terminal) : Terminal :=
  let completed := terminal.completeLine
  let x := if completed.modes.newLine then 0 else completed.cursorColumn
  { completed with cursor := { completed.cursor with x } }

theorem WellFormed.lineCompleted
    {lines columns limit : Nat} {terminal : Terminal}
    (wellFormed : terminal.WellFormed lines columns limit) :
    terminal.lineCompleted.WellFormed lines columns limit := by
  have ended := wellFormed.completeLine
  refine ended.withCursor ?_ ended.cursor_row
  split
  · exact Nat.zero_le columns
  · exact Nat.le_of_lt ended.cursorColumn_lt

def performAdvances (terminal : Terminal) : ControlFunction → List Terminal
  | .lineFeed => terminal.lineCompleted.indexAdvances
  | .index => terminal.indexAdvances
  | .nextLine => terminal.carriageReturn.indexAdvances
  | .reverseIndex => terminal.reverseIndexAdvances
  | .insertLines count => terminal.shiftLinesAdvances (-(terminal.clampLines count : Int))
  | .deleteLines count => terminal.shiftLinesAdvances (terminal.clampLines count)
  | .scrollUp count =>
      terminal.scrollAdvances terminal.margins.top terminal.margins.bottom
        (terminal.clampLines count)
  | .scrollDown count =>
      terminal.scrollAdvances terminal.margins.top terminal.margins.bottom
        (-(terminal.clampLines count : Int))
  | _ => []

def wrapAdvances (terminal : Terminal) : List Terminal :=
  if terminal.cursor.x < terminal.columns then []
  else if terminal.modes.autoWrap then
    indexAdvances { terminal with cursor := { terminal.cursor with x := 0 } }
  else []

def printAdvances (terminal : Terminal) : List Char → List Terminal
  | [] => []
  | char :: rest => terminal.wrapAdvances ++ (terminal.print char).printAdvances rest

def serveAdvances (terminal : Terminal) : Request → List Terminal
  | .perform function => terminal.performAdvances function
  | .print text => terminal.printAdvances text
  | .scroll top bottom amount => terminal.scrollAdvances top bottom amount
  | _ => []

/-- The terminals at which a row leaves the top of the main screen for the
history, while some requests are served. -/
def advancesIn (terminal : Terminal) : List Request → List Terminal
  | [] => []
  | request :: rest => terminal.serveAdvances request ++ (terminal.serve request).advancesIn rest

/-- Whether a request leaves the rows of the history where they are. A new
size cuts them anew, a reset and the erasure of the history forget them, and
the count of the lost rows begins again when it is taken. -/
def Request.leavesHistory : Request → Bool
  | .resize _ _ | .takeEvicted | .perform .reset | .perform (.eraseInDisplay 3) => false
  | _ => true

theorem Request.isResize_of_leavesHistory
    {request : Request}
    (leaves : request.leavesHistory = true) :
    request.isResize = false := by
  cases request with
  | resize lines columns => cases leaves
  | _ => rfl

/-- The history of the second terminal is that of the first with the rows after
it that left the main screen at the `risen` terminals, without the oldest rows:
as many as the second counts as lost and the first does not. Rows are lost only
once the ring is full. -/
structure Extends (risen : List Terminal) (first second : Terminal) : Prop where
  lines_eq : second.buffer.lines = first.buffer.lines
  limit_eq : second.buffer.historyLimit = first.buffer.historyLimit
  size_le : first.buffer.ring.size ≤ second.buffer.ring.size
  evicted_le : first.evicted ≤ second.evicted
  lost_le :
    second.evicted - first.evicted ≤ first.buffer.historyCells.length + risen.length
  history_eq :
    second.buffer.historyCells =
      (first.buffer.historyCells ++ risen.map topCells).drop (second.evicted - first.evicted)
  full_of_lost : first.evicted < second.evicted →
    second.buffer.capacity ≤ second.buffer.ring.size
  risen_main : ∀ moment ∈ risen, moment.onAlternate = false

namespace Extends

variable {first second third terminal : Terminal} {earlier later : List Terminal}
variable {lines columns limit : Nat}

theorem of_sameHistory
    (same : first.buffer.SameHistory second.buffer)
    (evictedEq : second.evicted = first.evicted) :
    first.Extends [] second where
  lines_eq := same.lines_eq
  limit_eq := same.limit_eq
  size_le := Nat.le_of_eq same.size_eq.symm
  evicted_le := Nat.le_of_eq evictedEq.symm
  lost_le := by omega
  history_eq := by simp [same.history_eq, evictedEq]
  full_of_lost := by omega
  risen_main := fun _ member => nomatch member

theorem of_eq
    (bufferEq : second.buffer = first.buffer)
    (evictedEq : second.evicted = first.evicted) :
    first.Extends [] second :=
  of_sameHistory (bufferEq ▸ ScreenBuffer.SameHistory.refl _) evictedEq

theorem refl (terminal : Terminal) : terminal.Extends [] terminal :=
  of_eq rfl rfl

theorem trans
    (before : first.Extends earlier second)
    (after : second.Extends later third) :
    first.Extends (earlier ++ later) third := by
  have beforeEvicted := before.evicted_le
  have afterEvicted := after.evicted_le
  have beforeLost := before.lost_le
  have afterLost := after.lost_le
  have lostEq :
      third.evicted - first.evicted =
        (second.evicted - first.evicted) + (third.evicted - second.evicted) := by
    omega
  have capacityEq : third.buffer.capacity = second.buffer.capacity := by
    rw [ScreenBuffer.capacity, ScreenBuffer.capacity, after.lines_eq, after.limit_eq]
  have lengthEq := congrArg List.length before.history_eq
  rw [List.length_drop, List.length_append, List.length_map] at lengthEq
  refine
    { lines_eq := after.lines_eq.trans before.lines_eq
      limit_eq := after.limit_eq.trans before.limit_eq
      size_le := Nat.le_trans before.size_le after.size_le
      evicted_le := Nat.le_trans beforeEvicted afterEvicted
      lost_le := ?_
      history_eq := ?_
      full_of_lost := ?_
      risen_main := ?_ }
  · rw [List.length_append]
    omega
  · -- The rows lost first were there already, so that they may be dropped before the later
    -- ones come.
    have within :
        second.evicted - first.evicted ≤
          (first.buffer.historyCells ++ earlier.map topCells).length := by
      rw [List.length_append, List.length_map]
      exact beforeLost
    rw [after.history_eq, before.history_eq, lostEq, List.map_append, ← List.append_assoc,
      ← List.drop_drop, List.drop_append_of_le_length within]
  · intro lost
    by_cases sooner : first.evicted < second.evicted
    · rw [capacityEq]
      exact Nat.le_trans (before.full_of_lost sooner) after.size_le
    · exact after.full_of_lost (by omega)
  · intro moment member
    rcases List.mem_append.mp member with sooner | later
    · exact before.risen_main moment sooner
    · exact after.risen_main moment later

theorem keeping
    (before : first.Extends earlier second)
    (same : second.buffer.SameHistory third.buffer)
    (evictedEq : third.evicted = second.evicted) :
    first.Extends earlier third := by
  have both := before.trans (of_sameHistory same evictedEq)
  rwa [List.append_nil] at both

/-- A loop over steps that bring nothing to the history brings nothing to
it. -/
theorem foldl
    {item : Type} {items : List item} {step : Terminal → item → Terminal}
    (wellFormed : terminal.WellFormed lines columns limit)
    (shapes : ∀ (current : Terminal) (each : item), current.WellFormed lines columns limit →
      (step current each).WellFormed lines columns limit)
    (stays : ∀ (current : Terminal) (each : item), each ∈ items →
      current.WellFormed lines columns limit → current.Extends [] (step current each)) :
    terminal.Extends [] (items.foldl step terminal) := by
  refine (List.foldlRecOn items step
    (motive := fun current =>
      current.WellFormed lines columns limit ∧ terminal.Extends [] current)
    ⟨wellFormed, refl terminal⟩ ?_).2
  intro current kept each member
  exact ⟨shapes current each kept.1, kept.2.trans (stays current each member kept.1)⟩

theorem modifyRow
    (wellFormed : terminal.WellFormed lines columns limit)
    {y : Nat}
    (inside : y < lines)
    (change : Row → Row) :
    terminal.Extends [] (terminal.modifyRow y change) :=
  of_sameHistory (.modifyScreen wellFormed.shaped inside change) rfl

theorem modifyBlink (terminal : Terminal) (change : BlinkMarks → BlinkMarks) :
    terminal.Extends [] (terminal.modifyBlink change) := by
  rw [modifyBlink_frame]
  exact of_eq rfl rfl

theorem marking (before : first.Extends earlier second) (y start stop : Nat) :
    first.Extends earlier (second.markDamage y start stop) :=
  { before with }

/-! ## Scrolling -/

theorem advance_one
    (wellFormed : terminal.WellFormed lines columns limit)
    (main : terminal.onAlternate = false)
    (fill : Cell) :
    terminal.Extends [terminal] (terminal.advance fill 1) := by
  have sizeAfter := terminal.buffer.size_advance fill
  have history := ScreenBuffer.historyCells_advance wellFormed.shaped main fill
  have frame := terminal.buffer.advance_frame fill
  have linesEq : (terminal.buffer.advance fill).1.lines = terminal.buffer.lines := by rw [frame]
  have limitEq :
      (terminal.buffer.advance fill).1.historyLimit = terminal.buffer.historyLimit := by
    rw [frame]
  have capacityEq : (terminal.buffer.advance fill).1.capacity = terminal.buffer.capacity := by
    rw [ScreenBuffer.capacity, ScreenBuffer.capacity, linesEq, limitEq]
  have risenMain : ∀ moment ∈ [terminal], moment.onAlternate = false := by
    intro moment member
    rwa [List.mem_singleton.mp member]
  have bufferEq : (terminal.advance fill 1).buffer = (terminal.buffer.advance fill).1 := rfl
  have evictedEq :
      (terminal.advance fill 1).evicted =
        if (terminal.buffer.advance fill).2 then terminal.evicted + 1 else terminal.evicted := rfl
  by_cases lost : (terminal.buffer.advance fill).2 = true
  · rw [if_pos lost] at sizeAfter history evictedEq
    refine ⟨linesEq, limitEq, ?_, ?_, ?_, ?_, ?_, risenMain⟩
    · rw [bufferEq, sizeAfter.2]
    · omega
    · rw [evictedEq, List.length_singleton]
      omega
    · rw [bufferEq, history, evictedEq, Nat.add_sub_cancel_left]
      rfl
    · intro _
      rw [bufferEq, capacityEq, sizeAfter.2]
      exact sizeAfter.1
  · rw [if_neg lost] at sizeAfter history evictedEq
    refine ⟨linesEq, limitEq, ?_, ?_, ?_, ?_, ?_, risenMain⟩
    · rw [bufferEq, sizeAfter.2]
      exact Nat.le_succ _
    · omega
    · omega
    · rw [bufferEq, history, evictedEq, Nat.sub_self]
      rfl
    · omega

theorem advance
    (wellFormed : terminal.WellFormed lines columns limit)
    (main : terminal.onAlternate = false)
    (fill : Cell) (count : Nat) :
    terminal.Extends (terminal.advances fill count)
      (terminal.advance fill count) := by
  induction count generalizing terminal with
  | zero => exact refl terminal
  | succ count inductionHypothesis =>
      have stillMain : (terminal.advance fill 1).onAlternate = false := by
        change (terminal.buffer.advance fill).1.onAlternate = false
        rw [ScreenBuffer.advance_frame]
        exact main
      exact (advance_one wellFormed main fill).trans
        (inductionHypothesis (wellFormed.advance fill 1) stillMain)

theorem scroll
    (wellFormed : terminal.WellFormed lines columns limit)
    (top bottom : Nat) (amount : Int) :
    terminal.Extends (terminal.scrollAdvances top bottom amount)
      (terminal.scroll top bottom amount) := by
  unfold Terminal.scroll scrollAdvances
  by_cases nothing : amount = 0 ∨ top > bottom ∨ bottom ≥ terminal.lines
  · rw [if_pos nothing, if_pos nothing]
    exact refl terminal
  · rw [if_neg nothing, if_neg nothing]
    extract_lets height clamped whole fill moved marked
    have movedExtends :
        terminal.Extends
          (if whole ∧ clamped > 0 then terminal.advances fill clamped.toNat else []) moved := by
      dsimp only [moved]
      by_cases rises : whole ∧ clamped > 0
      · rw [if_pos rises, if_pos rises]
        have main : terminal.onAlternate = false := by
          have parts := rises.1
          simp only [whole, Bool.and_eq_true, Bool.not_eq_true'] at parts
          exact parts.1.1
        exact advance wellFormed main fill clamped.toNat
      · rw [if_neg rises, if_neg rises]
        exact of_sameHistory (.scrollRows wellFormed.shaped top bottom clamped fill) rfl
    have markedExtends := movedExtends.trans
      (modifyBlink moved fun marks => marks.shiftRows top bottom clamped)
    rw [List.append_nil] at markedExtends
    exact { markedExtends with }

theorem index (wellFormed : terminal.WellFormed lines columns limit) :
    terminal.Extends terminal.indexAdvances terminal.index.1 := by
  unfold Terminal.index indexAdvances
  dsimp only
  by_cases atMargin : terminal.cursor.y = terminal.margins.bottom
  · rw [if_pos atMargin, if_pos atMargin]
    exact scroll wellFormed _ _ _
  · rw [if_neg atMargin, if_neg atMargin]
    by_cases above : terminal.cursor.y + 1 < terminal.lines
    · rw [if_pos above]
      exact of_eq rfl rfl
    · rw [if_neg above]
      exact refl terminal

theorem reverseIndex (wellFormed : terminal.WellFormed lines columns limit) :
    terminal.Extends terminal.reverseIndexAdvances terminal.reverseIndex := by
  unfold Terminal.reverseIndex reverseIndexAdvances
  dsimp only
  by_cases atMargin : terminal.cursor.y = terminal.margins.top
  · rw [if_pos atMargin, if_pos atMargin]
    exact scroll wellFormed _ _ _
  · rw [if_neg atMargin, if_neg atMargin]
    exact of_eq rfl rfl

theorem shiftLines (wellFormed : terminal.WellFormed lines columns limit) (amount : Int) :
    terminal.Extends (terminal.shiftLinesAdvances amount)
      (terminal.shiftLines amount) := by
  unfold Terminal.shiftLines shiftLinesAdvances
  by_cases between : terminal.insideMargins = true
  · rw [if_pos between, if_pos between]
    exact { scroll wellFormed terminal.cursor.y terminal.margins.bottom amount with }
  · rw [if_neg between, if_neg between]
    exact refl terminal

/-! ## Lines -/

theorem completeLine (terminal : Terminal) : terminal.Extends [] terminal.completeLine :=
  of_sameHistory (.of_sameCells (.completeLine _ _ _)) rfl

theorem beginNextLine (wellFormed : terminal.WellFormed lines columns limit) :
    terminal.Extends terminal.indexAdvances terminal.beginNextLine := by
  have moved := index wellFormed
  unfold Terminal.beginNextLine
  dsimp only
  by_cases changed : terminal.index.2 = true
  · rw [if_pos changed]
    exact moved.keeping (.of_sameCells (.beginLine _ _)) rfl
  · rw [if_neg changed]
    exact moved

theorem lineFeed (wellFormed : terminal.WellFormed lines columns limit) :
    terminal.Extends terminal.lineCompleted.indexAdvances terminal.lineFeed := by
  have ended : terminal.Extends [] terminal.lineCompleted := { completeLine terminal with }
  exact ended.trans (beginNextLine wellFormed.lineCompleted)

theorem nextLine (wellFormed : terminal.WellFormed lines columns limit) :
    terminal.Extends terminal.carriageReturn.indexAdvances terminal.nextLine := by
  have ended : terminal.Extends [] terminal.carriageReturn := { completeLine terminal with }
  exact ended.trans (beginNextLine wellFormed.carriageReturn)

/-! ## Erasing and editing -/

theorem clearRow
    (wellFormed : terminal.WellFormed lines columns limit)
    {y : Nat}
    (inside : y < lines) :
    terminal.Extends [] (terminal.clearRow y) :=
  ((modifyRow wellFormed inside _).trans (modifyBlink _ _)).marking _ _ _

theorem clearRows
    (wellFormed : terminal.WellFormed lines columns limit)
    {top count : Nat}
    (inside : top + count ≤ lines) :
    terminal.Extends [] (terminal.clearRows top count) := by
  apply foldl wellFormed
  · exact fun _ _ current => current.clearRow _
  · intro current k member currentWellFormed
    rw [List.mem_range] at member
    exact clearRow currentWellFormed (by omega)

theorem eraseSpan
    (wellFormed : terminal.WellFormed lines columns limit) (start stop : Nat) :
    terminal.Extends [] (terminal.eraseSpan terminal.cursor.y start stop) :=
  ((modifyRow wellFormed wellFormed.cursor_row _).trans (modifyBlink _ _)).marking _ _ _

theorem eraseInLine
    (wellFormed : terminal.WellFormed lines columns limit) (part : Nat) :
    terminal.Extends [] (terminal.eraseInLine part) := by
  unfold Terminal.eraseInLine
  dsimp only
  split
  · exact eraseSpan wellFormed _ _
  · exact eraseSpan wellFormed _ _
  · exact eraseSpan wellFormed _ _
  · exact refl terminal

theorem eraseInDisplay
    (wellFormed : terminal.WellFormed lines columns limit)
    {part : Nat}
    (notHistory : part ≠ 3) :
    terminal.Extends [] (terminal.eraseInDisplay part) := by
  have row := wellFormed.cursor_row
  obtain rfl := wellFormed.lines_eq
  unfold Terminal.eraseInDisplay
  dsimp only
  split
  · exact (eraseInLine wellFormed 0).trans (clearRows (wellFormed.eraseInLine 0) (by omega))
  · exact (clearRows wellFormed (by omega)).trans (eraseInLine (wellFormed.clearRows _ _) 1)
  · exact clearRows wellFormed (by omega)
  · exact absurd rfl notHistory
  · exact refl terminal

theorem insertChars
    (wellFormed : terminal.WellFormed lines columns limit) (count : Nat) :
    terminal.Extends [] (terminal.insertChars count) :=
  ((modifyRow wellFormed wellFormed.cursor_row _).trans (modifyBlink _ _)).marking _ _ _

theorem deleteChars
    (wellFormed : terminal.WellFormed lines columns limit) (count : Nat) :
    terminal.Extends [] (terminal.deleteChars count) :=
  ((modifyRow wellFormed wellFormed.cursor_row _).trans (modifyBlink _ _)).marking _ _ _

/-! ## Printing -/

theorem wrap (wellFormed : terminal.WellFormed lines columns limit) :
    terminal.Extends terminal.wrapAdvances terminal.wrap := by
  unfold Terminal.wrap wrapAdvances
  by_cases inside : terminal.cursor.x < terminal.columns
  · rw [if_pos inside, if_pos inside]
    exact refl terminal
  · rw [if_neg inside, if_neg inside]
    by_cases autoWrap : terminal.modes.autoWrap = true
    · rw [if_pos autoWrap, if_pos autoWrap]
      have returned := wellFormed.withCursor (Nat.zero_le _) wellFormed.cursor_row
      have moved := index returned
      have fromHere : terminal.Extends
          (indexAdvances { terminal with cursor := { terminal.cursor with x := 0 } })
          (Terminal.index { terminal with cursor := { terminal.cursor with x := 0 } }).1 :=
        { moved with }
      dsimp only
      split
      · exact fromHere.keeping (.of_sameCells (.continueLine _ _)) rfl
      · exact fromHere
    · rw [if_neg autoWrap, if_neg autoWrap]
      exact of_eq rfl rfl

theorem putCell
    (wellFormed : terminal.WellFormed lines columns limit) (cell : Cell) :
    terminal.Extends [] (terminal.putCell cell) := by
  have row := wellFormed.cursor_row
  unfold Terminal.putCell
  dsimp only
  split
  · have inserted := (modifyRow wellFormed row fun each => each.insert terminal.cursor.x cell).trans
      (modifyBlink _ fun marks =>
        marks.shiftColumns terminal.cursor.y terminal.cursor.x terminal.columns 1)
    exact (inserted.marking _ _ _).trans (modifyBlink _ _)
  · have put := modifyRow wellFormed row fun each => each.put terminal.cursor.x cell
    exact (put.marking _ _ _).trans (modifyBlink _ _)

theorem print (wellFormed : terminal.WellFormed lines columns limit) (char : Char) :
    terminal.Extends terminal.wrapAdvances (terminal.print char) := by
  obtain ⟨wrapped, column⟩ := wellFormed.wrap
  have written := (wrap wellFormed).trans (putCell wrapped ⟨char, terminal.wrap.pen⟩)
  rw [List.append_nil] at written
  exact { written with }

theorem printAll (wellFormed : terminal.WellFormed lines columns limit) (text : List Char) :
    terminal.Extends (terminal.printAdvances text) (terminal.printAll text) := by
  induction text generalizing terminal with
  | nil => exact refl terminal
  | cons char rest inductionHypothesis =>
      exact (print wellFormed char).trans (inductionHypothesis (wellFormed.print char))

/-! ## Switches -/

theorem showScreen (terminal : Terminal) (alternate clear : Bool) :
    terminal.Extends [] (terminal.showScreen alternate clear) := by
  unfold Terminal.showScreen
  split
  · exact refl terminal
  · split
    · exact of_sameHistory ⟨rfl, rfl, rfl, rfl⟩ rfl
    · exact of_sameHistory ⟨rfl, rfl, rfl, rfl⟩ rfl

theorem setMode (terminal : Terminal) (mode : Nat) (on : Bool) :
    terminal.Extends [] (terminal.setMode mode on) := by
  unfold Terminal.setMode
  split <;> exact of_eq rfl rfl

theorem setPrivateMode (terminal : Terminal) (mode : Nat) (on : Bool) :
    terminal.Extends [] (terminal.setPrivateMode mode on) := by
  have saved : terminal.Extends [] terminal.saveMainPosition := of_eq rfl rfl
  refine terminal.setPrivateMode_cases on mode ?modes ?visible ?screen ?save ?restore ?enter ?leave
  case modes => exact fun _ => of_eq rfl rfl
  case visible => exact of_eq rfl rfl
  case screen => exact showScreen terminal on
  case save => exact saved
  case restore => exact of_eq rfl rfl
  case enter => exact saved.trans (showScreen _ _ _)
  case leave => exact { showScreen terminal false false with }

theorem alignmentTest (wellFormed : terminal.WellFormed lines columns limit) :
    terminal.Extends [] terminal.alignmentTest := by
  have filled : terminal.Extends []
      { terminal with
        buffer := terminal.buffer.clearScreenRows 0 terminal.lines ⟨'E', {}⟩ } :=
    of_sameHistory
      (.clearScreenRows wellFormed.shaped (by rw [wellFormed.lines_eq, Nat.zero_add]) _) rfl
  exact { filled.trans (modifyBlink _ _) with }

theorem setTitle (terminal : Terminal) (title : String) :
    terminal.Extends [] (terminal.setTitle title) := by
  unfold Terminal.setTitle
  split <;> exact of_eq rfl rfl

theorem backspace (terminal : Terminal) : terminal.Extends [] terminal.backspace := by
  unfold Terminal.backspace
  split
  · split <;> exact of_eq rfl rfl
  · exact of_eq rfl rfl

theorem setMargins (terminal : Terminal) (top bottom : Nat) :
    terminal.Extends [] (terminal.setMargins top bottom) := by
  unfold Terminal.setMargins
  dsimp only
  split <;> exact of_eq rfl rfl

theorem restoreState (terminal : Terminal) : terminal.Extends [] terminal.restoreState := by
  unfold Terminal.restoreState
  split <;> exact of_eq rfl rfl

/-! ## Requests -/

theorem perform
    (wellFormed : terminal.WellFormed lines columns limit)
    {function : ControlFunction}
    (leaves : (Request.perform function).leavesHistory = true) :
    terminal.Extends (terminal.performAdvances function)
      (terminal.perform function) := by
  cases function with
  | lineFeed => exact lineFeed wellFormed
  | index => exact index wellFormed
  | nextLine => exact nextLine wellFormed
  | reverseIndex => exact reverseIndex wellFormed
  | insertLines count => exact shiftLines wellFormed _
  | deleteLines count => exact shiftLines wellFormed _
  | scrollUp count => exact scroll wellFormed _ _ _
  | scrollDown count => exact scroll wellFormed _ _ _
  | backspace => exact backspace terminal
  | carriageReturn => exact { completeLine terminal with }
  | eraseInDisplay part =>
      refine eraseInDisplay wellFormed ?_
      rintro rfl
      exact Bool.false_ne_true leaves
  | eraseInLine part => exact eraseInLine wellFormed part
  | insertChars count => exact insertChars wellFormed count
  | deleteChars count => exact deleteChars wellFormed count
  | eraseChars count => exact eraseSpan wellFormed _ _
  | setMargins top bottom => exact setMargins terminal _ _
  | restoreState => exact restoreState terminal
  | setModes modes on =>
      exact foldl wellFormed (fun _ _ current => current.setMode _ _)
        fun current _ _ _ => setMode current _ _
  | setPrivateModes modes on =>
      exact foldl wellFormed (fun _ _ current => current.setPrivateMode _ _)
        fun current _ _ _ => setPrivateMode current _ _
  | reset => exact absurd leaves Bool.false_ne_true
  | alignmentTest => exact alignmentTest wellFormed
  | setTitle title => exact setTitle terminal _
  | nothing | horizontalTab | moveUp | moveDown | moveRight | moveLeft | moveUpLines
  | moveDownLines | moveTo | moveToColumn | moveToRow | moveRowsDown | selectRendition
  | savePosition | restorePosition | saveState | reportDevice | reportSecondary | reportStatus
  | reportWindow | reportPalette | reportDynamic => exact of_eq rfl rfl

theorem takeDamage (terminal : Terminal) : terminal.Extends [] terminal.takeDamage.1 := by
  rw [takeDamage_frame]
  exact of_eq rfl rfl

theorem markBlink (terminal : Terminal) : terminal.Extends [] terminal.markBlink := by
  rw [markBlink_frame]
  exact of_eq rfl rfl

theorem serve
    (wellFormed : terminal.WellFormed lines columns limit)
    {request : Request}
    (leaves : request.leavesHistory = true) :
    terminal.Extends (terminal.serveAdvances request) (terminal.serve request) := by
  cases request with
  | perform function => exact perform wellFormed leaves
  | print text => exact printAll wellFormed text
  | scroll top bottom amount => exact scroll wellFormed top bottom amount
  | resize newLines newColumns => exact absurd leaves Bool.false_ne_true
  | markBlink => exact markBlink terminal
  | takeEvicted => exact absurd leaves Bool.false_ne_true
  | takeDamage => exact takeDamage terminal
  | setPen | configure | takeTitle | takeReset => exact of_eq rfl rfl

/-- What one request does to the history carries over to any number of
them. -/
theorem foldl_serve
    (wellFormed : terminal.WellFormed lines columns limit)
    {requests : List Request}
    (leave : ∀ request ∈ requests, request.leavesHistory = true) :
    terminal.Extends (terminal.advancesIn requests)
      (requests.foldl Terminal.serve terminal) := by
  induction requests generalizing terminal lines columns with
  | nil => exact refl terminal
  | cons request rest inductionHypothesis =>
      have served := serve wellFormed (leave request List.mem_cons_self)
      obtain ⟨newLines, newColumns, stillWellFormed⟩ := wellFormed.serve request
      exact served.trans
        (inductionHypothesis stillWellFormed fun each member =>
          leave each (List.mem_cons_of_mem request member))

end Extends

end Terminal

namespace Console

/-- While a run leaves the history where it is, the history is only added to:
each new row was at the top of the main screen at the moment at which it was
scrolled off, and the rows lost are its oldest ones, which are given up only
for want of room. -/
theorem historyCells_run
    {limit : Nat} {console : Console}
    (reachable : console.Reachable limit)
    {inputs : List Input}
    (leave : ∀ request ∈ console.runRequests inputs, request.leavesHistory = true) :
    let before := console.terminal
    let after := (console.run inputs).terminal
    let moments := before.advancesIn (console.runRequests inputs)
    let risen := moments.map Terminal.topCells
    let lost := after.evicted - before.evicted
    (∀ moment ∈ moments, moment.onAlternate = false) ∧
      before.evicted ≤ after.evicted ∧
      lost ≤ before.buffer.historyCells.length + risen.length ∧
      after.buffer.historyCells = (before.buffer.historyCells ++ risen).drop lost ∧
      before.buffer.historyCells.drop lost <+: after.buffer.historyCells ∧
      (0 < lost → after.buffer.ring.size = limit + after.lines) := by
  intro before after moments risen lost
  have wellFormed := reachable.wellFormed
  have served : after = (console.runRequests inputs).foldl Terminal.serve before :=
    terminal_run console inputs
  have extended : before.Extends moments after := by
    rw [served]
    exact Terminal.Extends.foldl_serve wellFormed leave
  obtain ⟨newLines, newColumns, stillWellFormed⟩ := run_wellFormed wellFormed inputs
  have stillShaped := stillWellFormed.shaped
  refine ⟨extended.risen_main, extended.evicted_le, ?_, extended.history_eq, ?_, ?_⟩
  · rw [List.length_map]
    exact extended.lost_le
  · rw [extended.history_eq, List.drop_append]
    exact List.prefix_append _ _
  · intro some
    have full := extended.full_of_lost (by omega)
    have room : after.buffer.ring.size ≤ limit + newLines := stillShaped.size_le_capacity
    rw [ScreenBuffer.capacity, stillShaped.limit_eq, stillShaped.lines_eq] at full
    rw [stillWellFormed.lines_eq]
    omega

end Console

end VideoTerminal
