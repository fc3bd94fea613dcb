import VideoTerminal.Proofs.Hosting
import VideoTerminal.Proofs.Isolation
import VideoTerminal.Proofs.Scrollback

/-!
A selection and the rows that it was made on. Rows enter the main screen at its
bottom and leave the ring at the other end: the oldest one for want of room,
which is counted, or all of the history when it is erased, which is not. The
selection follows the rows that are counted.
-/

namespace VideoTerminal

namespace Terminal

variable {first second third terminal : Terminal}
variable {lines columns limit entered forgotten : Nat}

/-! ## Rows lost -/

/-- The number of rows of the history that are erased with it. -/
def forgottenBy (terminal : Terminal) : Request → Nat
  | .perform (.eraseInDisplay 3) =>
      if terminal.onAlternate then 0 else terminal.buffer.ring.size - terminal.buffer.lines
  | _ => 0

def forgottenIn (terminal : Terminal) : List Request → Nat
  | [] => 0
  | request :: rest => terminal.forgottenBy request + (terminal.serve request).forgottenIn rest

theorem forgottenBy_of_leavesHistory
    {request : Request}
    (leaves : request.leavesHistory = true)
    (terminal : Terminal) :
    terminal.forgottenBy request = 0 := by
  unfold forgottenBy
  split
  · cases leaves
  · rfl

theorem Extends.size_eq
    {risen : List Terminal}
    (extended : first.Extends risen second)
    (enough : first.buffer.lines ≤ first.buffer.ring.size) :
    second.buffer.ring.size + (second.evicted - first.evicted) =
      first.buffer.ring.size + risen.length := by
  have count : ∀ buffer : ScreenBuffer,
      buffer.historyCells.length = buffer.ring.size - buffer.lines := by
    intro buffer
    rw [ScreenBuffer.historyCells, List.length_map, List.length_take, Ring.length_toList]
    omega
  have grown := extended.size_le
  have lost := extended.lost_le
  have history := congrArg List.length extended.history_eq
  rw [List.length_drop, List.length_append, List.length_map, count, count,
    extended.lines_eq] at history
  rw [count] at lost
  omega

theorem wasReset_of_step
    {collided : Bool}
    (step : Step lines columns limit collided first second)
    (reset : second.wasReset = true) :
    first.wasReset = true := by
  cases step with
  | still same => exact same.wasReset_of reset
  | edit =>
      rw [Terminal.edit, modifyBlink_frame] at reset
      exact reset
  | scroll =>
      rw [scroll_frame] at reset
      exact reset
  | fillScreen =>
      rw [Terminal.fillScreen, modifyBlink_frame] at reset
      exact reset
  | clearHistory =>
      rw [Terminal.clearHistory] at reset
      split at reset <;> exact reset
  | continueLine | completeLine | beginLine => exact reset

theorem wasReset_of_steps
    {collided : Bool}
    (steps : Steps lines columns limit collided first second)
    (reset : second.wasReset = true) :
    first.wasReset = true := by
  induction steps with
  | refl => exact reset
  | head step _ inductionHypothesis => exact wasReset_of_step step (inductionHypothesis reset)

theorem wasReset_showScreen (terminal : Terminal) (alternate clear : Bool) :
    (terminal.showScreen alternate clear).wasReset = terminal.wasReset := by
  rw [showScreen]
  split
  · rfl
  · split <;> rfl

theorem wasReset_setPrivateMode (terminal : Terminal) (mode : Nat) (on : Bool) :
    (terminal.setPrivateMode mode on).wasReset = terminal.wasReset := by
  refine terminal.setPrivateMode_cases on mode ?modes ?visible ?screen ?save ?restore ?enter ?leave
  case modes => exact fun _ => rfl
  case visible => rfl
  case screen => exact wasReset_showScreen terminal on
  case save => rfl
  case restore => rfl
  case enter => exact wasReset_showScreen terminal.saveMainPosition true true
  case leave => exact wasReset_showScreen terminal false false

theorem wasReset_serve
    (wellFormed : terminal.WellFormed lines columns limit)
    {request : Request}
    (kept : request.replacesRows = false)
    (reset : (terminal.serve request).wasReset = true) :
    terminal.wasReset = true := by
  rcases request.cases_screens with stays | ⟨modes, on, rfl⟩ | replaces
  · exact wasReset_of_steps (.serve wellFormed stays) reset
  · have same : (terminal.serve (.perform (.setPrivateModes modes on))).wasReset =
        terminal.wasReset :=
      List.foldlRecOn modes (fun current mode => current.setPrivateMode mode on)
        (motive := fun current => current.wasReset = terminal.wasReset) rfl
        fun current same mode _ => (wasReset_setPrivateMode current mode on).trans same
    exact same.symm.trans reset
  · exact absurd (kept.symm.trans replaces) Bool.false_ne_true

/-- The main screen and its history have the rows of the first terminal and the
`entered` ones, but for the `forgotten` ones and those that the second counts as
lost and the first does not. There was no reset in between. -/
structure Accounts (entered forgotten : Nat) (first second : Terminal) : Prop where
  evicted_le : first.evicted ≤ second.evicted
  size_eq :
    second.buffer.ring.size + (second.evicted - first.evicted) + forgotten =
      first.buffer.ring.size + entered
  wasReset_of : second.wasReset = true → first.wasReset = true

/-- The request keeps the rows and the count of those that were lost, or else
erases the history. -/
def Request.keepsAccount (request : Request) : Prop :=
  request.leavesHistory = true ∨ request = .perform (.eraseInDisplay 3)

theorem Request.keepsAccount_perform
    {function : ControlFunction}
    (kept : (Request.perform function).replacesRows = false) :
    (Request.perform function).keepsAccount := by
  unfold keepsAccount leavesHistory
  split
  · next same => cases same
  · next same => cases same
  · next same =>
      cases same
      cases kept
  · next same => exact Or.inr same
  · exact Or.inl rfl

namespace Accounts

theorem refl (terminal : Terminal) : terminal.Accounts 0 0 terminal :=
  ⟨Nat.le_refl _, by omega, id⟩

theorem trans
    {later alsoForgotten : Nat}
    (before : first.Accounts entered forgotten second)
    (after : second.Accounts later alsoForgotten third) :
    first.Accounts (entered + later) (forgotten + alsoForgotten) third where
  evicted_le := Nat.le_trans before.evicted_le after.evicted_le
  size_eq := by
    have beforeSize := before.size_eq
    have afterSize := after.size_eq
    have beforeEvicted := before.evicted_le
    have afterEvicted := after.evicted_le
    omega
  wasReset_of reset := before.wasReset_of (after.wasReset_of reset)

theorem composedSize_eq
    (accounts : first.Accounts entered forgotten second)
    (firstMain : first.onAlternate = false)
    (secondMain : second.onAlternate = false) :
    second.buffer.composedSize + (second.evicted - first.evicted) + forgotten =
      first.buffer.composedSize + entered := by
  have firstSize : first.buffer.composedSize = first.buffer.ring.size :=
    if_neg (Bool.eq_false_iff.mp firstMain)
  have secondSize : second.buffer.composedSize = second.buffer.ring.size :=
    if_neg (Bool.eq_false_iff.mp secondMain)
  rw [firstSize, secondSize]
  exact accounts.size_eq

/-- The rows above the screen go and nothing is counted. -/
theorem eraseHistory (wellFormed : terminal.WellFormed lines columns limit) :
    terminal.Accounts 0 (terminal.forgottenBy (.perform (.eraseInDisplay 3)))
      (terminal.eraseInDisplay 3) := by
  let cleared := terminal.clearRows 0 terminal.lines
  have shaped := wellFormed.shaped
  have enough : terminal.buffer.lines ≤ terminal.buffer.ring.size :=
    shaped.lines_eq ▸ shaped.lines_le_size
  have within : 0 + terminal.lines ≤ lines := by rw [wellFormed.lines_eq, Nat.zero_add]
  have extended : terminal.Extends [] cleared := .clearRows wellFormed within
  have sizeEq := extended.size_eq enough
  have grown := extended.size_le
  have counted := extended.evicted_le
  have linesEq := extended.lines_eq
  have sameScreen : cleared.onAlternate = terminal.onAlternate :=
    (SameHidden.of_steps (.clearRows wellFormed within)).onAlternate_eq
  rw [List.length_nil] at sizeEq
  have erased : terminal.eraseInDisplay 3 = cleared.clearHistory := rfl
  have kept : (Request.perform (.eraseInDisplay 3)).replacesRows = false := rfl
  refine ⟨?_, ?_, wasReset_serve wellFormed kept⟩
  all_goals rw [erased, Terminal.clearHistory, sameScreen]
  · split <;> exact counted
  · rw [forgottenBy]
    split
    · omega
    · change (cleared.buffer.ring.keepLast cleared.buffer.lines).size +
        (cleared.evicted - terminal.evicted) + _ = _
      rw [Ring.size_keepLast]
      omega

theorem serve
    (wellFormed : terminal.WellFormed lines columns limit)
    {request : Request}
    (keeps : request.keepsAccount) :
    terminal.Accounts (terminal.serveAdvances request).length (terminal.forgottenBy request)
      (terminal.serve request) := by
  rcases keeps with leaves | rfl
  · have shaped := wellFormed.shaped
    have extended := Extends.serve wellFormed leaves
    have sizeEq := extended.size_eq (shaped.lines_eq ▸ shaped.lines_le_size)
    refine ⟨extended.evicted_le, ?_, wasReset_serve wellFormed ?_⟩
    · rw [forgottenBy_of_leavesHistory leaves]
      exact sizeEq
    · unfold Request.replacesRows
      split
      · cases leaves
      · cases leaves
      · rfl
  · exact eraseHistory wellFormed

/-- What one request does to the rows adds up over any number of them. -/
theorem foldl_serve
    (wellFormed : terminal.WellFormed lines columns limit)
    {requests : List Request}
    (keep : ∀ request ∈ requests, request.keepsAccount) :
    terminal.Accounts (terminal.advancesIn requests).length (terminal.forgottenIn requests)
      (requests.foldl Terminal.serve terminal) := by
  induction requests generalizing terminal lines columns with
  | nil => exact refl terminal
  | cons request rest inductionHypothesis =>
      have served := serve wellFormed (keep request List.mem_cons_self)
      obtain ⟨newLines, newColumns, stillWellFormed⟩ := wellFormed.serve request
      rw [advancesIn, List.length_append]
      exact served.trans
        (inductionHypothesis stillWellFormed fun each member =>
          keep each (List.mem_cons_of_mem request member))

end Accounts

end Terminal

/-! ## Selections that move -/

namespace Selection

variable {selection moved : Selection} {columns removed forgotten distance size : Nat}

/-- The selection is on its text still when that has moved up by `removed`
rows: both ends have moved with it, as far as there are rows, and if no selected
row is left, neither is the selection. -/
structure Attached (columns removed : Nat) (before : Selection) (after : Option Selection) :
    Prop where
  moved_eq : ∀ moved, after = some moved →
    moved =
      { before with
        anchor := before.anchor - columns * removed
        last := before.last - columns * removed }
  gone : before.stop / columns < removed → after = none

theorem stop_shifted (selection : Selection) (distance : Nat) :
    max (selection.anchor - distance) (selection.last - distance) = selection.stop - distance := by
  rw [stop]
  omega

theorem eq_of_follow?_eq_some (followed : selection.follow? distance size = some moved) :
    moved =
      { selection with
        anchor := selection.anchor - distance
        last := selection.last - distance } := by
  obtain ⟨shifted, -⟩ := Option.filter_eq_some_iff.mp followed
  rw [shift?] at shifted
  split at shifted
  · cases shifted
  · cases shifted
    rfl

theorem follow?_eq_none_iff (inside : selection.stop < size + distance) :
    selection.follow? distance size = none ↔ selection.stop < distance := by
  rw [follow?, shift?]
  split
  · next beyond => exact iff_of_true rfl beyond
  · next within =>
      refine iff_of_false ?_ within
      rw [Option.filter_some, if_pos]
      · exact Option.some_ne_none _
      · rw [decide_eq_true_eq, stop, stop_shifted]
        omega

/-- A selection that follows only some of the rows is not on its text any more,
unless it is gone. -/
theorem attached_follow?_iff
    (positive : 0 < columns)
    (enough : forgotten ≤ removed)
    (inside : selection.stop < size + removed * columns) :
    selection.Attached columns removed
        (selection.follow? ((removed - forgotten) * columns) size) ↔
      forgotten = 0 ∨ selection.follow? ((removed - forgotten) * columns) size = none := by
  constructor
  · intro attached
    by_contra neither
    rw [not_or] at neither
    obtain ⟨some, left⟩ := neither
    obtain ⟨moved, followed⟩ := Option.ne_none_iff_exists'.mp left
    -- Some selected row is left, so that the end of the selection has all of the way to move.
    have room : removed * columns ≤ selection.stop := by
      by_contra short
      exact left (attached.gone ((Nat.div_lt_iff_lt_mul positive).mpr (by omega)))
    have partly := eq_of_follow?_eq_some followed
    have wholly := attached.moved_eq moved followed
    have stops :
        selection.stop - (removed - forgotten) * columns = selection.stop - columns * removed := by
      rw [← stop_shifted, ← stop_shifted]
      exact (congrArg stop partly).symm.trans (congrArg stop wholly)
    have less : (removed - forgotten) * columns < removed * columns :=
      Nat.mul_lt_mul_of_pos_right (by omega) positive
    rw [Nat.mul_comm columns] at stops
    omega
  · rintro (rfl | gone)
    · constructor
      · intro moved followed
        rw [Nat.mul_comm]
        exact eq_of_follow?_eq_some followed
      · intro beyond
        exact (follow?_eq_none_iff inside).mpr ((Nat.div_lt_iff_lt_mul positive).mp beyond)
    · constructor
      · intro moved followed
        exact absurd (gone.symm.trans followed).symm (Option.some_ne_none moved)
      · exact fun _ => gone

end Selection

/-! ## A selection while text is read -/

namespace Console

theorem feed_accounts
    {lines columns limit : Nat} {console : Console}
    (wellFormed : console.terminal.WellFormed lines columns limit)
    {text : List Char}
    (kept : ∀ request ∈ console.requests (.text text), request.replacesRows = false) :
    console.terminal.Accounts (console.terminal.advancesIn (console.requests (.text text))).length
      (console.terminal.forgottenIn (console.requests (.text text)))
      (console.feed text).terminal := by
  have served := terminal_receive console (.text text)
  change (console.feed text).terminal = _ at served
  rw [served]
  apply Terminal.Accounts.foldl_serve wellFormed
  intro request member
  rcases mem_requests member with asked | ⟨printed, rfl⟩ | ⟨function, rfl⟩
  · cases asked
  · exact Or.inl rfl
  · exact Terminal.Request.keepsAccount_perform (kept _ member)

end Console

namespace Session

variable {session : Session}

theorem selection_interpret_of_stays
    {selection : Selection}
    (selected : session.selection = some selection)
    {text : List Char}
    (notReset : (session.console.feed text).terminal.wasReset = false)
    (stays : (session.console.feed text).terminal.onAlternate = session.terminal.onAlternate) :
    (session.interpret text).selection =
      selection.follow?
        ((session.console.feed text).terminal.evicted *
          (session.console.feed text).terminal.columns)
        (session.interpret text).cellCount := by
  rw [selection_interpret, selected, Option.bind_some, relocate?, notReset, stays,
    if_neg (by simp), cellCount, terminal_interpret]
  rfl

/-- While nothing is held back, a selection on the main screen follows the rows
that text scrolls out of the history. It does not follow those that are erased
with the history: it is on its text afterwards just if there were none of them
or it is gone, which it is when there were none just if no row of it is left. -/
theorem attached_feed_iff
    (reachable : session.Reachable)
    (free : session.isHeld = false)
    (main : session.terminal.onAlternate = false)
    {selection : Selection}
    (selected : session.selection = some selection)
    {text : List Char}
    (kept : ∀ request ∈ session.console.requests (.text text), request.replacesRows = false)
    (stays : (session.feed text).terminal.onAlternate = false) :
    let columns := session.terminal.columns
    let requests := session.console.requests (.text text)
    let entered := (session.terminal.advancesIn requests).length
    let forgotten := session.terminal.forgottenIn requests
    let after := session.feed text
    let removed :=
      session.terminal.buffer.composedSize + entered - after.terminal.buffer.composedSize
    forgotten ≤ removed ∧
      after.selection = selection.follow? ((removed - forgotten) * columns) after.cellCount ∧
      (selection.Attached columns removed after.selection ↔
        forgotten = 0 ∨ after.selection = none) ∧
      (forgotten = 0 → (after.selection = none ↔ selection.stop / columns < removed)) := by
  intro columns requests entered forgotten after removed
  have sound := reachable.sound
  obtain ⟨lines, width, limit, wellFormed⟩ := sound.wellFormed
  have widthEq : width = columns := wellFormed.columns_eq.symm
  subst widthEq
  let fed := (session.console.feed text).terminal
  have fedWellFormed : fed.WellFormed lines columns limit := Console.feed_wellFormed wellFormed text
  have accounts : session.terminal.Accounts entered forgotten fed :=
    Console.feed_accounts wellFormed kept
  have interpreted : after = session.interpret text := feed_of_not_held free text
  have terminalEq : after.terminal = fed.settled := by rw [interpreted, terminal_interpret]
  have fedMain : fed.onAlternate = false := by
    rw [terminalEq] at stays
    exact stays
  have notReset : fed.wasReset = false := by
    rw [← Bool.not_eq_true]
    intro reset
    exact Bool.false_ne_true (sound.wasReset_eq.symm.trans (accounts.wasReset_of reset))
  have sizeEq :
      after.terminal.buffer.composedSize + fed.evicted + forgotten =
        session.terminal.buffer.composedSize + entered := by
    have balance := accounts.composedSize_eq main fedMain
    rw [sound.evicted_eq] at balance
    rw [terminalEq]
    exact balance
  have lostEq : removed = fed.evicted + forgotten := by omega
  have followed :
      after.selection = selection.follow? ((removed - forgotten) * columns) after.cellCount := by
    rw [interpreted, selection_interpret_of_stays selected notReset (fedMain.trans main.symm),
      lostEq, Nat.add_sub_cancel, fedWellFormed.columns_eq]
  have inside : selection.stop < after.cellCount + removed * columns := by
    have before : selection.stop < session.terminal.buffer.composedSize * columns :=
      sound.inside selection selected
    have widthEq : after.terminal.columns = columns := by
      rw [terminalEq]
      exact fedWellFormed.columns_eq
    rw [cellCount, widthEq, ← Nat.add_mul]
    exact Nat.lt_of_lt_of_le before (Nat.mul_le_mul_right columns (by omega))
  have positive : 0 < columns := wellFormed.columns_pos
  have enough : forgotten ≤ removed := by omega
  rw [followed]
  refine ⟨enough, rfl, Selection.attached_follow?_iff positive enough inside, ?_⟩
  intro nothing
  rw [nothing, Nat.div_lt_iff_lt_mul positive]
  exact Selection.follow?_eq_none_iff inside

/-- The second row of three is selected, and one row is scrolled out of the
history. -/
theorem attached_feed_iff_scrolled :
    let settings : Settings := { lines := 2, columns := 2, historyLimit := 1 }
    let start : Session :=
      { console := { terminal := blankTerminal settings {} }
        blinkPeriod := some 500, blinkDeadline := some 500 }
    let done : List (Nat × Act) :=
      [(0, .call (.feed "a\r\nb\r\nc".toList)), (1, .call (.startSelection 0 1)),
        (2, .call (.extendSelection 1 1)), (3, .call .endSelection)]
    let session := start.acts done
    let selection : Selection := { anchor := 2, last := 3, finished := true }
    let requests := session.console.requests (.text "\r\nd".toList)
    let after := session.feed "\r\nd".toList
    let removed :=
      session.terminal.buffer.composedSize + (session.terminal.advancesIn requests).length -
        after.terminal.buffer.composedSize
    session.Reachable ∧ session.isHeld = false ∧ session.terminal.onAlternate = false ∧
      session.selection = some selection ∧ (∀ request ∈ requests, request.replacesRows = false) ∧
      after.terminal.onAlternate = false ∧ removed = 1 ∧
      session.terminal.forgottenIn requests = 0 ∧
      after.selection = some { anchor := 0, last := 1, finished := true } ∧
      selection.Attached session.terminal.columns removed after.selection := by
  intro settings start done session selection requests after removed
  have reachable : session.Reachable := ⟨settings, start, done, rfl, rfl⟩
  have free : session.isHeld = false := by decide +kernel
  have main : session.terminal.onAlternate = false := by decide +kernel
  have selected : session.selection = some selection := by decide +kernel
  have kept : ∀ request ∈ requests, request.replacesRows = false := by decide +kernel
  have stays : after.terminal.onAlternate = false := by decide +kernel
  have one : removed = 1 := by decide +kernel
  have nothing : session.terminal.forgottenIn requests = 0 := by decide +kernel
  have moved : after.selection = some { anchor := 0, last := 1, finished := true } := by
    decide +kernel
  obtain ⟨-, -, attached, -⟩ := attached_feed_iff reachable free main selected kept stays
  exact ⟨reachable, free, main, selected, kept, stays, one, nothing, moved,
    attached.mpr (Or.inl nothing)⟩

/-- A row of the history is selected and erased; the selection is where it was,
on a row that has been on the screen all the time. -/
theorem not_attached_feed_erased_history :
    let settings : Settings := { lines := 2, columns := 2, historyLimit := 3 }
    let start : Session :=
      { console := { terminal := blankTerminal settings {} }
        blinkPeriod := some 500, blinkDeadline := some 500 }
    let done : List (Nat × Act) :=
      [(0, .call (.feed "a\r\nb\r\nc".toList)), (1, .call (.startSelection 0 0)),
        (2, .call .endSelection)]
    let session := start.acts done
    let selection : Selection := { anchor := 0, last := 0, finished := true }
    let requests := session.console.requests (.text "\x1b[3J".toList)
    let after := session.feed "\x1b[3J".toList
    let removed :=
      session.terminal.buffer.composedSize + (session.terminal.advancesIn requests).length -
        after.terminal.buffer.composedSize
    session.Reachable ∧ session.isHeld = false ∧ session.terminal.onAlternate = false ∧
      session.selection = some selection ∧ (∀ request ∈ requests, request.replacesRows = false) ∧
      after.terminal.onAlternate = false ∧ removed = 1 ∧ after.selection = some selection ∧
      ¬selection.Attached session.terminal.columns removed after.selection := by
  intro settings start done session selection requests after removed
  have one : removed = 1 := by decide +kernel
  have unmoved : after.selection = some selection := by decide +kernel
  refine ⟨⟨settings, start, done, rfl, rfl⟩, by decide +kernel, by decide +kernel,
    by decide +kernel, by decide +kernel, by decide +kernel, one, unmoved, ?_⟩
  intro attached
  have gone := attached.gone (by rw [one]; decide +kernel)
  exact Option.some_ne_none selection (unmoved.symm.trans gone)

end Session

end VideoTerminal
