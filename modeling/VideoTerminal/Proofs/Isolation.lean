import VideoTerminal.Proofs.Frame
import VideoTerminal.Proofs.Steps

/-!
The two screens are apart. What happens on the screen that is shown leaves the
rows and marks of the other one as they are, the history among them while the
alternate screen is shown. So an application that runs on the alternate screen
gives back the main one as it was.
-/

namespace VideoTerminal

namespace ScreenBuffer

/-- The buffers show the same screen and hold the same rows in the other one. -/
structure SameHidden (first second : ScreenBuffer) : Prop where
  lines_eq : second.lines = first.lines
  onAlternate_eq : second.onAlternate = first.onAlternate
  ring_eq : first.onAlternate = true → second.ring = first.ring
  alternate_eq : first.onAlternate = false → second.alternate = first.alternate

namespace SameHidden

variable {first second third : ScreenBuffer}

theorem refl (buffer : ScreenBuffer) : buffer.SameHidden buffer :=
  ⟨rfl, rfl, fun _ => rfl, fun _ => rfl⟩

theorem trans (before : first.SameHidden second) (after : second.SameHidden third) :
    first.SameHidden third where
  lines_eq := after.lines_eq.trans before.lines_eq
  onAlternate_eq := after.onAlternate_eq.trans before.onAlternate_eq
  ring_eq shown := (after.ring_eq (before.onAlternate_eq.trans shown)).trans (before.ring_eq shown)
  alternate_eq shown :=
    (after.alternate_eq (before.onAlternate_eq.trans shown)).trans (before.alternate_eq shown)

theorem foldl
    {item : Type} {step : ScreenBuffer → item → ScreenBuffer}
    (keeps : ∀ (current : ScreenBuffer) (each : item), current.SameHidden (step current each))
    (buffer : ScreenBuffer) (items : List item) :
    buffer.SameHidden (items.foldl step buffer) :=
  List.foldlRecOn items step (motive := buffer.SameHidden) (refl buffer)
    fun current same each _ => same.trans (keeps current each)

theorem of_main (shown : first.onAlternate = false) (ring : Ring Row) :
    first.SameHidden { first with ring } where
  lines_eq := rfl
  onAlternate_eq := rfl
  ring_eq alternate := by
    rw [shown] at alternate
    cases alternate
  alternate_eq _ := rfl

theorem of_alternate (shown : first.onAlternate = true) (alternate : Array Row) :
    first.SameHidden { first with alternate } where
  lines_eq := rfl
  onAlternate_eq := rfl
  ring_eq _ := rfl
  alternate_eq main := by
    rw [shown] at main
    cases main

variable (buffer : ScreenBuffer)

theorem modifyComposed (index : Nat) (change : Row → Row) :
    buffer.SameHidden (buffer.modifyComposed index change) := by
  simp only [ScreenBuffer.modifyComposed]
  split
  · next shown => exact of_alternate shown _
  · next shown => exact of_main (eq_false_of_ne_true shown) _

theorem modifyScreen (y : Nat) (change : Row → Row) :
    buffer.SameHidden (buffer.modifyScreen y change) :=
  modifyComposed buffer _ change

theorem swapScreen (here there : Nat) : buffer.SameHidden (buffer.swapScreen here there) := by
  simp only [ScreenBuffer.swapScreen]
  split
  · next shown => exact of_alternate shown _
  · next shown => exact of_main (eq_false_of_ne_true shown) _

theorem clearScreenRows (top count : Nat) (fill : Cell) :
    buffer.SameHidden (buffer.clearScreenRows top count fill) :=
  foldl (fun current _ => modifyScreen current _ _) buffer _

theorem scrollRows (top bottom : Nat) (amount : Int) (fill : Cell) :
    buffer.SameHidden (buffer.scrollRows top bottom amount fill) := by
  simp only [ScreenBuffer.scrollRows]
  split
  · exact refl buffer
  · split
    · exact (foldl (fun current _ => swapScreen current _ _) buffer _).trans
        (clearScreenRows _ _ _ _)
    · exact (foldl (fun current _ => swapScreen current _ _) buffer _).trans
        (clearScreenRows _ _ _ _)

theorem stamp (index x : Nat) : buffer.SameHidden (buffer.stamp index x) :=
  foldl (fun current _ => modifyComposed current _ _) buffer _

theorem beginLine (y : Nat) : buffer.SameHidden (buffer.beginLine y) := by
  simp only [ScreenBuffer.beginLine]
  refine trans ?_ (stamp _ _ _)
  split
  · exact ((modifyComposed buffer _ _).trans (modifyComposed _ _ _)).trans (stamp _ _ _)
  · exact modifyComposed buffer _ _

theorem advance (shown : buffer.onAlternate = false) (fill : Cell) :
    buffer.SameHidden (buffer.advance fill).1 := by
  simp only [ScreenBuffer.advance]
  split <;> exact of_main shown _

end SameHidden

end ScreenBuffer

namespace Terminal

/-- The main screen is the same, with its history and its marks. -/
structure SameMain (first second : Terminal) : Prop where
  ring_eq : second.buffer.ring = first.buffer.ring
  mainBlink_eq : second.mainBlink = first.mainBlink

/-- The alternate screen is the same, with its marks. -/
structure SameAlternate (first second : Terminal) : Prop where
  alternate_eq : second.buffer.alternate = first.buffer.alternate
  alternateBlink_eq : second.alternateBlink = first.alternateBlink

/-- The terminals show the same screen, and the other one is the same. -/
structure SameHidden (first second : Terminal) : Prop where
  lines_eq : second.lines = first.lines
  columns_eq : second.columns = first.columns
  savedMainPosition_eq : second.savedMainPosition = first.savedMainPosition
  buffer : first.buffer.SameHidden second.buffer
  mainBlink_eq : first.onAlternate = true → second.mainBlink = first.mainBlink
  alternateBlink_eq : first.onAlternate = false → second.alternateBlink = first.alternateBlink

namespace SameHidden

variable {lines columns limit : Nat} {collided : Bool}
variable {first second third terminal : Terminal}

theorem refl (terminal : Terminal) : terminal.SameHidden terminal :=
  ⟨rfl, rfl, rfl, .refl _, fun _ => rfl, fun _ => rfl⟩

theorem trans (before : first.SameHidden second) (after : second.SameHidden third) :
    first.SameHidden third where
  lines_eq := after.lines_eq.trans before.lines_eq
  columns_eq := after.columns_eq.trans before.columns_eq
  savedMainPosition_eq := after.savedMainPosition_eq.trans before.savedMainPosition_eq
  buffer := before.buffer.trans after.buffer
  mainBlink_eq shown :=
    (after.mainBlink_eq (before.buffer.onAlternate_eq.trans shown)).trans
      (before.mainBlink_eq shown)
  alternateBlink_eq shown :=
    (after.alternateBlink_eq (before.buffer.onAlternate_eq.trans shown)).trans
      (before.alternateBlink_eq shown)

theorem onAlternate_eq (same : first.SameHidden second) :
    second.onAlternate = first.onAlternate :=
  same.buffer.onAlternate_eq

theorem sameMain (same : first.SameHidden second) (shown : first.onAlternate = true) :
    first.SameMain second :=
  ⟨same.buffer.ring_eq shown, same.mainBlink_eq shown⟩

theorem sameAlternate (same : first.SameHidden second) (shown : first.onAlternate = false) :
    first.SameAlternate second :=
  ⟨same.buffer.alternate_eq shown, same.alternateBlink_eq shown⟩

theorem of_sameContent (same : first.SameContent second) : first.SameHidden second where
  lines_eq := same.lines_eq
  columns_eq := same.columns_eq
  savedMainPosition_eq := same.savedMainPosition_eq
  buffer := same.buffer_eq ▸ .refl first.buffer
  mainBlink_eq _ := same.mainBlink_eq
  alternateBlink_eq _ := same.alternateBlink_eq

theorem withBuffer {buffer : ScreenBuffer} (same : terminal.buffer.SameHidden buffer) :
    terminal.SameHidden { terminal with buffer } :=
  ⟨rfl, rfl, rfl, same, fun _ => rfl, fun _ => rfl⟩

theorem modifyBlink (terminal : Terminal) (change : BlinkMarks → BlinkMarks) :
    terminal.SameHidden (terminal.modifyBlink change) := by
  simp only [Terminal.modifyBlink]
  split
  · next shown =>
      refine ⟨rfl, rfl, rfl, .refl _, fun _ => rfl, fun main => ?_⟩
      rw [shown] at main
      cases main
  · next shown =>
      exact ⟨rfl, rfl, rfl, .refl _, fun alternate => absurd alternate shown, fun _ => rfl⟩

theorem advance (shown : terminal.onAlternate = false) (fill : Cell) (count : Nat) :
    terminal.SameHidden (terminal.advance fill count) := by
  induction count generalizing terminal with
  | zero => exact refl terminal
  | succ count inductionHypothesis =>
      have advanced := ScreenBuffer.SameHidden.advance terminal.buffer shown fill
      have here :
          terminal.SameHidden
            { terminal with
              buffer := (terminal.buffer.advance fill).1
              evicted :=
                if (terminal.buffer.advance fill).2 then terminal.evicted + 1
                else terminal.evicted } :=
        ⟨rfl, rfl, rfl, advanced, fun _ => rfl, fun _ => rfl⟩
      exact here.trans (inductionHypothesis (here.onAlternate_eq.trans shown))

theorem moveRows (terminal : Terminal) (top bottom : Nat) (amount : Int) :
    terminal.SameHidden (terminal.moveRows top bottom amount) := by
  simp only [Terminal.moveRows]
  split
  · next whole =>
      have shown : terminal.onAlternate = false := by
        have conditions := whole.1
        rw [Bool.and_eq_true, Bool.and_eq_true, Bool.not_eq_true'] at conditions
        exact conditions.1.1
      exact advance shown _ _
  · exact withBuffer (.scrollRows _ _ _ _ _)

theorem scroll (terminal : Terminal) (top bottom : Nat) (amount : Int) :
    terminal.SameHidden (terminal.scroll top bottom amount) := by
  by_cases nothing : amount = 0 ∨ top > bottom ∨ bottom ≥ terminal.lines
  · rw [Terminal.scroll, if_pos nothing]
    exact refl terminal
  · exact ((moveRows terminal _ _ _).trans (modifyBlink _ _)).trans
      (of_sameContent (scroll_content terminal nothing))

/-- A small step is one on the screen that is shown. -/
theorem of_step (step : Step lines columns limit collided first second) :
    first.SameHidden second := by
  cases step with
  | still same => exact of_sameContent same
  | edit => exact (withBuffer (.modifyScreen _ _ _)).trans (modifyBlink _ _)
  | scroll => exact scroll first _ _ _
  | fillScreen => exact (withBuffer (.clearScreenRows _ _ _ _)).trans (modifyBlink _ _)
  | clearHistory =>
      simp only [Terminal.clearHistory]
      split
      · exact refl first
      · next shown => exact withBuffer (.of_main (eq_false_of_ne_true shown) _)
  | continueLine => exact withBuffer (.modifyScreen _ _ _)
  | completeLine => exact withBuffer (.stamp _ _ _)
  | beginLine => exact withBuffer (.beginLine _ _)

theorem of_steps (steps : Steps lines columns limit collided first second) :
    first.SameHidden second := by
  induction steps with
  | refl => exact refl _
  | head step _ inductionHypothesis => exact (of_step step).trans inductionHypothesis

theorem serve
    (wellFormed : terminal.WellFormed lines columns limit)
    {request : Request}
    (stays : request.staysOnScreen = true) :
    terminal.SameHidden (terminal.serve request) :=
  of_steps (.serve wellFormed stays)

theorem foldl_serve
    (wellFormed : terminal.WellFormed lines columns limit)
    {requests : List Request}
    (stays : ∀ request ∈ requests, request.staysOnScreen = true) :
    terminal.SameHidden (requests.foldl Terminal.serve terminal) := by
  induction requests generalizing terminal lines columns with
  | nil => exact refl terminal
  | cons request rest inductionHypothesis =>
      obtain ⟨newLines, newColumns, served⟩ := wellFormed.serve request
      have here := serve wellFormed (stays request List.mem_cons_self)
      exact here.trans
        (inductionHypothesis served fun each member =>
          stays each (List.mem_cons_of_mem request member))

end SameHidden

/-! ## Exchanging the screens -/

/-- The request replaces the rows of both screens. -/
def Request.replacesRows : Request → Bool
  | .resize _ _ | .perform .reset => true
  | _ => false

/-- The request clears the alternate screen if it shows it. -/
def Request.clearsAlternate : Request → Bool
  | .perform (.setPrivateModes modes on) => on && (modes.contains 1047 || modes.contains 1049)
  | _ => false

variable {lines columns limit : Nat} {terminal : Terminal}

/-- A request on the screen that is shown, one that exchanges the screens, or
one that replaces the rows of both. -/
theorem Request.cases_screens (request : Request) :
    request.staysOnScreen = true ∨
      (∃ modes on, request = .perform (.setPrivateModes modes on)) ∨
      request.replacesRows = true := by
  by_cases stays : request.staysOnScreen = true
  · exact Or.inl stays
  · right
    cases request with
    | resize newLines newColumns => exact Or.inr rfl
    | perform function =>
        cases function with
        | setPrivateModes modes on => exact Or.inl ⟨modes, on, rfl⟩
        | reset => exact Or.inr rfl
        | _ => exact absurd rfl stays
    | _ => exact absurd rfl stays

theorem SameMain.trans {first second third : Terminal}
    (before : first.SameMain second)
    (after : second.SameMain third) :
    first.SameMain third :=
  ⟨after.ring_eq.trans before.ring_eq, after.mainBlink_eq.trans before.mainBlink_eq⟩

theorem SameAlternate.trans {first second third : Terminal}
    (before : first.SameAlternate second)
    (after : second.SameAlternate third) :
    first.SameAlternate third :=
  ⟨after.alternate_eq.trans before.alternate_eq,
    after.alternateBlink_eq.trans before.alternateBlink_eq⟩

theorem SameMain.showScreen (terminal : Terminal) (alternate clear : Bool) :
    terminal.SameMain (terminal.showScreen alternate clear) := by
  simp only [Terminal.showScreen]
  split
  · exact ⟨rfl, rfl⟩
  · split <;> exact ⟨rfl, rfl⟩

theorem SameAlternate.showScreen (terminal : Terminal) {alternate clear : Bool}
    (keeps : (alternate && clear) = false) :
    terminal.SameAlternate (terminal.showScreen alternate clear) := by
  simp only [Terminal.showScreen, keeps]
  split <;> exact ⟨rfl, rfl⟩

/-- No private mode changes the main screen. -/
theorem SameMain.setPrivateMode (terminal : Terminal) (mode : Nat) (on : Bool) :
    terminal.SameMain (terminal.setPrivateMode mode on) := by
  refine terminal.setPrivateMode_cases on mode ?modes ?visible ?screen ?save ?restore ?enter ?leave
  case modes => exact fun _ => ⟨rfl, rfl⟩
  case visible => exact ⟨rfl, rfl⟩
  case screen => exact showScreen terminal on
  case save => exact ⟨rfl, rfl⟩
  case restore => exact ⟨rfl, rfl⟩
  case enter =>
    have shown := showScreen terminal.saveMainPosition true true
    exact ⟨shown.ring_eq, shown.mainBlink_eq⟩
  case leave =>
    have shown := showScreen terminal false false
    exact ⟨shown.ring_eq, shown.mainBlink_eq⟩

/-- Two private modes change the alternate screen, and only when they show it. -/
theorem SameAlternate.setPrivateMode
    (terminal : Terminal) {mode : Nat} {on : Bool}
    (keeps : on = false ∨ (mode ≠ 1047 ∧ mode ≠ 1049)) :
    terminal.SameAlternate (terminal.setPrivateMode mode on) := by
  simp only [Terminal.setPrivateMode]
  split
  · exact ⟨rfl, rfl⟩
  · exact ⟨rfl, rfl⟩
  · split <;> exact ⟨rfl, rfl⟩
  · exact ⟨rfl, rfl⟩
  · exact showScreen terminal (Bool.and_false on)
  · rcases keeps with rfl | different
    · exact showScreen terminal rfl
    · exact absurd rfl different.1
  · split <;> exact ⟨rfl, rfl⟩
  · rcases keeps with rfl | different
    · have shown : terminal.SameAlternate (terminal.showScreen false false) :=
        showScreen terminal rfl
      exact ⟨shown.alternate_eq, shown.alternateBlink_eq⟩
    · exact absurd rfl different.2
  · exact ⟨rfl, rfl⟩
  · exact ⟨rfl, rfl⟩

theorem SameMain.serve
    (wellFormed : terminal.WellFormed lines columns limit)
    (shown : terminal.onAlternate = true)
    {request : Request}
    (keeps : request.replacesRows = false) :
    terminal.SameMain (terminal.serve request) := by
  rcases request.cases_screens with stays | ⟨modes, on, rfl⟩ | replaces
  · exact (SameHidden.serve wellFormed stays).sameMain shown
  · exact List.foldlRecOn modes _ (motive := terminal.SameMain) ⟨rfl, rfl⟩
      fun current same mode _ => same.trans (.setPrivateMode current mode on)
  · rw [keeps] at replaces
    cases replaces

theorem SameAlternate.serve
    (wellFormed : terminal.WellFormed lines columns limit)
    (shown : terminal.onAlternate = false)
    {request : Request}
    (keeps : request.replacesRows = false)
    (clears : request.clearsAlternate = false) :
    terminal.SameAlternate (terminal.serve request) := by
  rcases request.cases_screens with stays | ⟨modes, on, rfl⟩ | replaces
  · exact (SameHidden.serve wellFormed stays).sameAlternate shown
  · refine List.foldlRecOn modes _ (motive := terminal.SameAlternate) ⟨rfl, rfl⟩ ?_
    intro current same mode member
    refine same.trans (.setPrivateMode current ?_)
    cases on with
    | false => exact Or.inl rfl
    | true =>
        right
        simp only [Request.clearsAlternate, Bool.true_and, Bool.or_eq_false_iff,
          List.contains_eq_mem, decide_eq_false_iff_not] at clears
        constructor
        · rintro rfl
          exact clears.1 member
        · rintro rfl
          exact clears.2 member
  · rw [keeps] at replaces
    cases replaces

/-! ## A visit to the alternate screen -/

/-- Save the cursor and show the alternate screen, cleared. -/
def Request.enterAlternate : Request :=
  .perform (.setPrivateModes [1049] true)

/-- Show the main screen and return to the cursor saved there. -/
def Request.leaveAlternate : Request :=
  .perform (.setPrivateModes [1049] false)

theorem serve_enterAlternate (shown : terminal.onAlternate = false) :
    let entered := terminal.serve .enterAlternate
    terminal.SameMain entered ∧ entered.onAlternate = true ∧
      entered.savedMainPosition = terminal.cursor ∧
      entered.lines = terminal.lines ∧ entered.columns = terminal.columns := by
  intro entered
  have exchanged : entered = terminal.saveMainPosition.showScreen true true := rfl
  have different : true ≠ terminal.saveMainPosition.onAlternate := by
    rw [show terminal.saveMainPosition.onAlternate = false from shown]
    exact Bool.false_ne_true.symm
  rw [showScreen, if_neg different] at exchanged
  rw [exchanged]
  exact ⟨⟨rfl, rfl⟩, rfl, rfl, rfl, rfl⟩

theorem serve_leaveAlternate (shown : terminal.onAlternate = true) :
    let left := terminal.serve .leaveAlternate
    terminal.SameMain left ∧ left.onAlternate = false ∧
      left.cursor = terminal.savedMainPosition.clamp terminal.columns terminal.lines ∧
      left.lines = terminal.lines ∧ left.columns = terminal.columns := by
  intro left
  have exchanged : left = (terminal.showScreen false false).restoreMainPosition := rfl
  have different : false ≠ terminal.onAlternate := by
    rw [shown]
    exact Bool.false_ne_true
  rw [showScreen, if_neg different] at exchanged
  rw [exchanged]
  exact ⟨⟨rfl, rfl⟩, rfl, rfl, rfl, rfl⟩

theorem WellFormed.foldl_serve
    (wellFormed : terminal.WellFormed lines columns limit) (requests : List Request) :
    ∃ newLines newColumns,
      (requests.foldl Terminal.serve terminal).WellFormed newLines newColumns limit := by
  induction requests generalizing terminal lines columns with
  | nil => exact ⟨lines, columns, wellFormed⟩
  | cons request rest inductionHypothesis =>
      obtain ⟨newLines, newColumns, served⟩ := wellFormed.serve request
      exact inductionHypothesis served

/-- The main screen is given back as it was left, and the cursor with it; one
after the last column returns to the last. -/
theorem sameMain_visit
    (wellFormed : terminal.WellFormed lines columns limit)
    (shown : terminal.onAlternate = false)
    {requests : List Request}
    (stays : ∀ request ∈ requests, request.staysOnScreen = true) :
    let back :=
      (requests.foldl Terminal.serve (terminal.serve .enterAlternate)).serve .leaveAlternate
    terminal.SameMain back ∧ back.onAlternate = false ∧
      back.lines = terminal.lines ∧ back.columns = terminal.columns ∧
      back.cursor = ⟨min terminal.cursor.x (terminal.columns - 1), terminal.cursor.y⟩ := by
  obtain ⟨enteredMain, entered, saved, enteredLines, enteredColumns⟩ := serve_enterAlternate shown
  have enteredWellFormed : (terminal.serve .enterAlternate).WellFormed lines columns limit :=
    wellFormed.perform (.setPrivateModes [1049] true)
  have kept := SameHidden.foldl_serve enteredWellFormed stays
  obtain ⟨leftMain, left, cursor, leftLines, leftColumns⟩ :=
    serve_leaveAlternate (kept.onAlternate_eq.trans entered)
  refine ⟨(enteredMain.trans (kept.sameMain entered)).trans leftMain, left,
    leftLines.trans (kept.lines_eq.trans enteredLines),
    leftColumns.trans (kept.columns_eq.trans enteredColumns), ?_⟩
  have row : terminal.cursor.y ≤ terminal.lines - 1 := by
    have inside := wellFormed.cursor_row
    rw [wellFormed.lines_eq]
    omega
  rw [cursor, kept.savedMainPosition_eq, saved, kept.columns_eq, enteredColumns, kept.lines_eq,
    enteredLines, Position.clamp, Nat.min_eq_left row]

end Terminal

namespace Console

open Terminal (Request)

variable {console : Console}

/-- A step of a run that is one operation, or one character. -/
def Input.isSingle : Input → Bool
  | .text _ => false
  | .char _ | .flush | .abort | .request _ => true

/-- A single step asks for one thing, after what was to be written yet. -/
theorem requests_of_isSingle {input : Input} (single : input.isSingle = true) :
    ∃ written, ∃ asked : Option Request,
      console.requests input = written ++ asked.toList ∧
        ∀ request ∈ written, request.staysOnScreen = true := by
  cases input with
  | text chars => cases single
  | char char =>
      rw [requests, charRequests]
      split
      · exact ⟨[], none, rfl, by simp⟩
      · have stays : ∀ request ∈ [console.flushRequest], request.staysOnScreen = true := by
          intro request member
          rw [List.mem_singleton.mp member]
          rfl
        cases Action.ofChar console.interpreter.phase console.interpreter.parameters char with
        | perform function | finish function =>
            exact ⟨[console.flushRequest], some (.perform function), rfl, stays⟩
        | ignore | enter | proceed | collect | abandon =>
            exact ⟨[console.flushRequest], none, rfl, stays⟩
  | flush | abort => exact ⟨[], some console.flushRequest, rfl, by simp⟩
  | request request =>
      cases request with
      | resize lines columns =>
          rw [requests]
          split
          · exact ⟨[], some (.resize lines columns), rfl, by simp⟩
          · exact ⟨[], none, rfl, by simp⟩
      | perform | print | scroll | setPen | configure | markBlink | takeTitle | takeReset
      | takeEvicted | takeDamage => exact ⟨[], some _, rfl, by simp⟩

theorem runRequests_append (console : Console) (first second : List Input) :
    console.runRequests (first ++ second) =
      console.runRequests first ++ (console.run first).runRequests second := by
  induction first generalizing console with
  | nil => rfl
  | cons input rest inductionHypothesis =>
      rw [List.cons_append, runRequests, runRequests, inductionHypothesis, List.append_assoc]
      rfl

/-- No operation and no character changes the screen that is not shown, but for
a new size, a reset, and the modes that clear the alternate screen as they show
it. So whatever an application does on the alternate screen, the main one is
given back with its history, its marks and its cursor. -/
theorem screens_apart
    {limit : Nat}
    (reachable : console.Reachable limit) :
    (∀ input, input.isSingle = true →
      (∀ request ∈ console.requests input, request.replacesRows = false) →
        (console.terminal.onAlternate = true →
          console.terminal.SameMain (console.receive input).terminal) ∧
        (console.terminal.onAlternate = false →
          (∀ request ∈ console.requests input, request.clearsAlternate = false) →
            console.terminal.SameAlternate (console.receive input).terminal)) ∧
    ∀ inputs, ∀ before between : List Request,
      console.runRequests inputs =
          before ++ .enterAlternate :: (between ++ [.leaveAlternate]) →
        let left := before.foldl Terminal.serve console.terminal
        let back := (console.run inputs).terminal
        left.onAlternate = false → (∀ request ∈ between, request.staysOnScreen = true) →
          left.SameMain back ∧ back.onAlternate = false ∧
            back.lines = left.lines ∧ back.columns = left.columns ∧
            back.cursor = ⟨min left.cursor.x (left.columns - 1), left.cursor.y⟩ := by
  have wellFormed := reachable.wellFormed
  constructor
  · intro input single keeps
    obtain ⟨written, asked, requestsEq, stays⟩ := requests_of_isSingle single
    have here := Terminal.SameHidden.foldl_serve wellFormed stays
    obtain ⟨newLines, newColumns, writtenWellFormed⟩ := wellFormed.foldl_serve written
    rw [terminal_receive, requestsEq, List.foldl_append]
    rw [requestsEq] at keeps
    cases asked with
    | none => exact ⟨here.sameMain, fun shown _ => here.sameAlternate shown⟩
    | some request =>
        have last : request ∈ written ++ [request] := List.mem_append_right _ List.mem_cons_self
        constructor
        · intro shown
          exact (here.sameMain shown).trans
            (.serve writtenWellFormed (here.onAlternate_eq.trans shown) (keeps request last))
        · intro shown clears
          exact (here.sameAlternate shown).trans
            (.serve writtenWellFormed (here.onAlternate_eq.trans shown) (keeps request last)
              (clears request last))
  · intro inputs before between asked left back shown stays
    obtain ⟨lines, columns, leftWellFormed⟩ := wellFormed.foldl_serve before
    have served :
        back =
          (between.foldl Terminal.serve (left.serve .enterAlternate)).serve .leaveAlternate := by
      simp only [back, left, terminal_run, asked, List.foldl_append, List.foldl_cons,
        List.foldl_nil]
    rw [served]
    exact Terminal.sameMain_visit leftWellFormed shown stays

/-- A visit with a history, a blinking cell and a cursor after the last column
at stake. The application erases, scrolls and forgets what it can. -/
theorem screens_apart_visit :
    let console :=
      (blank 2 2 1).run
        [.request (.configure {} false true {}), .text "\x1b[5ma\r\nb\r\ncd".toList]
    let entered := console.receive (.request .enterAlternate)
    let visit : List Input :=
      [.text "\x1b[H\x1b[0mxyz\n\n\x1b[3J\x1b[?25l".toList, .request .takeDamage]
    let inputs : List Input := .request .enterAlternate :: (visit ++ [.request .leaveAlternate])
    let back := (console.run inputs).terminal
    console.Reachable 1 ∧
      (console.terminal.buffer.ring.size, console.terminal.mainBlink.positions) =
        (3, [⟨0, 0⟩, ⟨0, 1⟩, ⟨1, 1⟩]) ∧
      console.runRequests inputs =
        .enterAlternate :: (entered.runRequests visit ++ [.leaveAlternate]) ∧
      (∀ request ∈ entered.runRequests visit, request.staysOnScreen = true) ∧
      console.terminal.cursor = ⟨2, 1⟩ ∧
      (console.terminal.SameMain back ∧ back.onAlternate = false ∧
        back.lines = 2 ∧ back.columns = 2 ∧ back.cursor = ⟨1, 1⟩) ∧
      console.terminal.SameAlternate (console.receive (.char 'e')).terminal := by
  intro console entered visit inputs back
  have reachable : console.Reachable 1 := ⟨2, 2, _, by decide, by decide, rfl⟩
  have seen :
      (console.terminal.buffer.ring.size, console.terminal.mainBlink.positions) =
        (3, [⟨0, 0⟩, ⟨0, 1⟩, ⟨1, 1⟩]) := by decide +kernel
  have asked :
      console.runRequests inputs =
        .enterAlternate :: (entered.runRequests visit ++ [.leaveAlternate]) :=
    congrArg (Request.enterAlternate :: ·) (runRequests_append entered visit _)
  have stays : ∀ request ∈ entered.runRequests visit, request.staysOnScreen = true := by
    decide +kernel
  have cursor : console.terminal.cursor = ⟨2, 1⟩ := by decide +kernel
  have shown : console.terminal.onAlternate = false := by decide +kernel
  have size : console.terminal.lines = 2 ∧ console.terminal.columns = 2 := by decide +kernel
  have visited := (screens_apart reachable).2 inputs [] _ asked shown stays
  rw [List.foldl_nil, cursor, size.1, size.2] at visited
  have wrote := ((screens_apart reachable).1 (.char 'e') rfl (by decide +kernel)).2 shown
    (by decide +kernel)
  exact ⟨reachable, seen, asked, stays, cursor, visited, wrote⟩

end Console

end VideoTerminal
