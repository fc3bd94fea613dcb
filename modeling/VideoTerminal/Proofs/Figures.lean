import VideoTerminal.Proofs.Scrollback

/-!
The figures of a run. The sums among them are the numbers of rows that the ring
may hold: one for each row that is brought to the history, and one for each new
size. The products are sizes in pixels that are reported. A run in machine words
ends as the run without bounds, unless one of them does not fit.
-/

namespace VideoTerminal

/-! ## Calls in words -/

section Calls

variable {Result Other : Type}

theorem inWords_eq_ok_iff {figures : List Figure} {result found : Result} :
    inWords figures result = .ok found ↔
      (∀ figure ∈ figures, figure.Fits) ∧ result = found := by
  unfold inWords
  cases search : figures.find? fun figure => ¬figure.Fits with
  | some figure =>
      have member := List.mem_of_find?_eq_some search
      have tooLarge := List.find?_some search
      rw [decide_eq_true_eq] at tooLarge
      exact ⟨(nomatch ·), fun same => absurd (same.1 figure member) tooLarge⟩
  | none =>
      have allFit : ∀ figure ∈ figures, figure.Fits := by simpa using search
      exact ⟨fun same => ⟨allFit, Except.ok.inj same⟩, fun same => congrArg Except.ok same.2⟩

theorem inWords_of_fits
    {figures : List Figure}
    (fit : ∀ figure ∈ figures, figure.Fits)
    (result : Result) :
    inWords figures result = .ok result :=
  inWords_eq_ok_iff.mpr ⟨fit, rfl⟩

/-- A call after another one stops at the first of the figures of both. -/
theorem inWords_bind
    (figures : List Figure) (result : Result)
    (later : Result → List Figure) (next : Result → Other) :
    (inWords figures result >>= fun found => inWords (later found) (next found)) =
      inWords (figures ++ later result) (next result) := by
  unfold inWords
  rw [List.find?_append]
  cases figures.find? fun figure => ¬figure.Fits with
  | some figure => rfl
  | none => rfl

theorem inWords_bind_pure
    (figures : List Figure) (result : Result) (next : Result → Other) :
    (inWords figures result >>= fun found => pure (next found)) =
      inWords figures (next result) := by
  have bound := inWords_bind figures result (fun _ => []) next
  rwa [List.append_nil] at bound

end Calls

namespace Terminal

variable {lines columns limit : Nat} {terminal : Terminal}

/-! ## Rows brought to the history -/

theorem WellFormed.capacityFigure_eq (wellFormed : terminal.WellFormed lines columns limit) :
    terminal.buffer.capacityFigure = .sum limit lines := by
  rw [ScreenBuffer.capacityFigure, wellFormed.shaped.limit_eq, wellFormed.shaped.lines_eq]

/-- The rows that the ring may hold are counted once for each row that a scroll
brings to the history. -/
theorem WellFormed.scrollFigures_eq
    (wellFormed : terminal.WellFormed lines columns limit)
    (top bottom : Nat) (amount : Int) :
    terminal.scrollFigures top bottom amount =
      List.replicate (terminal.scrollAdvances top bottom amount).length (.sum limit lines) := by
  unfold scrollFigures scrollAdvances
  split
  · rfl
  · dsimp only
    split
    · rw [length_advances, wellFormed.capacityFigure_eq]
    · rfl

/-- A scroll down brings nothing to the history. -/
theorem scrollAdvances_of_not_pos
    {amount : Int}
    (down : amount ≤ 0)
    (top bottom : Nat) :
    terminal.scrollAdvances top bottom amount = [] := by
  unfold scrollAdvances
  split
  · rfl
  · dsimp only
    rw [if_neg]
    omega

theorem WellFormed.indexFigures_eq (wellFormed : terminal.WellFormed lines columns limit) :
    terminal.indexFigures =
      List.replicate terminal.indexAdvances.length (.sum limit lines) := by
  unfold indexFigures indexAdvances
  dsimp only
  split
  · exact wellFormed.scrollFigures_eq _ _ _
  · rfl

theorem WellFormed.wrapFigures_eq (wellFormed : terminal.WellFormed lines columns limit) :
    terminal.wrapFigures = List.replicate terminal.wrapAdvances.length (.sum limit lines) := by
  unfold wrapFigures wrapAdvances
  split
  · rfl
  · split
    · exact (wellFormed.withCursor (Nat.zero_le _) wellFormed.cursor_row).indexFigures_eq
    · rfl

theorem WellFormed.printFigures_eq
    (wellFormed : terminal.WellFormed lines columns limit) (text : List Char) :
    terminal.printFigures text =
      List.replicate (terminal.printAdvances text).length (.sum limit lines) := by
  induction text generalizing terminal with
  | nil => rfl
  | cons char rest inductionHypothesis =>
      rw [printFigures, printAdvances, wellFormed.wrapFigures_eq,
        inductionHypothesis (wellFormed.print char), List.length_append,
        List.replicate_append_replicate]

/-- Ending a line, and going to another column, leaves the figures of a move down
a row. -/
theorem indexFigures_completeLine (terminal : Terminal) (x : Nat) :
    indexFigures
        { terminal.completeLine with cursor := { terminal.completeLine.cursor with x } } =
      terminal.indexFigures := by
  have same := ScreenBuffer.SameCells.completeLine terminal.buffer terminal.cursor.x
    terminal.cursor.y
  have sameFigure :
      terminal.completeLine.buffer.capacityFigure = terminal.buffer.capacityFigure :=
    congrArg₂ Figure.sum same.limit_eq same.lines_eq
  have sameScreen : terminal.completeLine.buffer.onAlternate = terminal.buffer.onAlternate :=
    same.onAlternate_eq
  unfold indexFigures scrollFigures onAlternate
  dsimp only
  rw [sameFigure, sameScreen]
  rfl

theorem WellFormed.performFigures_eq
    (wellFormed : terminal.WellFormed lines columns limit) (function : ControlFunction) :
    terminal.performFigures function =
      List.replicate (terminal.performAdvances function).length (.sum limit lines) := by
  cases function with
  | lineFeed =>
      change terminal.indexFigures = _
      rw [← indexFigures_completeLine]
      exact wellFormed.lineCompleted.indexFigures_eq
  | index => exact wellFormed.indexFigures_eq
  | nextLine =>
      change terminal.indexFigures = _
      rw [← indexFigures_completeLine]
      exact wellFormed.carriageReturn.indexFigures_eq
  | reverseIndex =>
      have nothing : terminal.reverseIndexAdvances = [] := by
        unfold reverseIndexAdvances
        dsimp only
        rw [scrollAdvances_of_not_pos (by decide), ite_self]
      rw [performAdvances, nothing]
      rfl
  | insertLines count =>
      have nothing : terminal.shiftLinesAdvances (-(terminal.clampLines count : Int)) = [] := by
        unfold shiftLinesAdvances
        rw [scrollAdvances_of_not_pos (by omega), ite_self]
      rw [performAdvances, nothing]
      rfl
  | deleteLines count =>
      unfold performFigures performAdvances shiftLinesAdvances
      dsimp only
      split
      · exact wellFormed.scrollFigures_eq _ _ _
      · rfl
  | scrollUp count => exact wellFormed.scrollFigures_eq _ _ _
  | scrollDown count =>
      rw [performAdvances, scrollAdvances_of_not_pos (by omega)]
      rfl
  | _ => rfl

/-- Every request but a new size counts the rows that the ring may hold once for
each row that it brings to the history. -/
theorem WellFormed.serveFigures_eq
    (wellFormed : terminal.WellFormed lines columns limit)
    {request : Request}
    (sameSize : request.isResize = false) :
    terminal.serveFigures request =
      List.replicate (terminal.serveAdvances request).length (.sum limit lines) := by
  cases request with
  | perform function => exact wellFormed.performFigures_eq function
  | print text => exact wellFormed.printFigures_eq text
  | scroll top bottom amount => exact wellFormed.scrollFigures_eq top bottom amount
  | resize newLines newColumns => cases sameSize
  | setPen | configure | markBlink | takeTitle | takeReset | takeEvicted | takeDamage => rfl

theorem resizeFigures_eq (terminal : Terminal) (lines columns : Nat) :
    terminal.resizeFigures lines columns =
      if (terminal.resize? lines columns).isSome then
        [.sum terminal.buffer.historyLimit lines]
      else [] := by
  unfold resizeFigures resize?
  split <;> rfl

/-- The figures of some requests, served one after the other. -/
def figuresIn (terminal : Terminal) : List Request → List Figure
  | [] => []
  | request :: rest => terminal.serveFigures request ++ (terminal.serve request).figuresIn rest

theorem figuresIn_append (terminal : Terminal) (first second : List Request) :
    terminal.figuresIn (first ++ second) =
      terminal.figuresIn first ++ (first.foldl serve terminal).figuresIn second := by
  induction first generalizing terminal with
  | nil => rfl
  | cons request rest inductionHypothesis =>
      rw [List.cons_append, figuresIn, figuresIn, inductionHypothesis, List.append_assoc]
      rfl

theorem WellFormed.figuresIn_eq
    (wellFormed : terminal.WellFormed lines columns limit)
    {requests : List Request}
    (sameSize : ∀ request ∈ requests, request.isResize = false) :
    terminal.figuresIn requests =
      List.replicate (terminal.advancesIn requests).length (.sum limit lines) := by
  induction requests generalizing terminal with
  | nil => rfl
  | cons request rest inductionHypothesis =>
      have here := sameSize request List.mem_cons_self
      have later : ∀ each ∈ rest, each.isResize = false :=
        fun each member => sameSize each (List.mem_cons_of_mem request member)
      rw [figuresIn, advancesIn, wellFormed.serveFigures_eq here,
        inductionHypothesis (wellFormed.serve_of_not_resize here) later, List.length_append,
        List.replicate_append_replicate]

/-! ## Figures without products -/

variable {first second : Nat}

theorem product_not_mem_scrollFigures (terminal : Terminal) (top bottom : Nat) (amount : Int) :
    .product first second ∉ terminal.scrollFigures top bottom amount := by
  unfold scrollFigures
  split
  · exact List.not_mem_nil
  · dsimp only
    split
    · exact fun member => nomatch List.eq_of_mem_replicate member
    · exact List.not_mem_nil

theorem product_not_mem_indexFigures (terminal : Terminal) :
    .product first second ∉ terminal.indexFigures := by
  unfold indexFigures
  dsimp only
  split
  · exact terminal.product_not_mem_scrollFigures _ _ _
  · exact List.not_mem_nil

theorem product_not_mem_printFigures (terminal : Terminal) (text : List Char) :
    .product first second ∉ terminal.printFigures text := by
  induction text generalizing terminal with
  | nil => exact List.not_mem_nil
  | cons char rest inductionHypothesis =>
      rw [printFigures, List.mem_append, not_or]
      refine ⟨?_, inductionHypothesis _⟩
      unfold wrapFigures
      split
      · exact List.not_mem_nil
      · split
        · exact terminal.product_not_mem_indexFigures
        · exact List.not_mem_nil

theorem product_not_mem_performFigures (terminal : Terminal) (function : ControlFunction) :
    .product first second ∉ terminal.performFigures function := by
  unfold performFigures
  split
  · exact terminal.product_not_mem_indexFigures
  · exact terminal.product_not_mem_indexFigures
  · exact terminal.product_not_mem_indexFigures
  · split
    · exact terminal.product_not_mem_scrollFigures _ _ _
    · exact List.not_mem_nil
  · exact terminal.product_not_mem_scrollFigures _ _ _
  · exact List.not_mem_nil

theorem product_not_mem_serveFigures (terminal : Terminal) (request : Request) :
    .product first second ∉ terminal.serveFigures request := by
  cases request with
  | perform function => exact terminal.product_not_mem_performFigures function
  | print text => exact terminal.product_not_mem_printFigures text
  | scroll top bottom amount => exact terminal.product_not_mem_scrollFigures top bottom amount
  | resize lines columns =>
      rw [serveFigures, resizeFigures_eq]
      split
      · exact fun member => nomatch List.mem_singleton.mp member
      · exact List.not_mem_nil
  | setPen | configure | markBlink | takeTitle | takeReset | takeEvicted | takeDamage =>
      exact List.not_mem_nil

end Terminal

namespace Console

variable {lines columns limit first second : Nat} {console : Console}

/-! ## Sums of a run -/

theorem sum_mem_actFigures_iff (action : Action) :
    .sum first second ∈ console.actFigures action ↔
      .sum first second ∈ console.terminal.figuresIn action.requests := by
  have noSum : ∀ function, .sum first second ∉ console.terminal.answerFigures function := by
    intro function member
    unfold Terminal.answerFigures at member
    split at member
    · split at member
      · simp at member
      · cases member
    · cases member
  cases action with
  | perform function | finish function =>
      simp [actFigures, Action.requests, Terminal.figuresIn, Terminal.serveFigures, noSum function]
  | ignore | enter | proceed | collect | abandon => rfl

theorem sum_mem_charFigures_iff (console : Console) (char : Char) :
    .sum first second ∈ console.charFigures char ↔
      .sum first second ∈ console.terminal.figuresIn (console.charRequests char) := by
  unfold charFigures charRequests
  dsimp only
  split
  · rfl
  · rw [Terminal.figuresIn, List.mem_append, List.mem_append, sum_mem_actFigures_iff]
    rfl

theorem sum_mem_textFigures_iff (console : Console) (text : List Char) :
    .sum first second ∈ console.textFigures text ↔
      .sum first second ∈ console.terminal.figuresIn (console.requests (.text text)) := by
  induction text generalizing console with
  | nil => simp [textFigures, requests, textRequests, Terminal.figuresIn, Terminal.serveFigures,
      flushFigures, flushRequest]
  | cons char rest inductionHypothesis =>
      have parted : console.requests (.text (char :: rest)) =
          console.charRequests char ++ (console.advance char).requests (.text rest) :=
        List.append_assoc _ _ _
      rw [textFigures, parted, Terminal.figuresIn_append, ← terminal_advance, List.mem_append,
        List.mem_append, sum_mem_charFigures_iff, inductionHypothesis]

theorem sum_mem_receiveFigures_iff (console : Console) (input : Input) :
    .sum first second ∈ console.receiveFigures input ↔
      .sum first second ∈ console.terminal.figuresIn (console.requests input) := by
  cases input with
  | text chars => exact sum_mem_textFigures_iff console chars
  | char char => exact sum_mem_charFigures_iff console char
  | flush | abort => simp [receiveFigures, requests, Terminal.figuresIn, flushFigures,
      flushRequest, Terminal.serveFigures]
  | request request =>
      cases request with
      | resize lines columns =>
          rw [receiveFigures, Terminal.serveFigures, requests, Terminal.resizeFigures_eq]
          split
          · next accepted =>
              rw [Terminal.figuresIn, Terminal.serveFigures, Terminal.resizeFigures_eq,
                if_pos accepted]
              rfl
          · rfl
      | perform | print | scroll | setPen | configure | markBlink | takeTitle | takeReset
      | takeEvicted | takeDamage => simp [receiveFigures, requests, Terminal.figuresIn]

/-- The sums of a run are those of the requests that it makes. -/
theorem sum_mem_runFigures_iff (console : Console) (inputs : List Input) :
    .sum first second ∈ console.runFigures inputs ↔
      .sum first second ∈ console.terminal.figuresIn (console.runRequests inputs) := by
  induction inputs generalizing console with
  | nil => rfl
  | cons input rest inductionHypothesis =>
      rw [runFigures, runRequests, Terminal.figuresIn_append, ← terminal_receive, List.mem_append,
        List.mem_append, sum_mem_receiveFigures_iff, inductionHypothesis]

/-- A run that leaves the size of the screen alone counts the rows that the ring
may hold once for each row that it brings to the history. -/
theorem sum_mem_runFigures_of_not_resize
    (wellFormed : console.terminal.WellFormed lines columns limit)
    {inputs : List Input}
    (sameSize : ∀ request ∈ console.runRequests inputs, request.isResize = false) :
    .sum first second ∈ console.runFigures inputs ↔
      console.terminal.advancesIn (console.runRequests inputs) ≠ [] ∧
        first = limit ∧ second = lines := by
  rw [sum_mem_runFigures_iff, wellFormed.figuresIn_eq sameSize, List.mem_replicate,
    ne_eq, List.length_eq_zero_iff, Figure.sum.injEq]

/-- A step leaves the height of the screen alone, unless it asks for another. -/
theorem receive_wellFormed_height
    (wellFormed : console.terminal.WellFormed lines columns limit) (input : Input) :
    ∃ height width,
      (console.receive input).terminal.WellFormed height width limit ∧
        (height = lines ∨ ∃ asked, input = .request (.resize height asked)) := by
  cases input with
  | text chars => exact ⟨lines, columns, feed_wellFormed wellFormed chars, .inl rfl⟩
  | char char => exact ⟨lines, columns, advance_wellFormed wellFormed char, .inl rfl⟩
  | flush | abort => exact ⟨lines, columns, flush_wellFormed wellFormed, .inl rfl⟩
  | request request =>
      have served :
          (console.receive (.request request)).terminal = console.terminal.serve request := rfl
      rw [served]
      cases request with
      | resize newLines newColumns =>
          rcases wellFormed.serve_resize newLines newColumns with same | other
          · exact ⟨lines, columns, same, .inl rfl⟩
          · exact ⟨newLines, newColumns, other, .inr ⟨newColumns, rfl⟩⟩
      | perform | print | scroll | setPen | configure | markBlink | takeTitle | takeReset
      | takeEvicted | takeDamage =>
          exact ⟨lines, columns, wellFormed.serve_of_not_resize rfl, .inl rfl⟩

/-- The sums of a step are those of the limit with the height of the screen, or
with the height that is asked for. -/
theorem sum_of_mem_receiveFigures
    (wellFormed : console.terminal.WellFormed lines columns limit)
    {input : Input}
    (member : .sum first second ∈ console.receiveFigures input) :
    first = limit ∧
      (second = lines ∨ ∃ newColumns, input = .request (.resize second newColumns)) := by
  -- A refused size asks the terminal for nothing, so that the requests alone do not tell a size
  -- from the rest.
  by_cases resizes : ∃ newLines newColumns, input = .request (.resize newLines newColumns)
  · obtain ⟨newLines, newColumns, rfl⟩ := resizes
    rw [receiveFigures, Terminal.serveFigures, Terminal.resizeFigures_eq] at member
    split at member
    · obtain ⟨firstEq, secondEq⟩ := Figure.sum.inj (List.mem_singleton.mp member)
      rw [firstEq, secondEq, wellFormed.shaped.limit_eq]
      exact ⟨rfl, .inr ⟨newColumns, rfl⟩⟩
    · cases member
  · have sameSize : ∀ request ∈ console.requests input, request.isResize = false := by
      intro request asked
      rcases mem_requests asked with rfl | ⟨text, rfl⟩ | ⟨function, rfl⟩
      · cases request with
        | resize newLines newColumns => exact absurd ⟨newLines, newColumns, rfl⟩ resizes
        | _ => rfl
      · rfl
      · rfl
    rw [sum_mem_receiveFigures_iff, wellFormed.figuresIn_eq sameSize] at member
    obtain ⟨firstEq, secondEq⟩ := Figure.sum.inj (List.eq_of_mem_replicate member)
    exact ⟨firstEq, .inl secondEq⟩

/-- The sums of a run are those of the limit with the heights that the screen
has on the way. -/
theorem sum_of_mem_runFigures
    (wellFormed : console.terminal.WellFormed lines columns limit)
    {inputs : List Input}
    (member : .sum first second ∈ console.runFigures inputs) :
    first = limit ∧
      (second = lines ∨ ∃ newColumns, .request (.resize second newColumns) ∈ inputs) := by
  induction inputs generalizing console lines columns with
  | nil => cases member
  | cons input rest inductionHypothesis =>
      rcases List.mem_append.mp member with here | later
      · obtain ⟨firstEq, height⟩ := sum_of_mem_receiveFigures wellFormed here
        refine ⟨firstEq, height.imp_right ?_⟩
        rintro ⟨newColumns, rfl⟩
        exact ⟨newColumns, List.mem_cons_self⟩
      · -- a later sum is that of the height after this step, which is the one before or asked for
        obtain ⟨height, width, received, heightOf⟩ := receive_wellFormed_height wellFormed input
        obtain ⟨firstEq, place⟩ := inductionHypothesis received later
        refine ⟨firstEq, ?_⟩
        rcases place with rfl | ⟨newColumns, asked⟩
        · refine heightOf.imp_right ?_
          rintro ⟨newColumns, rfl⟩
          exact ⟨newColumns, List.mem_cons_self⟩
        · exact .inr ⟨newColumns, List.mem_cons_of_mem input asked⟩

/-! ## Products of a run -/

theorem product_mem_actFigures
    {action : Action}
    (member : .product first second ∈ console.actFigures action) :
    ∃ question, .perform (.reportWindow question) ∈ action.requests := by
  have asked :
      ∀ function,
        .product first second ∈
            console.terminal.answerFigures function ++ console.terminal.performFigures function →
          ∃ question, function = .reportWindow question := by
    intro function here
    rcases List.mem_append.mp here with reported | performed
    · unfold Terminal.answerFigures at reported
      split at reported
      · exact ⟨_, rfl⟩
      · cases reported
    · exact absurd performed (console.terminal.product_not_mem_performFigures function)
  cases action with
  | perform function | finish function =>
      obtain ⟨question, rfl⟩ := asked function member
      exact ⟨question, List.mem_singleton_self _⟩
  | ignore | enter | proceed | collect | abandon => cases member

theorem product_mem_charFigures
    {char : Char}
    (member : .product first second ∈ console.charFigures char) :
    ∃ question, .perform (.reportWindow question) ∈ console.charRequests char := by
  unfold charFigures at member
  unfold charRequests
  dsimp only at member ⊢
  split at member
  · cases member
  · next acted =>
      rw [if_neg acted]
      rcases List.mem_append.mp member with written | done
      · exact absurd written (console.terminal.product_not_mem_printFigures _)
      · obtain ⟨question, asked⟩ := product_mem_actFigures done
        exact ⟨question, List.mem_cons_of_mem _ asked⟩

theorem product_mem_textFigures
    {text : List Char}
    (member : .product first second ∈ console.textFigures text) :
    ∃ question, .perform (.reportWindow question) ∈ console.textRequests text := by
  induction text generalizing console with
  | nil => exact absurd member (console.terminal.product_not_mem_printFigures _)
  | cons char rest inductionHypothesis =>
      rcases List.mem_append.mp member with here | later
      · obtain ⟨question, asked⟩ := product_mem_charFigures here
        exact ⟨question, List.mem_append_left _ asked⟩
      · obtain ⟨question, asked⟩ := inductionHypothesis later
        exact ⟨question, List.mem_append_right _ asked⟩

theorem product_mem_receiveFigures
    {input : Input}
    (member : .product first second ∈ console.receiveFigures input) :
    ∃ question, .perform (.reportWindow question) ∈ console.requests input := by
  cases input with
  | text chars =>
      obtain ⟨question, asked⟩ := product_mem_textFigures member
      exact ⟨question, List.mem_append_left _ asked⟩
  | char char => exact product_mem_charFigures member
  | flush | abort => exact absurd member (console.terminal.product_not_mem_printFigures _)
  | request request => exact absurd member (console.terminal.product_not_mem_serveFigures request)

/-- The products of a run are those of the reports on the window that are asked
for. -/
theorem product_mem_runFigures
    {inputs : List Input}
    (member : .product first second ∈ console.runFigures inputs) :
    ∃ question, .perform (.reportWindow question) ∈ console.runRequests inputs := by
  induction inputs generalizing console with
  | nil => cases member
  | cons input rest inductionHypothesis =>
      rcases List.mem_append.mp member with here | later
      · obtain ⟨question, asked⟩ := product_mem_receiveFigures here
        exact ⟨question, List.mem_append_left _ asked⟩
      · obtain ⟨question, asked⟩ := inductionHypothesis later
        exact ⟨question, List.mem_append_right _ asked⟩

/-! ## Runs in words -/

theorem runFigures_append (console : Console) (first second : List Input) :
    console.runFigures (first ++ second) =
      console.runFigures first ++ (console.run first).runFigures second := by
  induction first generalizing console with
  | nil => rfl
  | cons input rest inductionHypothesis =>
      rw [List.cons_append, runFigures, runFigures, inductionHypothesis, List.append_assoc]
      rfl

theorem runInWords_eq (console : Console) (inputs : List Input) :
    console.runInWords inputs = inWords (console.runFigures inputs) (console.run inputs) := by
  induction inputs generalizing console with
  | nil => rfl
  | cons input rest inductionHypothesis =>
      have step :
          console.runInWords (input :: rest) =
            (console.receiveInWords input >>= fun received => received.runInWords rest) :=
        List.foldlM_cons
      rw [step, funext inductionHypothesis, receiveInWords,
        inWords_bind]
      rfl

/-- A run in words that ends is the run without bounds. -/
theorem runInWords_eq_ok_iff {console found : Console} {inputs : List Input} :
    console.runInWords inputs = .ok found ↔
      (∀ figure ∈ console.runFigures inputs, figure.Fits) ∧ console.run inputs = found := by
  rw [runInWords_eq, inWords_eq_ok_iff]

/-- The sizes in pixels that a run reports fit in a word. -/
def ReportsFit (console : Console) (inputs : List Input) : Prop :=
  ∀ first second,
    .product first second ∈ console.runFigures inputs → (Figure.product first second).Fits

theorem reportsFit_of_not_asked
    {inputs : List Input}
    (notAsked : ∀ question, .perform (.reportWindow question) ∉ console.runRequests inputs) :
    console.ReportsFit inputs := by
  intro first second member
  obtain ⟨question, asked⟩ := product_mem_runFigures member
  exact absurd asked (notAsked question)

/-- A run in words ends if the rows that the ring may hold at the greatest height
can be counted, and the sizes in pixels that are reported fit. -/
theorem figures_fit_of_height
    (wellFormed : console.terminal.WellFormed lines columns limit)
    {inputs : List Input} {most : Nat}
    (high : lines ≤ most)
    (highest : ∀ height width, .request (.resize height width) ∈ inputs → height ≤ most)
    (fits : limit + most < Text.wordSize)
    (reports : console.ReportsFit inputs) :
    ∀ figure ∈ console.runFigures inputs, figure.Fits := by
  intro figure member
  cases figure with
  | product first second => exact reports first second member
  | sum first second =>
      obtain ⟨rfl, place⟩ := sum_of_mem_runFigures wellFormed member
      have atMost : second ≤ most := by
        rcases place with rfl | ⟨newColumns, asked⟩
        · exact high
        · exact highest second newColumns asked
      exact Nat.lt_of_le_of_lt (Nat.add_le_add_left atMost _) fits

/-- A run that leaves the size of the screen alone ends in words unless it
brings a row to the history and the rows of the ring cannot be counted, or a
reported size does not fit. -/
theorem figures_fit_iff_of_not_resize
    (wellFormed : console.terminal.WellFormed lines columns limit)
    {inputs : List Input}
    (sameSize : ∀ request ∈ console.runRequests inputs, request.isResize = false) :
    (∀ figure ∈ console.runFigures inputs, figure.Fits) ↔
      (console.terminal.advancesIn (console.runRequests inputs) = [] ∨
          limit + lines < Text.wordSize) ∧
        console.ReportsFit inputs := by
  constructor
  · intro fit
    refine ⟨or_iff_not_imp_left.mpr fun some => ?_, fun first second => fit _⟩
    exact fit (.sum limit lines)
      ((sum_mem_runFigures_of_not_resize wellFormed sameSize).mpr ⟨some, rfl, rfl⟩)
  · rintro ⟨room, reports⟩ figure member
    cases figure with
    | product first second => exact reports first second member
    | sum first second =>
        obtain ⟨some, rfl, rfl⟩ := (sum_mem_runFigures_of_not_resize wellFormed sameSize).mp member
        exact room.resolve_left some

/-- A new size is given in words unless it is another one and the rows that the
ring may hold at it cannot be counted. -/
theorem figures_fit_resize_iff
    {newLines newColumns : Nat}
    (wellFormed : console.terminal.WellFormed lines columns limit)
    (newLinesPositive : 0 < newLines)
    (newColumnsPositive : 0 < newColumns) :
    (∀ figure ∈ console.runFigures [.request (.resize newLines newColumns)], figure.Fits) ↔
      (newLines = lines ∧ newColumns = columns) ∨ limit + newLines < Text.wordSize := by
  rw [runFigures, runFigures, List.append_nil, receiveFigures, Terminal.serveFigures,
    Terminal.resizeFigures, wellFormed.lines_eq, wellFormed.columns_eq]
  split
  · next refused =>
      have same : newLines = lines ∧ newColumns = columns := by omega
      exact iff_of_true (fun _ member => nomatch member) (.inl same)
  · next accepted =>
      have other : ¬(newLines = lines ∧ newColumns = columns) := by omega
      rw [List.forall_mem_singleton, ScreenBuffer.resizeFigure, wellFormed.shaped.limit_eq,
        or_iff_right other]
      rfl

/-- A size that is accepted is given in words if the rows that the ring may hold
at it can be counted. -/
theorem receiveInWords_resize
    {newLines newColumns : Nat} {resized : Terminal}
    (wellFormed : console.terminal.WellFormed lines columns limit)
    (accepted : console.terminal.resize? newLines newColumns = some resized)
    (fits : limit + newLines < Text.wordSize) :
    console.receiveInWords (.request (.resize newLines newColumns)) =
      .ok { console with terminal := resized } := by
  have received :
      console.receive (.request (.resize newLines newColumns)) =
        { console with terminal := resized } := by
    simp only [receive, Terminal.serve, accepted, Option.getD_some]
  rw [receiveInWords, received]
  apply inWords_of_fits
  intro figure member
  rw [receiveFigures, Terminal.serveFigures, Terminal.resizeFigures_eq, accepted,
    Option.isSome_some, if_pos rfl, wellFormed.shaped.limit_eq] at member
  rw [List.mem_singleton.mp member]
  exact fits

/-! ## The history after a run in words -/

/-- While a run leaves the history where it is, the history is only added to,
and gives up its oldest rows for want of room. In words the run ends unless a
row goes to the history and the rows that the ring may hold cannot be counted, or
a reported size does not fit. -/
theorem historyCells_runInWords
    (reachable : console.Reachable limit)
    {inputs : List Input}
    (leave : ∀ request ∈ console.runRequests inputs, request.leavesHistory = true) :
    let before := console.terminal
    let after := (console.run inputs).terminal
    let moments := before.advancesIn (console.runRequests inputs)
    let risen := moments.map Terminal.topCells
    let lost := after.evicted - before.evicted
    ((∀ moment ∈ moments, moment.onAlternate = false) ∧
        before.evicted ≤ after.evicted ∧
        lost ≤ before.buffer.historyCells.length + risen.length ∧
        after.buffer.historyCells = (before.buffer.historyCells ++ risen).drop lost ∧
        before.buffer.historyCells.drop lost <+: after.buffer.historyCells ∧
        (0 < lost → after.buffer.ring.size = limit + after.lines)) ∧
      ∀ found, console.runInWords inputs = .ok found ↔
        ((moments = [] ∨ limit + before.lines < Text.wordSize) ∧ console.ReportsFit inputs) ∧
          console.run inputs = found := by
  intro before after moments risen lost
  refine ⟨historyCells_run reachable leave, ?_⟩
  intro found
  have sameSize : ∀ request ∈ console.runRequests inputs, request.isResize = false :=
    fun request asked => Terminal.Request.isResize_of_leavesHistory (leave request asked)
  rw [runInWords_eq_ok_iff, figures_fit_iff_of_not_resize reachable.wellFormed sameSize]

/-- Two rows are scrolled off the screen, one of them from a wrapped line; the
history has room for only one more. -/
theorem historyCells_runInWords_full :
    let console := (blank 2 2 2).run [.text "a\r\nb\r\nc".toList]
    let inputs := [.text "de\x1b[?1049h\nfg\x1b[?1049l\nh".toList, .request .takeDamage]
    let before := console.terminal
    let after := (console.run inputs).terminal
    let moments := before.advancesIn (console.runRequests inputs)
    let risen := moments.map Terminal.topCells
    let lost := after.evicted - before.evicted
    console.Reachable 2 ∧
      (∀ request ∈ console.runRequests inputs, request.leavesHistory = true) ∧
      (before.buffer.historyCells.map (·.map Cell.char), risen.map (·.map Cell.char), lost) =
        ([['a', ' ']], [['b', ' '], ['c', 'd']], 1) ∧
      ((∀ moment ∈ moments, moment.onAlternate = false) ∧
        before.evicted ≤ after.evicted ∧
        lost ≤ before.buffer.historyCells.length + risen.length ∧
        after.buffer.historyCells = (before.buffer.historyCells ++ risen).drop lost ∧
        before.buffer.historyCells.drop lost <+: after.buffer.historyCells ∧
        (0 < lost → after.buffer.ring.size = 2 + after.lines)) ∧
      console.runInWords inputs = .ok (console.run inputs) := by
  intro console inputs before after moments risen lost
  have reachable : console.Reachable 2 := ⟨2, 2, _, by decide, by decide, rfl⟩
  have leave : ∀ request ∈ console.runRequests inputs, request.leavesHistory = true := by
    decide +kernel
  have seen :
      (before.buffer.historyCells.map (·.map Cell.char), risen.map (·.map Cell.char), lost) =
        ([['a', ' ']], [['b', ' '], ['c', 'd']], 1) := by decide +kernel
  have figures : console.runFigures inputs = [.sum 2 2, .sum 2 2] := by decide +kernel
  have reports : console.ReportsFit inputs := by
    intro first second member
    rw [figures] at member
    simp at member
  obtain ⟨history, ends⟩ := historyCells_runInWords reachable leave
  have room : 2 + before.lines < Text.wordSize := by decide +kernel
  exact ⟨reachable, leave, seen, history, (ends _).mpr ⟨⟨.inr room, reports⟩, rfl⟩⟩

/-- With the greatest limit, the first row for the history stops the program. -/
theorem historyCells_run_stops_at_greatest_limit :
    let console := (blank 2 1 (Text.wordSize - 1)).run [.text "a\r\nb".toList]
    let inputs := [.text "\r\nc".toList]
    (blank 2 1 (Text.wordSize - 1)).runInWords [.text "a\r\nb".toList] = .ok console ∧
      console.Reachable (Text.wordSize - 1) ∧
      (∀ request ∈ console.runRequests inputs, request.leavesHistory = true) ∧
      console.runInWords inputs = .error (.sum (Text.wordSize - 1) 2) := by
  intro console inputs
  have none : (blank 2 1 (Text.wordSize - 1)).runFigures [.text "a\r\nb".toList] = [] := by
    decide +kernel
  have figures : console.runFigures inputs = [.sum (Text.wordSize - 1) 2] := by decide +kernel
  refine ⟨?_, ⟨2, 1, _, by decide, by decide, rfl⟩, by decide +kernel, ?_⟩
  · rw [runInWords_eq, none]
    rfl
  · rw [runInWords_eq, figures]
    rfl

end Console

end VideoTerminal
