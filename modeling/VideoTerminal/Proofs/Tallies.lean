import VideoTerminal.Proofs.Following
import VideoTerminal.Proofs.Resetting

/-!
What a session is told after every piece of text, and what it would be told
after all of them. It makes no difference to a terminal whether its session has
been told already: the rows lost add up over the pieces, until a reset, which
is told of in any case.
-/

namespace VideoTerminal

namespace Terminal

variable {first second : Terminal}

/-! ## As many rows leave the screen -/

theorem length_scrollAdvances_eq (terminal : Terminal) (top bottom : Nat) (amount : Int) :
    (terminal.scrollAdvances top bottom amount).length =
      if amount = 0 ∨ top > bottom ∨ bottom ≥ terminal.lines then 0
      else
        let height : Int := (bottom - top + 1 : Nat)
        let amount := max (-height) (min amount height)
        let whole := !terminal.onAlternate && top == 0 && bottom == terminal.lines - 1
        if whole ∧ amount > 0 then amount.toNat else 0 := by
  unfold scrollAdvances
  by_cases nothing : amount = 0 ∨ top > bottom ∨ bottom ≥ terminal.lines
  · rw [if_pos nothing, if_pos nothing, List.length_nil]
  · rw [if_neg nothing, if_neg nothing]
    extract_lets height clamped whole
    by_cases rises : whole ∧ clamped > 0
    · rw [if_pos rises, if_pos rises, length_advances]
    · rw [if_neg rises, if_neg rises, List.length_nil]

namespace Agrees

theorem buffer_eq (agree : first.Agrees second) : second.buffer = first.buffer := by
  obtain ⟨evicted, wasReset, titleChanged, rfl⟩ := agree
  rfl

theorem perform (agree : first.Agrees second) (function : ControlFunction) :
    (first.perform function).Agrees (second.perform function) :=
  agrees_iff.mpr ((agrees_iff.mp agree).perform function)

theorem print (agree : first.Agrees second) (char : Char) :
    (first.print char).Agrees (second.print char) :=
  agrees_iff.mpr ((agrees_iff.mp agree).print char)

theorem printAll (agree : first.Agrees second) (text : List Char) :
    (first.printAll text).Agrees (second.printAll text) :=
  agrees_iff.mpr ((agrees_iff.mp agree).printAll text)

theorem length_scrollAdvances (agree : first.Agrees second) (top bottom : Nat) (amount : Int) :
    (second.scrollAdvances top bottom amount).length =
      (first.scrollAdvances top bottom amount).length := by
  rw [length_scrollAdvances_eq, length_scrollAdvances_eq]
  obtain ⟨evicted, wasReset, titleChanged, rfl⟩ := agree
  rfl

theorem length_indexAdvances (agree : first.Agrees second) :
    second.indexAdvances.length = first.indexAdvances.length := by
  have scrolled := agree.length_scrollAdvances first.margins.top first.margins.bottom 1
  obtain ⟨evicted, wasReset, titleChanged, rfl⟩ := agree
  unfold indexAdvances
  dsimp only
  split
  · exact scrolled
  · rfl

theorem length_reverseIndexAdvances (agree : first.Agrees second) :
    second.reverseIndexAdvances.length = first.reverseIndexAdvances.length := by
  have scrolled := agree.length_scrollAdvances first.margins.top first.margins.bottom (-1)
  obtain ⟨evicted, wasReset, titleChanged, rfl⟩ := agree
  unfold reverseIndexAdvances
  dsimp only
  split
  · exact scrolled
  · rfl

theorem length_shiftLinesAdvances (agree : first.Agrees second) (amount : Int) :
    (second.shiftLinesAdvances amount).length = (first.shiftLinesAdvances amount).length := by
  have scrolled := agree.length_scrollAdvances first.cursor.y first.margins.bottom amount
  obtain ⟨evicted, wasReset, titleChanged, rfl⟩ := agree
  unfold shiftLinesAdvances insideMargins
  dsimp only
  split
  · exact scrolled
  · rfl

theorem length_performAdvances (agree : first.Agrees second) (function : ControlFunction) :
    (second.performAdvances function).length = (first.performAdvances function).length := by
  cases function with
  | lineFeed =>
      have completed : first.lineCompleted.Agrees second.lineCompleted := by
        obtain ⟨evicted, wasReset, titleChanged, rfl⟩ := agree
        exact ⟨_, _, _, rfl⟩
      exact completed.length_indexAdvances
  | index => exact agree.length_indexAdvances
  | nextLine =>
      have returned : first.carriageReturn.Agrees second.carriageReturn :=
        agree.perform .carriageReturn
      exact returned.length_indexAdvances
  | reverseIndex => exact agree.length_reverseIndexAdvances
  | insertLines | deleteLines =>
      have between := agree
      obtain ⟨evicted, wasReset, titleChanged, rfl⟩ := agree
      exact between.length_shiftLinesAdvances _
  | scrollUp | scrollDown =>
      have between := agree
      obtain ⟨evicted, wasReset, titleChanged, rfl⟩ := agree
      exact between.length_scrollAdvances _ _ _
  | _ => rfl

theorem length_wrapAdvances (agree : first.Agrees second) :
    second.wrapAdvances.length = first.wrapAdvances.length := by
  obtain ⟨evicted, wasReset, titleChanged, rfl⟩ := agree
  unfold wrapAdvances
  dsimp only
  split
  · rfl
  · split
    · exact length_indexAdvances ⟨_, _, _, rfl⟩
    · rfl

theorem length_printAdvances (agree : first.Agrees second) (text : List Char) :
    (second.printAdvances text).length = (first.printAdvances text).length := by
  induction text generalizing first second with
  | nil => rfl
  | cons char rest inductionHypothesis =>
      rw [printAdvances, printAdvances, List.length_append, List.length_append,
        agree.length_wrapAdvances, inductionHypothesis (agree.print char)]

theorem forgottenBy_eq (agree : first.Agrees second) (request : Request) :
    second.forgottenBy request = first.forgottenBy request := by
  obtain ⟨evicted, wasReset, titleChanged, rfl⟩ := agree
  unfold forgottenBy
  split <;> rfl

end Agrees

/-! ## Told now or later -/

/-- The terminals do the same from now on, the second one with `owed` lost rows
more to tell of. A reset makes that up. -/
structure Owes (owed : Nat) (first second : Terminal) : Prop where
  agrees : first.Agrees second
  wasReset_eq : second.wasReset = first.wasReset
  evicted_eq : first.wasReset = false → second.evicted = first.evicted + owed

namespace Owes

variable {lines columns limit owed : Nat}

theorem wellFormed
    (owes : first.Owes owed second) (wellFormed : first.WellFormed lines columns limit) :
    second.WellFormed lines columns limit := by
  obtain ⟨evicted, wasReset, titleChanged, rfl⟩ := owes.agrees
  exact { wellFormed with }

/-- A request that keeps account of the rows adds as many to what both of them
have to tell. -/
theorem serve
    (owes : first.Owes owed second)
    (firstWellFormed : first.WellFormed lines columns limit)
    {request : Request}
    (keeps : request.keepsAccount)
    (agree : (first.serve request).Agrees (second.serve request))
    (sameAdvances :
      (second.serveAdvances request).length = (first.serveAdvances request).length)
    (kept : ∀ terminal : Terminal,
      terminal.wasReset = true → (terminal.serve request).wasReset = true) :
    (first.serve request).Owes owed (second.serve request) := by
  have accounts := Accounts.serve firstWellFormed keeps
  have others := Accounts.serve (owes.wellFormed firstWellFormed) keeps
  rw [sameAdvances, owes.agrees.forgottenBy_eq] at others
  refine ⟨agree, ?_, fun notReset => ?_⟩
  · have before : (first.serve request).wasReset = first.wasReset :=
      Bool.eq_iff_iff.mpr ⟨accounts.wasReset_of, kept first⟩
    have after : (second.serve request).wasReset = second.wasReset :=
      Bool.eq_iff_iff.mpr ⟨others.wasReset_of, kept second⟩
    rw [after, owes.wasReset_eq, before]
  · have start : second.evicted = first.evicted + owed := by
      apply owes.evicted_eq
      rw [← Bool.not_eq_true]
      intro reset
      exact Bool.false_ne_true (notReset.symm.trans (kept first reset))
    have sameSize : second.buffer.ring.size = first.buffer.ring.size := by
      rw [owes.agrees.buffer_eq]
    have stillSameSize :
        (second.serve request).buffer.ring.size = (first.serve request).buffer.ring.size := by
      rw [agree.buffer_eq]
    have grown := accounts.evicted_le
    have otherGrown := others.evicted_le
    have size := accounts.size_eq
    have otherSize := others.size_eq
    omega

theorem perform
    (owes : first.Owes owed second)
    (wellFormed : first.WellFormed lines columns limit)
    (function : ControlFunction) :
    (first.perform function).Owes owed (second.perform function) := by
  have agree := owes.agrees.perform function
  by_cases replaces : (Request.perform function).replacesRows = true
  · obtain rfl : function = .reset := by
      unfold Request.replacesRows at replaces
      split at replaces <;> simp_all
    exact ⟨agree, rfl, fun notReset => nomatch notReset⟩
  · exact owes.serve wellFormed
      (Request.keepsAccount_perform (Bool.eq_false_iff.mpr replaces)) agree
      (owes.agrees.length_performAdvances function)
      fun terminal => (KeepsSettings.perform terminal function).wasReset_of

theorem printAll
    (owes : first.Owes owed second)
    (wellFormed : first.WellFormed lines columns limit)
    (text : List Char) :
    (first.printAll text).Owes owed (second.printAll text) := by
  have keeps : (Request.print text).keepsAccount := Or.inl rfl
  exact owes.serve wellFormed keeps (owes.agrees.printAll text)
    (owes.agrees.length_printAdvances text)
    fun terminal => (KeepsSettings.printAll terminal text).wasReset_of

/-- What holds for one request of a text holds for all of them. -/
theorem foldl_serve
    (owes : first.Owes owed second)
    (wellFormed : first.WellFormed lines columns limit)
    {requests : List Request}
    (written : ∀ request ∈ requests,
      (∃ text, request = .print text) ∨ ∃ function, request = .perform function) :
    (requests.foldl Terminal.serve first).Owes owed (requests.foldl Terminal.serve second) := by
  induction requests generalizing first second lines columns with
  | nil => exact owes
  | cons request rest inductionHypothesis =>
      obtain ⟨newLines, newColumns, served⟩ := wellFormed.serve request
      refine inductionHypothesis ?_ served fun each member =>
        written each (List.mem_cons_of_mem request member)
      rcases written request List.mem_cons_self with ⟨text, rfl⟩ | ⟨function, rfl⟩
      · exact owes.printAll wellFormed text
      · exact owes.perform wellFormed function

end Owes

end Terminal

namespace Console

variable {first second : Console}

/-! ## A text after another one -/

theorem textRequests_of_interpreter
    (same : second.interpreter = first.interpreter) (text : List Char) :
    second.textRequests text = first.textRequests text := by
  induction text generalizing first second with
  | nil => rfl
  | cons char rest inductionHypothesis =>
      have here : second.charRequests char = first.charRequests char := by
        rw [charRequests, charRequests, flushRequest, flushRequest, same]
      rw [textRequests, textRequests, here, inductionHypothesis (interpreter_advance same char)]

/-- What text asks of the terminal depends on the reading of the stream only. -/
theorem requests_text_of_interpreter
    (same : second.interpreter = first.interpreter) (text : List Char) :
    second.requests (.text text) = first.requests (.text text) := by
  rw [requests, requests, textRequests_of_interpreter same, flushRequest, flushRequest,
    interpreter_foldl_advance same]

/-- The rows lost in a text are the same whether or not those lost before have
been told of. -/
theorem owes_feed_settled
    {lines columns limit : Nat} {console : Console}
    (wellFormed : console.terminal.WellFormed lines columns limit)
    (notReset : console.terminal.wasReset = false)
    (text : List Char) :
    (console.settled.feed text).terminal.Owes console.terminal.evicted
      (console.feed text).terminal := by
  have owes : console.settled.terminal.Owes console.terminal.evicted console.terminal :=
    ⟨⟨_, _, _, rfl⟩, notReset, fun _ => (Nat.zero_add _).symm⟩
  have sameRequests : console.requests (.text text) = console.settled.requests (.text text) :=
    requests_text_of_interpreter (show console.interpreter = console.settled.interpreter from rfl)
      text
  have served := terminal_receive console (.text text)
  have otherServed := terminal_receive console.settled (.text text)
  change (console.feed text).terminal = _ at served
  change (console.settled.feed text).terminal = _ at otherServed
  have settledWellFormed : console.settled.terminal.WellFormed lines columns limit :=
    { wellFormed with }
  rw [served, otherServed, sameRequests]
  refine owes.foldl_serve settledWellFormed fun request member => ?_
  rcases mem_requests member with asked | known
  · cases asked
  · exact known

/-- A reset is told of however much is read after it. -/
theorem wasReset_feed
    {console : Console}
    (reset : console.terminal.wasReset = true)
    (text : List Char) :
    (console.feed text).terminal.wasReset = true :=
  (Terminal.KeepsSettings.feed console text).wasReset_of reset

end Console

end VideoTerminal
