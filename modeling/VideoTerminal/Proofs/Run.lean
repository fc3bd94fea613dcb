import VideoTerminal.Console.Input
import VideoTerminal.Proofs.WellFormed

/-!
Runs: a console reads text, and whoever owns its terminal asks things of it in
between. Whatever the order, the terminal stays well-formed.
-/

namespace VideoTerminal

namespace Terminal

variable {lines columns limit : Nat} {terminal : Terminal}

/-- The request is for another size. -/
def Request.isResize : Request → Bool
  | .resize _ _ => true
  | _ => false

/-- Whatever is asked but a new size leaves the terminal well-formed for the
size it has. -/
theorem WellFormed.serve_of_not_resize
    (wellFormed : terminal.WellFormed lines columns limit)
    {request : Request}
    (sameSize : request.isResize = false) :
    (terminal.serve request).WellFormed lines columns limit := by
  cases request with
  | perform function => exact wellFormed.perform function
  | print text => exact wellFormed.printAll text
  | scroll top bottom amount => exact wellFormed.scroll top bottom amount
  | resize newLines newColumns => cases sameSize
  | setPen pen => exact wellFormed.withPen pen
  | markBlink => exact wellFormed.markBlink
  | takeDamage => exact wellFormed.takeDamage
  | configure | takeTitle | takeReset | takeEvicted => exact { wellFormed with }

theorem WellFormed.serve_resize
    (wellFormed : terminal.WellFormed lines columns limit) (newLines newColumns : Nat) :
    (terminal.serve (.resize newLines newColumns)).WellFormed lines columns limit ∨
      (terminal.serve (.resize newLines newColumns)).WellFormed newLines newColumns limit := by
  cases accepted : terminal.resize? newLines newColumns with
  | none => exact .inl (by simpa [Terminal.serve, accepted] using wellFormed)
  | some resized =>
      exact .inr (by simpa [Terminal.serve, accepted] using wellFormed.resize accepted)

/-- Only a new size makes another screen; the limit of the history stays. -/
theorem WellFormed.serve
    (wellFormed : terminal.WellFormed lines columns limit) (request : Request) :
    ∃ newLines newColumns,
      (terminal.serve request).WellFormed newLines newColumns limit := by
  cases request with
  | resize newLines newColumns =>
      rcases wellFormed.serve_resize newLines newColumns with same | other
      · exact ⟨lines, columns, same⟩
      · exact ⟨newLines, newColumns, other⟩
  | perform | print | scroll | setPen | configure | markBlink | takeTitle | takeReset
  | takeEvicted | takeDamage =>
      exact ⟨lines, columns, wellFormed.serve_of_not_resize rfl⟩

end Terminal

namespace Console

/-- The console is found at the end of a run that begins with a blank screen
of at least one cell. -/
def Reachable (limit : Nat) (console : Console) : Prop :=
  ∃ lines columns inputs,
    0 < lines ∧ 0 < columns ∧ (blank lines columns limit).run inputs = console

/-! ## Well-formed terminals in a run -/

variable {lines columns limit : Nat} {console : Console}

theorem flush_wellFormed
    (wellFormed : console.terminal.WellFormed lines columns limit) :
    console.flush.terminal.WellFormed lines columns limit :=
  wellFormed.printAll _

theorem act_wellFormed
    (wellFormed : console.terminal.WellFormed lines columns limit)
    (char : Char) (action : Action) :
    (console.act char action).terminal.WellFormed lines columns limit := by
  cases action with
  | perform function => exact wellFormed.perform function
  | finish function => exact wellFormed.perform function
  | ignore | enter | proceed | collect | abandon => exact wellFormed

theorem advance_wellFormed
    (wellFormed : console.terminal.WellFormed lines columns limit) (char : Char) :
    (console.advance char).terminal.WellFormed lines columns limit := by
  unfold advance
  dsimp only
  split
  · exact wellFormed
  · exact act_wellFormed (flush_wellFormed wellFormed) _ _

theorem foldl_advance_wellFormed
    (wellFormed : console.terminal.WellFormed lines columns limit) (text : List Char) :
    (text.foldl advance console).terminal.WellFormed lines columns limit := by
  induction text generalizing console with
  | nil => exact wellFormed
  | cons char rest inductionHypothesis =>
      exact inductionHypothesis (advance_wellFormed wellFormed char)

theorem feed_wellFormed
    (wellFormed : console.terminal.WellFormed lines columns limit) (text : List Char) :
    (console.feed text).terminal.WellFormed lines columns limit :=
  flush_wellFormed (foldl_advance_wellFormed wellFormed text)

/-- A step of a run keeps the terminal well-formed, if of another size. -/
theorem receive_wellFormed
    (wellFormed : console.terminal.WellFormed lines columns limit) (input : Input) :
    ∃ newLines newColumns,
      (console.receive input).terminal.WellFormed newLines newColumns limit := by
  cases input with
  | text chars => exact ⟨lines, columns, feed_wellFormed wellFormed chars⟩
  | char char => exact ⟨lines, columns, advance_wellFormed wellFormed char⟩
  | flush => exact ⟨lines, columns, flush_wellFormed wellFormed⟩
  | abort => exact ⟨lines, columns, flush_wellFormed wellFormed⟩
  | request request => exact wellFormed.serve request

theorem run_wellFormed
    (wellFormed : console.terminal.WellFormed lines columns limit) (inputs : List Input) :
    ∃ newLines newColumns,
      (console.run inputs).terminal.WellFormed newLines newColumns limit := by
  induction inputs generalizing console lines columns with
  | nil => exact ⟨lines, columns, wellFormed⟩
  | cons input rest inductionHypothesis =>
      obtain ⟨newLines, newColumns, received⟩ := receive_wellFormed wellFormed input
      exact inductionHypothesis received

/-- The terminal of a reachable console is well-formed for its own size. -/
theorem Reachable.wellFormed (reachable : console.Reachable limit) :
    console.terminal.WellFormed console.terminal.lines console.terminal.columns limit := by
  obtain ⟨lines, columns, inputs, linesPositive, columnsPositive, rfl⟩ := reachable
  have initial :
      (blank lines columns limit).terminal.WellFormed lines columns limit :=
    Terminal.WellFormed.blank linesPositive columnsPositive limit
  obtain ⟨newLines, newColumns, wellFormed⟩ :=
    run_wellFormed initial inputs
  have sameLines := wellFormed.lines_eq
  have sameColumns := wellFormed.columns_eq
  rwa [sameLines, sameColumns]

end Console

end VideoTerminal
