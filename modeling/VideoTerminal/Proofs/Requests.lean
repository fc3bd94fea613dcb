import VideoTerminal.Proofs.Run

/-!
A run as a list of requests. Whatever a console reads, all that it does to its
terminal are requests, one after the other; what holds of a terminal after any
of them holds after a run.
-/

namespace VideoTerminal

open Terminal (Request)

/-- What an action asks of the terminal. -/
def Action.requests : Action → List Request
  | .perform function | .finish function => [.perform function]
  | .ignore | .enter _ | .proceed _ | .collect | .abandon => []

namespace Console

/-- The request to write the gathered characters. -/
def flushRequest (console : Console) : Request :=
  .print console.interpreter.pending.toList

/-- What reading a character asks of the terminal. -/
def charRequests (console : Console) (char : Char) : List Request :=
  let reading := console.interpreter
  if reading.isGround && !Text.isControl char then []
  else console.flushRequest :: (Action.ofChar reading.phase reading.parameters char).requests

/-- What reading some characters asks of the terminal. -/
def textRequests (console : Console) : List Char → List Request
  | [] => []
  | char :: rest => console.charRequests char ++ (console.advance char).textRequests rest

/-- What a step of a run asks of the terminal. A size that is refused is not
asked for. -/
def requests (console : Console) : Input → List Request
  | .text chars => console.textRequests chars ++ [(chars.foldl advance console).flushRequest]
  | .char char => console.charRequests char
  | .flush | .abort => [console.flushRequest]
  | .request (.resize lines columns) =>
      if (console.terminal.resize? lines columns).isSome then [.resize lines columns] else []
  | .request request => [request]

/-- What a run asks of the terminal. -/
def runRequests (console : Console) : List Input → List Request
  | [] => []
  | input :: rest => console.requests input ++ (console.receive input).runRequests rest

/-! ## The terminal serves the requests -/

theorem terminal_act (console : Console) (char : Char) (action : Action) :
    (console.act char action).terminal =
      action.requests.foldl Terminal.serve console.terminal := by
  cases action with
  | ignore | enter | proceed | collect | abandon => rfl
  | perform function => rfl
  | finish function => rfl

theorem terminal_advance (console : Console) (char : Char) :
    (console.advance char).terminal =
      (console.charRequests char).foldl Terminal.serve console.terminal := by
  unfold advance charRequests
  dsimp only
  split
  · rfl
  · rw [terminal_act]
    rfl

theorem terminal_foldl_advance (console : Console) (text : List Char) :
    (text.foldl advance console).terminal =
      (console.textRequests text).foldl Terminal.serve console.terminal := by
  induction text generalizing console with
  | nil => rfl
  | cons char rest inductionHypothesis =>
      rw [List.foldl_cons, inductionHypothesis, terminal_advance, textRequests,
        List.foldl_append]

theorem terminal_receive (console : Console) (input : Input) :
    (console.receive input).terminal =
      (console.requests input).foldl Terminal.serve console.terminal := by
  cases input with
  | text chars =>
      rw [requests, List.foldl_append, ← terminal_foldl_advance]
      rfl
  | char char => exact terminal_advance console char
  | flush => rfl
  | abort => rfl
  | request request =>
      cases request with
      | resize lines columns =>
          cases accepted : console.terminal.resize? lines columns with
          | none => simp [receive, requests, Terminal.serve, accepted]
          | some resized => simp [receive, requests, accepted]
      | perform | print | scroll | setPen | configure | markBlink | takeTitle | takeReset
      | takeEvicted | takeDamage => rfl

theorem terminal_run (console : Console) (inputs : List Input) :
    (console.run inputs).terminal =
      (console.runRequests inputs).foldl Terminal.serve console.terminal := by
  induction inputs generalizing console with
  | nil => rfl
  | cons input rest inductionHypothesis =>
      rw [run, List.foldl_cons, ← run, inductionHypothesis, terminal_receive, runRequests,
        List.foldl_append]

/-! ## Requests that only the owner makes -/

/-- Text asks the terminal for nothing but to write and to perform. -/
theorem mem_charRequests
    {console : Console} {char : Char} {request : Request}
    (member : request ∈ console.charRequests char) :
    (∃ text, request = .print text) ∨ ∃ function, request = .perform function := by
  unfold charRequests at member
  dsimp only at member
  split at member
  · cases member
  · rcases List.mem_cons.mp member with rfl | later
    · exact Or.inl ⟨_, rfl⟩
    · cases action :
          Action.ofChar console.interpreter.phase console.interpreter.parameters char with
      | ignore | enter | proceed | collect | abandon =>
          rw [action] at later
          cases later
      | perform function | finish function =>
          rw [action] at later
          exact Or.inr ⟨function, List.mem_singleton.mp later⟩

theorem mem_textRequests
    {console : Console} {text : List Char} {request : Request}
    (member : request ∈ console.textRequests text) :
    (∃ text, request = .print text) ∨ ∃ function, request = .perform function := by
  induction text generalizing console with
  | nil => cases member
  | cons char rest inductionHypothesis =>
      rcases List.mem_append.mp member with here | later
      · exact mem_charRequests here
      · exact inductionHypothesis later

theorem mem_requests
    {console : Console} {input : Input} {request : Request}
    (member : request ∈ console.requests input) :
    input = .request request ∨
      (∃ text, request = .print text) ∨ ∃ function, request = .perform function := by
  cases input with
  | text chars =>
      rcases List.mem_append.mp member with here | last
      · exact Or.inr (mem_textRequests here)
      · exact Or.inr (Or.inl ⟨_, List.mem_singleton.mp last⟩)
  | char char => exact Or.inr (mem_charRequests member)
  | flush => exact Or.inr (Or.inl ⟨_, List.mem_singleton.mp member⟩)
  | abort => exact Or.inr (Or.inl ⟨_, List.mem_singleton.mp member⟩)
  | request asked =>
      left
      cases asked with
      | resize lines columns =>
          rw [requests] at member
          by_cases accepted : (console.terminal.resize? lines columns).isSome
          · rw [if_pos accepted, List.mem_singleton] at member
            rw [member]
          · rw [if_neg accepted] at member
            cases member
      | perform | print | scroll | setPen | configure | markBlink | takeTitle | takeReset
      | takeEvicted | takeDamage => rw [List.mem_singleton.mp member]

/-- Whatever else a run asks of the terminal was asked by its owner. -/
theorem mem_runRequests
    {console : Console} {inputs : List Input} {request : Request}
    (member : request ∈ console.runRequests inputs) :
    .request request ∈ inputs ∨
      (∃ text, request = .print text) ∨ ∃ function, request = .perform function := by
  induction inputs generalizing console with
  | nil => cases member
  | cons input rest inductionHypothesis =>
      rcases List.mem_append.mp member with here | later
      · rcases mem_requests here with rfl | known
        · exact Or.inl List.mem_cons_self
        · exact Or.inr known
      · exact (inductionHypothesis later).imp_left (List.mem_cons_of_mem input)

end Console

end VideoTerminal
