import VideoTerminal.Console

/-!
Text read in pieces. Characters to be printed wait until something else has to
be done or the piece ends; nobody can tell how long they waited, so that only
the characters matter and not where the pieces of text end.
-/

namespace VideoTerminal.Console

/-! ## Waiting characters -/

theorem flush_eq_self
    {console : Console}
    (nothingWaits : console.interpreter.pending = #[]) :
    console.flush = console := by
  obtain ⟨terminal, ⟨phase, parameters, pending⟩, replies⟩ := console
  subst nothingWaits
  rfl

@[simp]
theorem flush_flush (console : Console) :
    console.flush.flush = console.flush :=
  flush_eq_self rfl

@[simp]
theorem pending_feed (console : Console) (text : List Char) :
    (console.feed text).interpreter.pending = #[] := rfl

/-- A character that waits behind others is written as if they had been written
before it came; any other one has them written first itself. -/
theorem advance_flush (console : Console) (char : Char) :
    (console.flush.advance char).flush = (console.advance char).flush := by
  have sameReading :
      console.flush.interpreter.isGround = console.interpreter.isGround := rfl
  unfold advance
  dsimp only
  rw [sameReading]
  split
  · simp [flush, modifyInterpreter, Terminal.printAll]
  · rw [flush_flush]
    rfl

/-- What has been read is all that matters, not what of it waits. -/
theorem flush_foldl_advance
    {first second : Console}
    (same : first.flush = second.flush)
    (text : List Char) :
    (text.foldl advance first).flush = (text.foldl advance second).flush := by
  induction text generalizing first second with
  | nil => exact same
  | cons char rest inductionHypothesis =>
      apply inductionHypothesis
      calc
        (first.advance char).flush = (first.flush.advance char).flush :=
          (advance_flush first char).symm
        _ = (second.flush.advance char).flush := by rw [same]
        _ = (second.advance char).flush := advance_flush second char

/-! ## The reading of the stream -/

/-- How the stream is read does not depend on the terminal. -/
theorem interpreter_advance
    {first second : Console}
    (same : second.interpreter = first.interpreter)
    (char : Char) :
    (second.advance char).interpreter = (first.advance char).interpreter := by
  unfold advance
  dsimp only
  rw [same]
  split
  · simp only [modifyInterpreter, same]
  · cases Action.ofChar first.interpreter.phase first.interpreter.parameters char <;>
      simp only [act, perform, modifyInterpreter, flush, same]

theorem interpreter_foldl_advance
    {first second : Console}
    (same : second.interpreter = first.interpreter)
    (text : List Char) :
    (text.foldl advance second).interpreter = (text.foldl advance first).interpreter := by
  induction text generalizing first second with
  | nil => exact same
  | cons char rest inductionHypothesis => exact inductionHypothesis (interpreter_advance same char)

/-! ## Pieces -/

theorem feed_append (console : Console) (first second : List Char) :
    console.feed (first ++ second) = (console.feed first).feed second := by
  unfold feed
  rw [List.foldl_append]
  exact flush_foldl_advance (flush_flush _).symm second

/-- Pieces read one after the other are read as the whole that they make up.
Something must end a piece if anything waits at the beginning. -/
theorem foldl_feed
    {console : Console} {pieces : List (List Char)}
    (ends : console.interpreter.pending = #[] ∨ pieces ≠ []) :
    pieces.foldl feed console = console.feed pieces.flatten := by
  induction pieces generalizing console with
  | nil =>
      have nothingWaits : console.interpreter.pending = #[] := by simpa using ends
      exact (flush_eq_self nothingWaits).symm
  | cons piece rest inductionHypothesis =>
      rw [List.foldl_cons, List.flatten_cons, feed_append]
      exact inductionHypothesis (Or.inl (pending_feed console piece))

/-- A piece of one character is that character, written at once. -/
theorem foldl_advance_flush (console : Console) (text : List Char) :
    text.foldl (fun current char => (current.advance char).flush) console =
      (text.map fun char => [char]).foldl feed console := by
  rw [List.foldl_map]
  rfl

/-! ## Replies -/

/-- Replies that were owed before all others. -/
def owe (console : Console) (owed : Array Reply) : Console :=
  { console with replies := owed ++ console.replies }

theorem takeReplies_owe (console : Console) :
    console.takeReplies.1.owe console.replies = console := by
  simp [takeReplies, owe]

theorem perform_owe (console : Console) (owed : Array Reply) (function : ControlFunction) :
    (console.owe owed).perform function = (console.perform function).owe owed := by
  simp [perform, owe, Array.append_assoc]

theorem act_owe (console : Console) (owed : Array Reply) (char : Char) (action : Action) :
    (console.owe owed).act char action = (console.act char action).owe owed := by
  cases action with
  | perform function => exact perform_owe console owed function
  | finish function =>
      simp only [act, perform_owe]
      rfl
  | ignore | enter | proceed | collect | abandon => rfl

theorem advance_owe (console : Console) (owed : Array Reply) (char : Char) :
    (console.owe owed).advance char = (console.advance char).owe owed := by
  have sameReading : (console.owe owed).interpreter = console.interpreter := rfl
  have sameFlush : (console.owe owed).flush = console.flush.owe owed := rfl
  unfold advance
  dsimp only
  rw [sameReading, sameFlush, act_owe]
  split <;> rfl

theorem feed_owe (console : Console) (owed : Array Reply) (text : List Char) :
    (console.owe owed).feed text = (console.feed text).owe owed := by
  have reads :
      text.foldl advance (console.owe owed) = (text.foldl advance console).owe owed := by
    induction text generalizing console with
    | nil => rfl
    | cons char rest inductionHypothesis =>
        rw [List.foldl_cons, List.foldl_cons, advance_owe, inductionHypothesis]
  rw [feed, reads]
  rfl

theorem foldl_feed_owe (console : Console) (owed : Array Reply) (pieces : List (List Char)) :
    pieces.foldl feed (console.owe owed) = (pieces.foldl feed console).owe owed := by
  induction pieces generalizing console with
  | nil => rfl
  | cons piece rest inductionHypothesis =>
      rw [List.foldl_cons, List.foldl_cons, feed_owe, inductionHypothesis]

/-- Read pieces one after the other, and take the replies to each of them
before the next one is read. -/
def converse (console : Console) : List (List Char) → Console × List Reply
  | [] => console.takeReplies
  | piece :: rest =>
      let (read, replies) := (console.feed piece).takeReplies
      let (last, more) := read.converse rest
      (last, replies ++ more)

/-- Replies that are taken early are the first of those that are taken late. -/
theorem converse_eq (console : Console) (pieces : List (List Char)) :
    console.converse pieces = (pieces.foldl feed console).takeReplies := by
  induction pieces generalizing console with
  | nil => rfl
  | cons piece rest inductionHypothesis =>
      rw [converse, List.foldl_cons, ← takeReplies_owe (console.feed piece), foldl_feed_owe]
      simp [inductionHypothesis, takeReplies, owe]

/-! ## The same end -/

/-- Text read in pieces, at once, or character by character leaves the same
terminal, the same reading of the stream and, all in all, the same replies. -/
theorem converse_pieces_eq_feed
    {console : Console} {pieces : List (List Char)}
    (ends : console.interpreter.pending = #[] ∨ pieces.flatten ≠ []) :
    console.converse pieces = (console.feed pieces.flatten).takeReplies ∧
      (pieces.flatten.foldl
          (fun current char => (current.advance char).flush) console).takeReplies =
        (console.feed pieces.flatten).takeReplies := by
  have singletons :
      (pieces.flatten.map fun char => [char]).flatten = pieces.flatten := by
    induction pieces.flatten with
    | nil => rfl
    | cons char rest inductionHypothesis => simp [inductionHypothesis]
  have somePieces : console.interpreter.pending = #[] ∨ pieces ≠ [] :=
    ends.imp_right fun someText noPieces => someText (by simp [noPieces])
  have someChars :
      console.interpreter.pending = #[] ∨ (pieces.flatten.map fun char => [char]) ≠ [] :=
    ends.imp_right (by simp)
  constructor
  · rw [converse_eq, foldl_feed somePieces]
  · rw [foldl_advance_flush, foldl_feed someChars, singletons]

/-- Pieces that end within a control sequence, with a character that waits. -/
theorem converse_pieces_eq_feed_split_sequence :
    let console := (blank 2 3 1).advance 'a'
    let pieces := ["b\x1b[".toList, "6".toList, [], "nc".toList]
    (console.interpreter.pending = #[] ∨ pieces.flatten ≠ []) ∧
      console.converse pieces = (console.feed pieces.flatten).takeReplies ∧
        (pieces.flatten.foldl
            (fun current char => (current.advance char).flush) console).takeReplies =
          (console.feed pieces.flatten).takeReplies :=
  ⟨Or.inr (by simp), converse_pieces_eq_feed (Or.inr (by simp))⟩

end VideoTerminal.Console
