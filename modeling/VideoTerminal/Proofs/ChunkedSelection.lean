import Mathlib.Data.List.Infix
import VideoTerminal.Proofs.Tallies

/-!
A selection while text comes in pieces. The session looks after it at the end
of each piece, and asks then which screen is shown and how many rows there are.
What was lost at a cut stays lost, though it might not have been missed at the
end of the text; otherwise the rows lost add up, and the cuts do not matter.
-/

namespace VideoTerminal

namespace Selection

variable {selection moved : Selection} {distance size : Nat}

theorem follow?_of_lt (gone : selection.stop < distance) (size : Nat) :
    selection.follow? distance size = none := by
  rw [follow?, shift?, if_pos gone]
  rfl

/-- A selection that is followed twice has gone the whole way. -/
theorem follow?_follow?
    (followed : selection.follow? distance size = some moved)
    (further later : Nat) :
    moved.follow? further later = selection.follow? (distance + further) later := by
  obtain ⟨shifted, -⟩ := Option.filter_eq_some_iff.mp followed
  rw [shift?] at shifted
  split at shifted
  · cases shifted
  · next within =>
      obtain rfl := Option.some.inj shifted
      have gone :
          max (selection.anchor - distance) (selection.last - distance) < further ↔
            selection.stop < distance + further := by
        rw [stop] at within ⊢
        omega
      have sameShift :
          shift?
              { selection with
                anchor := selection.anchor - distance
                last := selection.last - distance } further =
            selection.shift? (distance + further) := by
        rw [shift?, shift?, Nat.sub_sub, Nat.sub_sub]
        exact if_congr gone rfl rfl
      rw [follow?, follow?, sameShift]

end Selection

namespace Session

variable {session : Session} {selection moved : Selection}

/-! ## One piece after another -/

theorem selection_feed (free : session.isHeld = false) (text : List Char) :
    (session.feed text).selection =
      session.selection.bind
        (relocate? (session.console.feed text).terminal session.terminal.onAlternate) := by
  rw [feed_of_not_held free, selection_interpret]

theorem console_feed (free : session.isHeld = false) (text : List Char) :
    (session.feed text).console = (session.console.feed text).settled := by
  rw [feed_of_not_held free, (interpret_spec session text).1]

theorem isHeld_feed (free : session.isHeld = false) (text : List Char) :
    (session.feed text).isHeld = false := by
  rw [feed_of_not_held free, isHeld, (interpret_spec session text).2.1]
  exact free

theorem selection_feed_of_none
    (free : session.isHeld = false)
    (nothing : session.selection = none)
    (text : List Char) :
    (session.feed text).selection = none := by
  rw [selection_feed free, nothing, Option.bind_none]

theorem Sound.selection_feed_nil (sound : session.Sound) (free : session.isHeld = false) :
    (session.feed []).selection = session.selection := by
  have unread : session.console.feed [] = session.console :=
    Console.flush_eq_self sound.pending_eq
  rw [selection_feed free, unread]
  cases selected : session.selection with
  | none => rfl
  | some selection =>
      change relocate? session.terminal session.terminal.onAlternate selection = some selection
      have inside : selection.stop < session.cellCount := sound.inside selection selected
      rw [relocate?, sound.wasReset_eq, if_neg (by simp), sound.evicted_eq, Nat.zero_mul,
        Selection.follow?, Selection.shift?, if_neg (Nat.not_lt_zero _)]
      exact Option.filter_eq_some_iff.mpr ⟨rfl, decide_eq_true inside⟩

/-- A selection that has been followed already is where it would be if it were
followed only now. -/
theorem relocate?_of_owes
    {owed size : Nat} {first second : Terminal}
    (owes : first.Owes owed second)
    (followed : selection.follow? (owed * first.columns) size = some moved)
    (wasAlternate : Bool) :
    relocate? first wasAlternate moved = relocate? second wasAlternate selection := by
  have sameReset := owes.wasReset_eq
  have counted := owes.evicted_eq
  obtain ⟨evicted, wasReset, titleChanged, rfl⟩ := owes.agrees
  dsimp only at sameReset counted
  subst sameReset
  unfold relocate? Terminal.onAlternate
  dsimp only
  split
  · rfl
  · next stays =>
      rw [not_or, Bool.not_eq_true] at stays
      rw [Selection.follow?_follow? followed, counted stays.1, ← Nat.add_mul, Nat.add_comm owed]

/-- A selection that is not lost after a piece of text is, after another piece,
where both of them at once leave it. -/
theorem Sound.selection_feed_append
    (sound : session.Sound)
    (free : session.isHeld = false)
    {text : List Char}
    (kept : (session.feed text).selection ≠ none)
    (more : List Char) :
    ((session.feed text).feed more).selection = (session.feed (text ++ more)).selection := by
  obtain ⟨lines, columns, limit, wellFormed⟩ := sound.wellFormed
  let read := session.console.feed text
  have readWellFormed : read.terminal.WellFormed lines columns limit :=
    Console.feed_wellFormed wellFormed text
  have settledWellFormed : read.settled.terminal.WellFormed lines columns limit :=
    { readWellFormed with }
  rw [selection_feed (isHeld_feed free text), selection_feed free (text ++ more),
    Console.feed_append, terminal, console_feed free]
  rw [selection_feed free] at kept ⊢
  cases selected : session.selection with
  | none =>
      rw [selected] at kept
      exact absurd rfl kept
  | some selection =>
      rw [selected, Option.bind_some] at kept
      rw [Option.bind_some, Option.bind_some]
      change relocate? read.terminal session.terminal.onAlternate selection ≠ none at kept
      change (relocate? read.terminal session.terminal.onAlternate selection).bind
          (relocate? (read.settled.feed more).terminal read.terminal.onAlternate) =
        relocate? (read.feed more).terminal session.terminal.onAlternate selection
      rw [relocate?] at kept ⊢
      split at kept
      · exact absurd rfl kept
      · next stays =>
          rw [if_neg stays]
          rw [not_or, Bool.not_eq_true, not_not] at stays
          obtain ⟨moved, followed⟩ := Option.ne_none_iff_exists'.mp kept
          have owes := Console.owes_feed_settled readWellFormed stays.1 more
          have sameColumns :
              read.terminal.columns = (read.settled.feed more).terminal.columns := by
            rw [readWellFormed.columns_eq,
              (Console.feed_wellFormed settledWellFormed more).columns_eq]
          rw [followed, Option.bind_some, stays.2]
          rw [sameColumns] at followed
          exact relocate?_of_owes owes followed _

/-! ## Any number of pieces -/

/-- The selection is lost when all of the text up to some cut is read at once. -/
def LosesAtCut (session : Session) (pieces : List (List Char)) : Prop :=
  ∃ early, early <+: pieces ∧ (session.feed early.flatten).selection = none

/-- A selection that the first piece leaves is lost where it is lost from
there on. -/
theorem Sound.losesAtCut_cons
    (sound : session.Sound)
    (free : session.isHeld = false)
    {piece : List Char}
    (kept : (session.feed piece).selection ≠ none)
    (rest : List (List Char)) :
    session.LosesAtCut (piece :: rest) ↔ (session.feed piece).LosesAtCut rest := by
  constructor
  · rintro ⟨early, before, lost⟩
    cases early with
    | nil =>
        have nothing : session.selection = none := (sound.selection_feed_nil free).symm.trans lost
        exact absurd (selection_feed_of_none free nothing piece) kept
    | cons head others =>
        obtain ⟨rfl, othersBefore⟩ := List.cons_prefix_cons.mp before
        rw [List.flatten_cons, ← sound.selection_feed_append free kept] at lost
        exact ⟨others, othersBefore, lost⟩
  · rintro ⟨early, before, lost⟩
    refine ⟨piece :: early, List.cons_prefix_cons.mpr ⟨rfl, before⟩, ?_⟩
    rw [List.flatten_cons, ← sound.selection_feed_append free kept]
    exact lost

theorem selection_foldl_feed_of_none
    (free : session.isHeld = false)
    (nothing : session.selection = none)
    (pieces : List (List Char)) :
    (pieces.foldl feed session).selection = none := by
  induction pieces generalizing session with
  | nil => exact nothing
  | cons piece rest inductionHypothesis =>
      exact inductionHypothesis (isHeld_feed free piece) (selection_feed_of_none free nothing piece)

/-- Piece by piece, a selection is lost if it is lost at some cut, and otherwise
it is where the whole text leaves it. -/
theorem Sound.selection_foldl_feed
    (sound : session.Sound)
    (free : session.isHeld = false)
    (pieces : List (List Char)) :
    (session.LosesAtCut pieces → (pieces.foldl Session.feed session).selection = none) ∧
      (¬ session.LosesAtCut pieces →
        (pieces.foldl Session.feed session).selection =
          (session.feed pieces.flatten).selection) := by
  induction pieces generalizing session with
  | nil =>
      have unmoved := sound.selection_feed_nil free
      refine ⟨?_, fun _ => unmoved.symm⟩
      rintro ⟨early, before, lost⟩
      rw [List.prefix_nil.mp before, List.flatten_nil, unmoved] at lost
      exact lost
  | cons piece rest inductionHypothesis =>
      rw [List.foldl_cons, List.flatten_cons]
      by_cases gone : (session.feed piece).selection = none
      · have lost : session.LosesAtCut (piece :: rest) :=
          ⟨[piece], List.prefix_append [piece] rest, by simpa using gone⟩
        exact ⟨fun _ => selection_foldl_feed_of_none (isHeld_feed free piece) gone rest,
          fun kept => absurd lost kept⟩
      · rw [sound.losesAtCut_cons free gone, ← sound.selection_feed_append free gone]
        exact inductionHypothesis (sound.feed piece) (isHeld_feed free piece)

/-! ## Texts that may be cut anywhere -/

/-- Nowhere in the text is another screen shown than before it, or are there
less rows, unless there was a reset. -/
def StaysInView (session : Session) (text : List Char) : Prop :=
  ∀ early, early <+: text →
    let fed := (session.console.feed early).terminal
    fed.wasReset = false →
      fed.onAlternate = session.terminal.onAlternate ∧
        session.terminal.buffer.composedSize ≤ fed.buffer.composedSize

/-- Then the selection is lost just because all of its rows are, and these do
not come back. -/
theorem Sound.selection_feed_append_of_none
    (sound : session.Sound)
    (free : session.isHeld = false)
    {text more : List Char}
    (stays : session.StaysInView (text ++ more))
    (lost : (session.feed text).selection = none) :
    (session.feed (text ++ more)).selection = none := by
  obtain ⟨lines, columns, limit, wellFormed⟩ := sound.wellFormed
  let early := (session.console.feed text).terminal
  let late := (session.console.feed (text ++ more)).terminal
  have earlyWellFormed : early.WellFormed lines columns limit :=
    Console.feed_wellFormed wellFormed text
  have lateWellFormed : late.WellFormed lines columns limit :=
    Console.feed_wellFormed wellFormed (text ++ more)
  have lateEq : late = ((session.console.feed text).feed more).terminal :=
    congrArg Console.terminal (Console.feed_append session.console text more)
  rw [selection_feed free] at lost ⊢
  cases selected : session.selection with
  | none => rfl
  | some selection =>
      rw [selected, Option.bind_some] at lost
      rw [Option.bind_some]
      change relocate? early session.terminal.onAlternate selection = none at lost
      change relocate? late session.terminal.onAlternate selection = none
      by_cases reset : late.wasReset = true
      · rw [relocate?, if_pos (Or.inl reset)]
      · have earlyNotReset : early.wasReset = false := by
          rw [← Bool.not_eq_true]
          intro earlier
          rw [lateEq] at reset
          exact reset (Console.wasReset_feed earlier more)
        obtain ⟨sameScreen, enough⟩ := stays text (List.prefix_append text more) earlyNotReset
        have owes := Console.owes_feed_settled earlyWellFormed earlyNotReset more
        rw [← lateEq] at owes
        have grown : early.evicted ≤ late.evicted := by
          rw [owes.evicted_eq (owes.wasReset_eq.symm.trans (Bool.eq_false_iff.mpr reset))]
          exact Nat.le_add_left _ _
        have inside : selection.stop < session.terminal.buffer.composedSize * columns := by
          have within := sound.inside selection selected
          rwa [cellCount, wellFormed.columns_eq] at within
        rw [relocate?, earlyNotReset, sameScreen, if_neg (by simp), earlyWellFormed.columns_eq,
          Selection.follow?_eq_none_iff] at lost
        · have gone : selection.stop < late.evicted * late.columns := by
            rw [lateWellFormed.columns_eq]
            exact Nat.lt_of_lt_of_le lost (Nat.mul_le_mul_right columns grown)
          rw [relocate?, Selection.follow?_of_lt gone, ite_self]
        · exact Nat.lt_add_right _
            (Nat.lt_of_lt_of_le inside (Nat.mul_le_mul_right columns enough))

/-- A text cut in two ways, and fed piece by piece while nothing is held back:
the selections that are left are the same just if it is at some cut of each or
of neither that the text up to there, read at once, loses the selection. So they
are the same for every two ways to cut a text that stays in view. -/
theorem selection_foldl_feed_eq_iff
    (reachable : session.Reachable)
    (free : session.isHeld = false)
    {pieces others : List (List Char)}
    (sameText : pieces.flatten = others.flatten) :
    ((pieces.foldl feed session).selection = (others.foldl feed session).selection ↔
        (session.LosesAtCut pieces ↔ session.LosesAtCut others)) ∧
      (session.StaysInView pieces.flatten →
        (pieces.foldl feed session).selection = (session.feed pieces.flatten).selection ∧
          (others.foldl feed session).selection = (session.feed pieces.flatten).selection) := by
  have sound := reachable.sound
  have whole (cut : List (List Char)) (kept : ¬ session.LosesAtCut cut) :
      (session.feed cut.flatten).selection ≠ none :=
    fun lost => kept ⟨cut, List.prefix_refl cut, lost⟩
  refine ⟨?_, ?_⟩
  · obtain ⟨ifLost, ifKept⟩ := sound.selection_foldl_feed free pieces
    obtain ⟨ifOthersLost, ifOthersKept⟩ := sound.selection_foldl_feed free others
    by_cases lost : session.LosesAtCut pieces <;> by_cases othersLost : session.LosesAtCut others
    · rw [ifLost lost, ifOthersLost othersLost]
      exact iff_of_true rfl (iff_of_true lost othersLost)
    · rw [ifLost lost, ifOthersKept othersLost]
      exact iff_of_false (whole others othersLost).symm fun same => othersLost (same.mp lost)
    · rw [ifKept lost, ifOthersLost othersLost]
      exact iff_of_false (whole pieces lost) fun same => lost (same.mpr othersLost)
    · rw [ifKept lost, ifOthersKept othersLost, sameText]
      exact iff_of_true rfl (iff_of_false lost othersLost)
  · intro stays
    have here (cut : List (List Char)) (text : cut.flatten = pieces.flatten) :
        (cut.foldl feed session).selection = (session.feed pieces.flatten).selection := by
      obtain ⟨ifLost, ifKept⟩ := sound.selection_foldl_feed free cut
      rw [← text] at stays ⊢
      by_cases lost : session.LosesAtCut cut
      · obtain ⟨early, ⟨rest, rfl⟩, gone⟩ := id lost
        rw [List.flatten_append] at stays ⊢
        rw [ifLost lost, sound.selection_feed_append_of_none free stays gone]
      · exact ifKept lost
    exact ⟨here pieces rfl, here others sameText.symm⟩

/-- The second row of two is selected and becomes the first one, also when the
line break is read apart from its return. -/
theorem selection_foldl_feed_eq_iff_parted_break :
    let settings : Settings := { lines := 1, columns := 2, historyLimit := 1 }
    let start : Session :=
      { console := { terminal := blankTerminal settings {} }
        blinkPeriod := some 500, blinkDeadline := some 500 }
    let done : List (Nat × Act) :=
      [(0, .call (.feed "a\r\nb".toList)), (1, .call (.startSelection 0 1)),
        (2, .call (.extendSelection 1 1)), (3, .call .endSelection)]
    let session := start.acts done
    let pieces := ["\r".toList, "\nc".toList]
    let others := ["\r\nc".toList]
    let moved : Selection := { anchor := 0, last := 1, finished := true }
    session.Reachable ∧ session.isHeld = false ∧ pieces.flatten = others.flatten ∧
      session.selection = some { anchor := 2, last := 3, finished := true } ∧
      session.StaysInView pieces.flatten ∧
      (pieces.foldl feed session).selection = some moved ∧
      (others.foldl feed session).selection = some moved ∧
      (session.LosesAtCut pieces ↔ session.LosesAtCut others) := by
  intro settings start done session pieces others moved
  have reachable : session.Reachable := ⟨settings, start, done, rfl, rfl⟩
  have free : session.isHeld = false := by decide +kernel
  have sameText : pieces.flatten = others.flatten := by decide +kernel
  have selected : session.selection = some { anchor := 2, last := 3, finished := true } := by
    decide +kernel
  have everywhere :
      ∀ early ∈ pieces.flatten.inits,
        let fed := (session.console.feed early).terminal
        fed.wasReset = false →
          fed.onAlternate = session.terminal.onAlternate ∧
            session.terminal.buffer.composedSize ≤ fed.buffer.composedSize := by
    decide +kernel
  have stays : session.StaysInView pieces.flatten :=
    fun early before => everywhere early ((List.mem_inits early pieces.flatten).mpr before)
  have whole : (session.feed pieces.flatten).selection = some moved := by decide +kernel
  obtain ⟨sameIff, same⟩ := selection_foldl_feed_eq_iff reachable free sameText
  obtain ⟨first, second⟩ := same stays
  exact ⟨reachable, free, sameText, selected, stays, first.trans whole, second.trans whole,
    sameIff.mp (first.trans second.symm)⟩

/-- A row of the alternate screen is selected, and the program shows the main
screen and the alternate one again. The selection is lost if the session looks
in between, and otherwise not missed. -/
theorem selection_foldl_feed_ne_switched_twice :
    let settings : Settings := { lines := 1, columns := 2, historyLimit := 0 }
    let start : Session :=
      { console := { terminal := blankTerminal settings {} }
        blinkPeriod := some 500, blinkDeadline := some 500 }
    let done : List (Nat × Act) :=
      [(0, .call (.feed "\x1b[?1049hab".toList)), (1, .call (.startSelection 0 0)),
        (2, .call (.extendSelection 1 0)), (3, .call .endSelection)]
    let session := start.acts done
    let selection : Selection := { anchor := 0, last := 1, finished := true }
    let pieces := ["\x1b[?1049l".toList, "\x1b[?1049h".toList]
    let others := ["\x1b[?1049l\x1b[?1049h".toList]
    session.Reachable ∧ session.isHeld = false ∧ session.selection = some selection ∧
      pieces.flatten = others.flatten ∧ (pieces.foldl feed session).selection = none ∧
      (others.foldl feed session).selection = some selection := by
  intro settings start done session selection pieces others
  exact ⟨⟨settings, start, done, rfl, rfl⟩, by decide +kernel, by decide +kernel,
    by decide +kernel, by decide +kernel, by decide +kernel⟩

end Session

end VideoTerminal
