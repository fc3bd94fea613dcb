import Mathlib.Data.List.Infix
import VideoTerminal.Proofs.Following

/-!
The hold of a selection. While a selection is in progress it holds text back
once, beside the holds that the host has added and not lifted; all that ends it
lifts its hold. As long as it is in progress nothing is interpreted, so that no
row changes under it.
-/

namespace VideoTerminal

namespace Session

/-! ## The holds of the host -/

def Act.isFreeze : Act → Bool
  | .call .freeze => true
  | _ => false

def Act.isUnfreeze : Act → Bool
  | .call .unfreeze => true
  | _ => false

def Act.isReset : Act → Bool
  | .reset => true
  | _ => false

/-- What was done since the session was last reset. -/
def sinceReset (done : List Act) : List Act :=
  (done.reverse.takeWhile fun act => !act.isReset).reverse

/-- How often the host has added a hold since the session was last reset. -/
def freezes (done : List Act) : Nat :=
  (sinceReset done).countP Act.isFreeze

/-- How often the host has lifted a hold since the session was last reset. -/
def unfreezes (done : List Act) : Nat :=
  (sinceReset done).countP Act.isUnfreeze

/-- The host never lifts more holds than it has added since the beginning or
the last reset. -/
def Balanced (done : List Act) : Prop :=
  ∀ before, before <+: done → unfreezes before ≤ freezes before

instance (done : List Act) : Decidable (Balanced done) :=
  decidable_of_iff (∀ before ∈ done.inits, unfreezes before ≤ freezes before)
    (by simp only [Balanced, List.mem_inits])

theorem Balanced.of_append {done more : List Act} (balanced : Balanced (done ++ more)) :
    Balanced done :=
  fun before initial => balanced before (initial.trans (List.prefix_append done more))

theorem countP_sinceReset_concat (counted : Act → Bool) (done : List Act) (act : Act) :
    (sinceReset (done ++ [act])).countP counted =
      if act.isReset then 0
      else (sinceReset done).countP counted + if counted act then 1 else 0 := by
  unfold sinceReset
  rw [List.reverse_append, List.reverse_singleton, List.singleton_append, List.takeWhile_cons]
  cases act.isReset <;> simp

/-- The holds that the host has after an act, if it has `count` before. -/
def holdsAfter (count : Nat) (act : Act) : Nat :=
  if act.isReset then 0
  else count + (if act.isFreeze then 1 else 0) - if act.isUnfreeze then 1 else 0

theorem Act.eq_of_isUnfreeze {act : Act} (lifts : act.isUnfreeze = true) :
    act = .call .unfreeze := by
  unfold isUnfreeze at lifts
  split at lifts
  · rfl
  · cases lifts

/-- The holds of the host change as its acts say, and there is one whenever one
is lifted. -/
theorem Balanced.concat {done : List Act} {act : Act} (balanced : Balanced (done ++ [act])) :
    freezes (done ++ [act]) - unfreezes (done ++ [act]) =
        holdsAfter (freezes done - unfreezes done) act ∧
      (act.isUnfreeze = true → 0 < freezes done - unfreezes done) := by
  have before := balanced done (List.prefix_append done [act])
  have after := balanced _ (List.prefix_refl _)
  have added : freezes (done ++ [act]) = _ := countP_sinceReset_concat Act.isFreeze done act
  have lifted : unfreezes (done ++ [act]) = _ := countP_sinceReset_concat Act.isUnfreeze done act
  rw [added, lifted] at after ⊢
  cases lifts : act.isUnfreeze with
  | true =>
      obtain rfl := Act.eq_of_isUnfreeze lifts
      change unfreezes done + 1 ≤ freezes done at after
      refine ⟨?_, fun _ => by omega⟩
      change freezes done - (unfreezes done + 1) = freezes done - unfreezes done - 1
      omega
  | false =>
      refine ⟨?_, nofun⟩
      rw [holdsAfter, lifts, if_neg Bool.false_ne_true]
      split
      · rfl
      · change freezes done + _ - unfreezes done = freezes done - unfreezes done + _
        omega

/-! ## The hold of a selection -/

/-- There is a selection that is not finished. -/
def inProgress (session : Session) : Bool :=
  session.selection.any fun selection => !selection.finished

variable {first second session : Session} {count : Nat}

/-- The host has `count` holds, and a selection has one more as long as it is
in progress. -/
structure HeldBy (count : Nat) (session : Session) : Prop where
  depth_eq : session.hold.depth = count + if session.selecting then 1 else 0
  selecting_eq : session.selecting = session.inProgress

theorem selecting_interpret (released : session.selecting = false) (text : List Char) :
    (session.interpret text).selecting = false := by
  have same := SameView.foldl_reply
    { session with console := (session.console.feed text).takeReplies.1 }
    (session.console.feed text).takeReplies.2
  have announced : ∀ current : Session, current.announceTitle.selecting = current.selecting := by
    intro current
    unfold announceTitle
    dsimp only
    split <;> rfl
  have followed : ∀ (current : Session) (wasAlternate : Bool), current.selecting = false →
      (current.followText wasAlternate).selecting = false := by
    intro current wasAlternate still
    unfold followText
    dsimp only
    split
    · exact still
    · split
      · rfl
      · split
        · exact still
        · rfl
  exact followed _ _ ((announced _).trans (same.selecting_eq.trans released))

/-- A selection that follows its text stays finished. -/
theorem inProgress_interpret (idle : session.inProgress = false) (text : List Char) :
    (session.interpret text).inProgress = false := by
  unfold inProgress at idle ⊢
  rw [selection_interpret]
  cases selected : session.selection with
  | none => rfl
  | some selection =>
      rw [selected, Option.any_some] at idle
      rw [Option.bind_some, relocate?]
      split
      · rfl
      · cases followed : selection.follow? _ _ with
        | none => rfl
        | some moved =>
            rw [Selection.eq_of_follow?_eq_some followed]
            exact idle

theorem hold_interpret (session : Session) (text : List Char) :
    (session.interpret text).hold = session.hold :=
  (interpret_spec session text).2.1

/-! ## Lifting a hold -/

/-- A hold that is not the last one is lifted and nothing else happens. -/
theorem unfreeze_of_deep (deep : 1 < session.hold.depth) :
    session.unfreeze =
      { session with hold := { session.hold with depth := session.hold.depth - 1 } } := by
  have notLast : ¬(session.hold.depth = 1 ∧ session.hold.parked ≠ []) := fun last => by omega
  have stillHeld : Hold.isHeld { session.hold with depth := session.hold.depth - 1 } = true :=
    decide_eq_true (by dsimp only; omega)
  unfold unfreeze Hold.unfreeze
  rw [if_neg notLast]
  exact if_pos stillHeld

/-- One hold is lifted, and no selection begins even if text that was held back
is interpreted then. -/
theorem unfreeze_spec (session : Session) :
    session.unfreeze.hold.depth = session.hold.depth - 1 ∧
      (session.selecting = false → session.unfreeze.selecting = false) ∧
      (session.inProgress = false → session.unfreeze.inProgress = false) := by
  unfold unfreeze Hold.unfreeze
  by_cases last : session.hold.depth = 1 ∧ session.hold.parked ≠ []
  · rw [if_pos last]
    dsimp only
    refine ⟨?_, ?_, ?_⟩
    · rw [hold_interpret, last.1]
    · intro released
      exact @selecting_interpret { session with hold := {} } released _
    · intro idle
      exact @inProgress_interpret { session with hold := {} } idle _
  · rw [if_neg last]
    dsimp only
    split <;> exact ⟨rfl, id, id⟩

/-! ## The end of a selection -/

theorem inProgress_release (idle : session.inProgress = false) :
    session.release.inProgress = false := by
  rw [release]
  split
  · exact (unfreeze_spec { session with selecting := false }).2.2 idle
  · exact idle

theorem inProgress_clearSelection (session : Session) :
    session.clearSelection.inProgress = false :=
  @inProgress_release { session with selection := none } rfl

theorem inProgress_finish (session : Session) :
    { session with selection := session.selection.map Selection.finish }.inProgress = false := by
  unfold inProgress
  cases session.selection <;> rfl

theorem inProgress_endSelection (session : Session) : session.endSelection.inProgress = false :=
  inProgress_release (inProgress_finish session)

theorem inProgress_selectAll (session : Session) : session.selectAll.inProgress = false := by
  change (Selection.all? session.release.cellCount).any _ = false
  rw [Selection.all?]
  split <;> rfl

/-- Whatever ends a selection lifts the hold that it has, if it has one. -/
theorem release_spec
    (depth_eq : session.hold.depth = count + if session.selecting then 1 else 0) :
    session.release.hold.depth = count ∧ session.release.selecting = false := by
  unfold release
  by_cases selecting : session.selecting = true
  · rw [if_pos selecting] at depth_eq ⊢
    obtain ⟨lifted, released, -⟩ := unfreeze_spec { session with selecting := false }
    exact ⟨lifted.trans (by dsimp only; omega), released rfl⟩
  · rw [if_neg selecting] at depth_eq ⊢
    exact ⟨depth_eq, eq_false_of_ne_true selecting⟩

/-! ## What each act does to the holds -/

namespace HeldBy

theorem of_eq
    (held : first.HeldBy count)
    (hold_eq : second.hold = first.hold)
    (selection_eq : second.selection = first.selection)
    (selecting_eq : second.selecting = first.selecting) :
    second.HeldBy count where
  depth_eq := by
    rw [hold_eq, selecting_eq]
    exact held.depth_eq
  selecting_eq := by
    rw [inProgress, selecting_eq, selection_eq]
    exact held.selecting_eq

theorem of_sameView (held : first.HeldBy count) (same : first.SameView second) :
    second.HeldBy count :=
  held.of_eq same.hold_eq same.selection_eq same.selecting_eq

theorem of_idle
    (depth_eq : session.hold.depth = count)
    (released : session.selecting = false)
    (idle : session.inProgress = false) :
    session.HeldBy count where
  depth_eq := by rw [depth_eq, released]; rfl
  selecting_eq := released.trans idle.symm

theorem depth_of_idle (held : session.HeldBy count) (idle : session.inProgress = false) :
    session.hold.depth = count := by
  rw [held.depth_eq, held.selecting_eq, idle]
  rfl

theorem depth_of_inProgress (held : session.HeldBy count) (busy : session.inProgress = true) :
    session.hold.depth = count + 1 := by
  rw [held.depth_eq, held.selecting_eq, busy]
  rfl

theorem isHeld_of_inProgress (held : session.HeldBy count) (busy : session.inProgress = true) :
    session.isHeld = true := by
  have depth := held.depth_of_inProgress busy
  exact decide_eq_true (by omega)

/-! ### Text -/

theorem feed (held : session.HeldBy count) (text : List Char) :
    (session.feed text).HeldBy count := by
  by_cases waits : session.isHeld = true
  · rw [feed_of_held waits]
    exact ⟨held.depth_eq, held.selecting_eq⟩
  · have idle : session.inProgress = false :=
      eq_false_of_ne_true fun busy => waits (held.isHeld_of_inProgress busy)
    rw [feed_of_not_held (eq_false_of_ne_true waits)]
    refine of_idle ?_ (selecting_interpret (held.selecting_eq.trans idle) text)
      (inProgress_interpret idle text)
    rw [hold_interpret]
    exact held.depth_of_idle idle

theorem freeze (held : session.HeldBy count) : session.freeze.HeldBy (count + 1) where
  depth_eq := by
    have depthEq := held.depth_eq
    change session.hold.depth + 1 = count + 1 + if session.selecting then 1 else 0
    omega
  selecting_eq := held.selecting_eq

/-- A hold of the host is lifted, and that of the selection remains. -/
theorem unfreeze (held : session.HeldBy count) (positive : 0 < count) :
    session.unfreeze.HeldBy (count - 1) := by
  cases progress : session.inProgress with
  | true =>
      have depth := held.depth_of_inProgress progress
      rw [unfreeze_of_deep (by omega)]
      refine ⟨?_, held.selecting_eq⟩
      change session.hold.depth - 1 = count - 1 + if session.selecting then 1 else 0
      rw [held.selecting_eq, progress, if_pos rfl]
      omega
  | false =>
      obtain ⟨lifted, released, idle⟩ := unfreeze_spec session
      refine of_idle ?_ (released (held.selecting_eq.trans progress)) (idle progress)
      rw [lifted, held.depth_of_idle progress]

/-! ### The selection -/

theorem of_release
    (depth_eq : session.hold.depth = count + if session.selecting then 1 else 0)
    (idle : session.inProgress = false) :
    session.release.HeldBy count := by
  obtain ⟨lifted, released⟩ := release_spec depth_eq
  exact of_idle lifted released (inProgress_release idle)

theorem clearSelection (held : session.HeldBy count) : session.clearSelection.HeldBy count :=
  @of_release { session with selection := none } count held.depth_eq rfl

theorem endSelection (held : session.HeldBy count) : session.endSelection.HeldBy count :=
  of_release held.depth_eq (inProgress_finish session)

theorem selectAll (held : session.HeldBy count) : session.selectAll.HeldBy count := by
  obtain ⟨lifted, released⟩ := release_spec held.depth_eq
  exact of_idle lifted released (inProgress_selectAll session)

/-- A selection is begun where there was none, so that there was no hold of one
either. -/
theorem startSelection (held : session.HeldBy count) (x y : Nat) :
    (session.startSelection x y).1.HeldBy count := by
  rw [Session.startSelection]
  split
  · exact held.clearSelection
  · next nothing =>
      have idle : session.inProgress = false := by
        unfold inProgress
        rw [Option.not_isSome_iff_eq_none.mp nothing]
        rfl
      have depth := held.depth_of_idle idle
      refine ⟨?_, rfl⟩
      change session.hold.depth + 1 = count + 1
      rw [depth]

theorem extendSelection (held : session.HeldBy count) (x y : Nat) :
    (session.extendSelection x y).1.HeldBy count := by
  rw [Session.extendSelection]
  split
  · exact held
  · next selection selected =>
      refine ⟨held.depth_eq, held.selecting_eq.trans ?_⟩
      unfold inProgress
      rw [selected]
      change (!selection.finished) = !(selection.extend (session.offset x y)).1.finished
      rw [Selection.extend]
      split <;> rfl

/-! ### The terminal -/

theorem resize (held : session.HeldBy count) (lines columns : Nat) :
    (session.resize lines columns).1.HeldBy count := by
  simp only [Session.resize]
  split
  · exact held
  · next resized _ =>
      have cleared :
          { session.withTerminal resized with guardDeadline := none }.clearSelection.HeldBy count :=
        clearSelection (held.of_eq rfl rfl rfl)
      split
      · next reported done => exact cleared.of_sameView (.reportSize done)
      · exact cleared

theorem pollTimers (held : session.HeldBy count) (now : Nat) :
    (session.pollTimers now).HeldBy count := by
  have guarded : (session.pollGuard now).HeldBy count := by
    rw [Session.pollGuard]
    split
    · split
      · exact held.of_eq rfl rfl rfl
      · exact held
    · exact held
  rw [Session.pollTimers, Session.pollBlink]
  split
  · split
    · exact guarded.of_eq rfl rfl rfl
    · exact guarded
  · exact guarded

/-! ### The host and the remote side -/

theorem call (held : session.HeldBy count) {made : Call}
    (balanced : Act.isUnfreeze (.call made) = true → 0 < count) :
    (session.call made).HeldBy (holdsAfter count (.call made)) := by
  cases made with
  | feed text => exact held.feed text
  | freeze => exact held.freeze
  | unfreeze => exact held.unfreeze (balanced rfl)
  | startSelection x y => exact held.startSelection x y
  | extendSelection x y => exact held.extendSelection x y
  | endSelection => exact held.endSelection
  | selectAll => exact held.selectAll
  | clearSelection => exact held.clearSelection
  | pollTimers now => exact held.pollTimers now

theorem sendKey (held : session.HeldBy count) (press : KeyPress) :
    (session.sendKey press).1.HeldBy count := by
  rw [Session.sendKey]
  split
  · next text _ => exact held.of_sameView (.send session text)
  · exact held

theorem receive (held : session.HeldBy count) (event : Transport.Event) :
    (session.receive event).HeldBy count := by
  cases event with
  | text text => exact held.feed text
  | connection up => exact held.of_sameView (.setConnected session up)

theorem processOutput (held : session.HeldBy count) : session.processOutput.1.HeldBy count := by
  have emptied : { session with mailbox := [] }.HeldBy count := held.of_eq rfl rfl rfl
  exact List.foldlRecOn session.mailbox Session.receive (motive := (HeldBy count ·)) emptied
    fun _ current event _ => current.receive event

/-- Nothing that is done adds or lifts more holds than its own, and those of a
selection come and go with it. -/
theorem act (held : session.HeldBy count) {done : Act}
    (balanced : done.isUnfreeze = true → 0 < count) :
    (session.act done).HeldBy (holdsAfter count done) := by
  cases done with
  | call made => exact held.call balanced
  | abortSequence => exact held.of_eq rfl rfl rfl
  | resize lines columns => exact held.resize lines columns
  | reset => exact of_idle rfl rfl rfl
  | takeDamage => exact held.of_eq rfl rfl rfl
  | takeNotices => exact held.of_eq rfl rfl rfl
  | send text => exact held.of_sameView (.send session text)
  | sendKey press => exact held.sendKey press
  | attachChannel channel => exact held.of_sameView (.attachChannel session channel)
  | attachStream reads => exact held.of_sameView (.attachStream session reads)
  | close => exact held.of_sameView (.close session)
  | processOutput => exact held.processOutput
  | remote channel stream events => exact held.of_eq rfl rfl rfl

end HeldBy

/-! ## Rows under a selection -/

theorem buffer_pollTimers (sound : session.Sound) (now : Nat) :
    (session.pollTimers now).terminal.buffer = session.terminal.buffer := by
  have guarded : (session.pollGuard now).terminal = session.terminal := by
    rw [pollGuard]
    split
    · split
      · exact sound.terminal_abortSequence
      · rfl
    · rfl
  rw [pollTimers, pollBlink, ← guarded]
  split
  · split
    · change (session.pollGuard now).terminal.markBlink.buffer = _
      rw [Terminal.markBlink_frame]
    · rfl
  · rfl

/-- Events that come while text is held back do not reach the terminal. -/
theorem terminal_processOutput (waits : session.isHeld = true) :
    session.processOutput.1.terminal = session.terminal := by
  have taken : (session.mailbox.foldl receive { session with mailbox := [] }).isHeld = true ∧
      (session.mailbox.foldl receive { session with mailbox := [] }).terminal =
        session.terminal := by
    refine List.foldlRecOn (b := { session with mailbox := [] }) session.mailbox receive
      (motive := fun current => current.isHeld = true ∧ current.terminal = session.terminal)
      ⟨waits, rfl⟩ ?_
    rintro current ⟨stillHeld, same⟩ event -
    cases event with
    | text text =>
        rw [receive, feed_of_held stillHeld]
        exact ⟨stillHeld, same⟩
    | connection up =>
        have view := SameView.setConnected current up
        constructor
        · rw [receive, isHeld, view.hold_eq]
          exact stillHeld
        · rw [receive, terminal, view.console_eq]
          exact same
  exact taken.2

theorem isSome_of_inProgress (busy : session.inProgress = true) :
    session.selection.isSome = true := by
  unfold inProgress at busy
  cases selected : session.selection with
  | none =>
      rw [selected] at busy
      cases busy
  | some selection => rfl

/-- A new size ends the selection, unless it is refused. -/
theorem resize_eq_or (session : Session) (lines columns : Nat) :
    (session.resize lines columns).1 = session ∨
      (session.resize lines columns).1.inProgress = false := by
  simp only [resize]
  split
  · exact Or.inl rfl
  · next resized _ =>
      have cleared := inProgress_clearSelection
        { session.withTerminal resized with guardDeadline := none }
      right
      split
      · next reported done =>
          rw [inProgress, (SameView.reportSize done).selection_eq]
          exact cleared
      · exact cleared

/-- A call made while a selection is in progress changes no row, unless the
selection is not in progress any more. -/
theorem buffer_call
    (held : session.HeldBy count) (sound : session.Sound) {made : Call}
    (balanced : Act.isUnfreeze (.call made) = true → 0 < count)
    (before : session.inProgress = true)
    (after : (session.call made).inProgress = true) :
    (session.call made).terminal.buffer = session.terminal.buffer := by
  cases made with
  | feed text =>
      rw [call, feed_of_held (held.isHeld_of_inProgress before)]
      rfl
  | freeze => rfl
  | unfreeze =>
      have positive := balanced rfl
      have depth := held.depth_of_inProgress before
      rw [call, unfreeze_of_deep (by omega)]
      rfl
  | startSelection x y =>
      rw [call, startSelection, if_pos (isSome_of_inProgress before)] at after
      exact absurd after (Bool.eq_false_iff.mp (inProgress_clearSelection session))
  | extendSelection x y =>
      rw [call, extendSelection]
      split <;> rfl
  | endSelection =>
      exact absurd after (Bool.eq_false_iff.mp (inProgress_endSelection session))
  | selectAll => exact absurd after (Bool.eq_false_iff.mp (inProgress_selectAll session))
  | clearSelection =>
      exact absurd after (Bool.eq_false_iff.mp (inProgress_clearSelection session))
  | pollTimers now => exact buffer_pollTimers sound now

/-- The same holds of whatever else is done with the session. -/
theorem buffer_act
    (held : session.HeldBy count) (sound : session.Sound) {done : Act}
    (balanced : done.isUnfreeze = true → 0 < count)
    (before : session.inProgress = true)
    (after : (session.act done).inProgress = true) :
    (session.act done).terminal.buffer = session.terminal.buffer := by
  have same {later : Session} (view : session.SameView later) :
      later.terminal.buffer = session.terminal.buffer :=
    congrArg (·.terminal.buffer) view.console_eq
  cases done with
  | call made => exact buffer_call held sound balanced before after
  | abortSequence => exact congrArg Terminal.buffer sound.terminal_abortSequence
  | resize lines columns =>
      rcases session.resize_eq_or lines columns with refused | ended
      · exact congrArg (·.terminal.buffer) refused
      · exact absurd after (Bool.eq_false_iff.mp ended)
  | reset => exact absurd after Bool.false_ne_true
  | takeDamage =>
      change session.terminal.takeDamage.1.buffer = _
      rw [Terminal.takeDamage_frame]
  | takeNotices => rfl
  | send text => exact same (.send session text)
  | sendKey press =>
      rw [act, sendKey]
      split
      · next text _ => exact same (.send session text)
      · rfl
  | attachChannel channel => exact same (.attachChannel session channel)
  | attachStream reads => exact same (.attachStream session reads)
  | close => exact same (.close session)
  | processOutput =>
      exact congrArg Terminal.buffer (terminal_processOutput (held.isHeld_of_inProgress before))
  | remote channel stream events => rfl

/-! ## A run -/

theorem acts_concat (session : Session) (done : List (Nat × Act)) (now : Nat) (act : Act) :
    session.acts (done ++ [(now, act)]) = ((session.acts done).atTime now).act act :=
  List.foldl_append

theorem HeldBy.acts
    (begun : session.HeldBy 0) {done : List (Nat × Act)}
    (balanced : Balanced (done.map Prod.snd)) :
    (session.acts done).HeldBy
      (freezes (done.map Prod.snd) - unfreezes (done.map Prod.snd)) := by
  induction done using List.reverseRecOn with
  | nil => exact begun
  | append_singleton done last inductionHypothesis =>
      obtain ⟨now, act⟩ := last
      rw [List.map_append] at balanced ⊢
      have held := inductionHypothesis balanced.of_append
      have timely : ((session.acts done).atTime now).HeldBy _ := held.of_eq rfl rfl rfl
      obtain ⟨countEq, positive⟩ := balanced.concat
      rw [acts_concat, List.map_singleton, countEq]
      exact timely.act positive

theorem buffer_acts
    (begun : session.HeldBy 0) (sound : session.Sound) (earlier : List (Nat × Act))
    {later : List (Nat × Act)}
    (balanced : Balanced ((earlier ++ later).map Prod.snd))
    (selecting : ∀ between, between <+: later →
      (session.acts (earlier ++ between)).inProgress = true) :
    (session.acts (earlier ++ later)).terminal.buffer =
      (session.acts earlier).terminal.buffer := by
  induction later using List.reverseRecOn with
  | nil => rw [List.append_nil]
  | append_singleton later last inductionHypothesis =>
      obtain ⟨now, act⟩ := last
      rw [← List.append_assoc, List.map_append] at balanced
      have unchanged := inductionHypothesis balanced.of_append fun between initial =>
        selecting between (initial.trans (List.prefix_append later _))
      have held := begun.acts balanced.of_append
      have before := selecting later (List.prefix_append later _)
      have after := selecting _ (List.prefix_refl _)
      rw [← List.append_assoc, acts_concat] at after ⊢
      have timely : ((session.acts (earlier ++ later)).atTime now).HeldBy _ :=
        held.of_eq rfl rfl rfl
      exact (buffer_act timely ((sound.acts _).atTime now) balanced.concat.2 before after).trans
        unchanged

/-- As long as the host lifts no more holds than it has added, the holds in force
are its own and one for the selection in progress, if there is one. While it is
in progress no row changes, whatever text comes. -/
theorem selection_holds_once
    {settings : Settings} {start : Session}
    (begun : ofSettings settings = .ok start)
    {done : List (Nat × Act)}
    (balanced : Balanced (done.map Prod.snd)) :
    (start.acts done).hold.depth + unfreezes (done.map Prod.snd) =
        freezes (done.map Prod.snd) + (if (start.acts done).inProgress then 1 else 0) ∧
      ∀ earlier later, done = earlier ++ later →
        (∀ between, between <+: later → (start.acts (earlier ++ between)).inProgress = true) →
          (start.acts done).terminal.buffer = (start.acts earlier).terminal.buffer := by
  have fresh := fresh_ofSettings begun
  have nothing := selection_ofSettings begun
  have held : start.HeldBy 0 := by
    obtain ⟨_, -, -, rfl⟩ := eq_of_ofSettings begun
    exact .of_idle rfl rfl rfl
  refine ⟨?_, ?_⟩
  · have last := held.acts balanced
    have lifted := balanced _ (List.prefix_refl _)
    rw [last.depth_eq, last.selecting_eq]
    omega
  · rintro earlier later rfl selecting
    exact buffer_acts held (.of_fresh fresh nothing) earlier balanced selecting

/-- The host lifts its own hold while cells are being selected, and the text that
it feeds then and that the remote side sends waits for the end of the selection.
A hold from before a reset does not count. -/
theorem selection_holds_once_unfreeze :
    let settings : Settings := { lines := 2, columns := 2, historyLimit := 1 }
    let start : Session :=
      { console := { terminal := blankTerminal settings {} }
        blinkPeriod := some 500, blinkDeadline := some 500 }
    let earlier : List (Nat × Act) :=
      [(0, .call .freeze), (1, .reset), (2, .call (.feed "a".toList)), (3, .call .freeze),
        (4, .call (.startSelection 0 1))]
    let later : List (Nat × Act) :=
      [(5, .call (.feed "\x1bcb".toList)), (6, .call .unfreeze),
        (7, .remote {} {} [.text "\r\n\r\nc".toList]), (8, .processOutput),
        (9, .call (.pollTimers 600))]
    let session := start.acts (earlier ++ later)
    ofSettings settings = .ok start ∧ Balanced ((earlier ++ later).map Prod.snd) ∧
      freezes ((earlier ++ later).map Prod.snd) = 1 ∧
      unfreezes ((earlier ++ later).map Prod.snd) = 1 ∧
      (∀ between, between <+: later → (start.acts (earlier ++ between)).inProgress = true) ∧
      session.hold.depth = 1 ∧
      session.terminal.buffer = (start.acts earlier).terminal.buffer := by
  intro settings start earlier later session
  have begun : ofSettings settings = .ok start := rfl
  have balanced : Balanced ((earlier ++ later).map Prod.snd) := by decide
  have added : freezes ((earlier ++ later).map Prod.snd) = 1 := by decide
  have lifted : unfreezes ((earlier ++ later).map Prod.snd) = 1 := by decide
  have busy : ∀ between ∈ later.inits, (start.acts (earlier ++ between)).inProgress = true := by
    decide +kernel
  have selecting : ∀ between, between <+: later →
      (start.acts (earlier ++ between)).inProgress = true :=
    fun between initial => busy between ((List.mem_inits between later).mpr initial)
  -- The acts are not to be done again to compare the statements.
  clear_value earlier later
  have held := selection_holds_once begun balanced
  have depth := held.1
  rw [selecting later (List.prefix_refl _), added, lifted, if_pos rfl] at depth
  exact ⟨begun, balanced, added, lifted, selecting, Nat.add_right_cancel depth,
    held.2 earlier later rfl selecting⟩

end Session

end VideoTerminal
