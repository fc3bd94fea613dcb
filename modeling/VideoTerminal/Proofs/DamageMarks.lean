import VideoTerminal.Proofs.WellFormed

/-!
What a log of damage covers. A mark covers the columns it is given and takes
nothing away; the spans that are taken are those of the rows, each row once.
-/

namespace VideoTerminal

/-- A cell is in one of some spans. -/
def Damage.Names (spans : List (Nat × Span)) (x y : Nat) : Prop :=
  ∃ span, (y, span) ∈ spans ∧ span.start ≤ x ∧ x < span.stop

namespace DamageLog

variable {log : DamageLog}

/-- The damage of row `y` covers column `x`. -/
def Covers (log : DamageLog) (x y : Nat) : Prop :=
  ∃ span, log.rows[y]? = some (some span) ∧ span.start ≤ x ∧ x < span.stop

/-- The spans of all rows are in the first `columns` columns, and none is
empty. -/
def Bounded (columns : Nat) (log : DamageLog) : Prop :=
  ∀ (y : Nat) (span : Span), log.rows[y]? = some (some span) →
    span.start < span.stop ∧ span.stop ≤ columns

/-! ## Marks -/

@[simp]
theorem full_mark (log : DamageLog) (y start stop : Nat) :
    (log.mark y start stop).full = log.full := by
  unfold mark
  split <;> rfl

/-- Nothing is added when everything is to be drawn anyway. -/
theorem mark_of_full (full : log.full = true) (y start stop : Nat) :
    log.mark y start stop = log := by
  rw [mark, if_pos (Or.inl full)]

theorem markAll_of_full (full : log.full = true) : log.markAll = log := by
  rw [markAll, ← full]

theorem getElem?_rows_mark_of_ne
    (log : DamageLog) {y row : Nat} (start stop : Nat)
    (different : y ≠ row) :
    (log.mark y start stop).rows[row]? = log.rows[row]? := by
  unfold mark
  split
  · rfl
  · exact List.getElem?_modify_ne _ _ different

/-- The span of a row after a mark on it. -/
theorem getElem?_rows_mark
    {y start stop : Nat} {before : Option Span}
    (notFull : log.full = false)
    (someColumns : start < stop)
    (found : log.rows[y]? = some before) :
    (log.mark y start stop).rows[y]? =
      some (some ((before.map fun span => span.union ⟨start, stop⟩).getD ⟨start, stop⟩)) := by
  have marks : ¬(log.full = true ∨ start ≥ stop) := by
    rintro (full | empty)
    · exact Bool.false_ne_true (notFull.symm.trans full)
    · omega
  unfold mark
  rw [if_neg marks, List.getElem?_modify_eq, found]
  rfl

theorem Covers.mark {x y : Nat} (covers : log.Covers x y) (row start stop : Nat) :
    (log.mark row start stop).Covers x y := by
  by_cases marks : log.full = true ∨ start ≥ stop
  · unfold DamageLog.mark
    rw [if_pos marks]
    exact covers
  · have notFull : log.full = false := by
      cases full : log.full with
      | false => rfl
      | true => exact absurd (Or.inl full) marks
    obtain ⟨span, found, reached, within⟩ := covers
    by_cases same : row = y
    · subst same
      refine ⟨_, getElem?_rows_mark notFull (by omega) found, ?_, ?_⟩
      · exact Nat.le_trans (Nat.min_le_left _ _) reached
      · exact Nat.lt_of_lt_of_le within (Nat.le_max_left _ _)
    · refine ⟨span, ?_, reached, within⟩
      rw [getElem?_rows_mark_of_ne _ _ _ same]
      exact found

theorem covers_mark
    {x y start stop : Nat}
    (notFull : log.full = false)
    (inside : y < log.rows.length)
    (reached : start ≤ x)
    (within : x < stop) :
    (log.mark y start stop).Covers x y := by
  have found := List.getElem?_eq_getElem inside
  refine ⟨_, getElem?_rows_mark notFull (by omega) found, ?_, ?_⟩
  · cases log.rows[y] with
    | none => exact reached
    | some span => exact Nat.le_trans (Nat.min_le_right _ _) reached
  · cases log.rows[y] with
    | none => exact within
    | some span => exact Nat.lt_of_lt_of_le within (Nat.le_max_right _ _)

theorem Bounded.mark
    {columns : Nat}
    (bounded : log.Bounded columns)
    {stop : Nat}
    (inside : stop ≤ columns)
    (y start : Nat) :
    (log.mark y start stop).Bounded columns := by
  intro row span found
  by_cases marks : log.full = true ∨ start ≥ stop
  · unfold DamageLog.mark at found
    rw [if_pos marks] at found
    exact bounded row span found
  · have notFull : log.full = false := by
      cases full : log.full with
      | false => rfl
      | true => exact absurd (Or.inl full) marks
    by_cases same : y = row
    · subst same
      have rowInside : y < log.rows.length := by
        have inRows := (List.getElem?_eq_some_iff.mp found).1
        rwa [length_rows_mark] at inRows
      have known := List.getElem?_eq_getElem rowInside
      rw [getElem?_rows_mark notFull (by omega) known] at found
      cases earlier : log.rows[y] with
      | none =>
          rw [earlier] at found
          cases found
          exact ⟨by dsimp; omega, inside⟩
      | some old =>
          rw [earlier] at found known
          cases found
          have oldBounds := bounded y old known
          constructor
          · exact Nat.lt_of_le_of_lt (Nat.min_le_left _ _)
              (Nat.lt_of_lt_of_le oldBounds.1 (Nat.le_max_left _ _))
          · exact Nat.max_le.mpr ⟨oldBounds.2, inside⟩
    · rw [getElem?_rows_mark_of_ne _ _ _ same] at found
      exact bounded row span found

/-! ## Marks of several rows -/

@[simp]
theorem full_markRows (log : DamageLog) (top bottom columns : Nat) :
    (log.markRows top bottom columns).full = log.full := by
  unfold markRows
  generalize List.range (bottom + 1 - top) = steps
  induction steps generalizing log with
  | nil => rfl
  | cons step rest inductionHypothesis =>
      rw [List.foldl_cons, inductionHypothesis, full_mark]

theorem markRows_of_full (full : log.full = true) (top bottom columns : Nat) :
    log.markRows top bottom columns = log := by
  refine List.foldlRecOn (List.range (bottom + 1 - top)) _ (motive := (· = log)) rfl ?_
  rintro _ rfl k _
  exact mark_of_full full _ _ _

theorem Covers.foldl_mark
    {x y : Nat} (covers : log.Covers x y)
    {item : Type} (row start stop : item → Nat) (items : List item) :
    (items.foldl (fun current each => current.mark (row each) (start each) (stop each)) log).Covers
      x y := by
  induction items generalizing log with
  | nil => exact covers
  | cons head rest inductionHypothesis => exact inductionHypothesis (covers.mark _ _ _)

theorem Bounded.foldl_mark
    {columns : Nat} (bounded : log.Bounded columns)
    {item : Type} (row start stop : item → Nat) {items : List item}
    (inside : ∀ each ∈ items, stop each ≤ columns) :
    (items.foldl (fun current each => current.mark (row each) (start each) (stop each)) log).Bounded
      columns := by
  induction items generalizing log with
  | nil => exact bounded
  | cons head rest inductionHypothesis =>
      have marked := bounded.mark (inside head List.mem_cons_self) (row head) (start head)
      exact inductionHypothesis marked fun each member =>
        inside each (List.mem_cons_of_mem head member)

theorem Covers.markRows {x y : Nat} (covers : log.Covers x y) (top bottom columns : Nat) :
    (log.markRows top bottom columns).Covers x y :=
  covers.foldl_mark _ _ _ _

theorem Bounded.markRows {columns : Nat} (bounded : log.Bounded columns) (top bottom : Nat) :
    (log.markRows top bottom columns).Bounded columns :=
  bounded.foldl_mark _ _ _ fun _ _ => Nat.le_refl columns

theorem covers_foldl_mark
    {item : Type} (row start stop : item → Nat) {items : List item} {each : item} {x : Nat}
    (notFull : log.full = false)
    (member : each ∈ items)
    (inside : row each < log.rows.length)
    (reached : start each ≤ x)
    (within : x < stop each) :
    (items.foldl (fun current each => current.mark (row each) (start each) (stop each)) log).Covers
      x (row each) := by
  induction items generalizing log with
  | nil => cases member
  | cons head rest inductionHypothesis =>
      rcases List.mem_cons.mp member with rfl | later
      · exact (covers_mark notFull inside reached within).foldl_mark _ _ _ _
      · refine inductionHypothesis ?_ later ?_
        · rw [full_mark, notFull]
        · rw [length_rows_mark]
          exact inside

theorem covers_markRows
    {top bottom columns x y : Nat}
    (notFull : log.full = false)
    (bottomInside : bottom < log.rows.length)
    (column : x < columns)
    (lower : top ≤ y)
    (upper : y ≤ bottom) :
    (log.markRows top bottom columns).Covers x y := by
  have member : y - top ∈ List.range (bottom + 1 - top) := by
    rw [List.mem_range]
    omega
  have here : top + (y - top) = y := by omega
  have covers := covers_foldl_mark (fun k => top + k) (fun _ => 0) (fun _ => columns) notFull
    member (by omega) (Nat.zero_le x) column
  rw [here] at covers
  exact covers

/-! ## Spans -/

theorem mem_spansFrom
    {rows : List (Option Span)} {first y : Nat} {span : Span} :
    (y, span) ∈ spansFrom first rows ↔ first ≤ y ∧ rows[y - first]? = some (some span) := by
  induction rows generalizing first with
  | nil => simp [spansFrom]
  | cons row rest inductionHypothesis =>
      have later :
          (y, span) ∈ spansFrom (first + 1) rest ↔
            first < y ∧ (row :: rest)[y - first]? = some (some span) := by
        rw [inductionHypothesis]
        constructor
        · rintro ⟨above, found⟩
          have index : y - first = y - (first + 1) + 1 := by omega
          exact ⟨above, by rw [index, List.getElem?_cons_succ]; exact found⟩
        · rintro ⟨above, found⟩
          have index : y - first = y - (first + 1) + 1 := by omega
          rw [index, List.getElem?_cons_succ] at found
          exact ⟨above, found⟩
      cases row with
      | none =>
          rw [spansFrom, later]
          constructor
          · rintro ⟨above, found⟩
            exact ⟨Nat.le_of_lt above, found⟩
          · rintro ⟨above, found⟩
            have different : first ≠ y := by
              rintro rfl
              simp at found
            exact ⟨by omega, found⟩
      | some here =>
          rw [spansFrom, List.mem_cons, later]
          constructor
          · rintro (same | ⟨above, found⟩)
            · obtain ⟨rfl, rfl⟩ := Prod.mk.inj same
              exact ⟨Nat.le_refl y, by simp⟩
            · exact ⟨Nat.le_of_lt above, found⟩
          · rintro ⟨above, found⟩
            by_cases same : first = y
            · subst same
              rw [Nat.sub_self] at found
              cases found
              exact Or.inl rfl
            · exact Or.inr ⟨by omega, found⟩

theorem nodup_spansFrom (rows : List (Option Span)) (first : Nat) :
    ((spansFrom first rows).map Prod.fst).Nodup := by
  induction rows generalizing first with
  | nil => exact List.nodup_nil
  | cons row rest inductionHypothesis =>
      cases row with
      | none => exact inductionHypothesis (first + 1)
      | some here =>
          rw [spansFrom, List.map_cons, List.nodup_cons]
          refine ⟨?_, inductionHypothesis (first + 1)⟩
          intro member
          obtain ⟨⟨y, span⟩, found, rfl⟩ := List.mem_map.mp member
          have above := (mem_spansFrom.mp found).1
          dsimp only at above
          omega

theorem names_spansFrom {x y : Nat} :
    Damage.Names (spansFrom 0 log.rows) x y ↔ log.Covers x y := by
  constructor
  · rintro ⟨span, member, within⟩
    exact ⟨span, (mem_spansFrom.mp member).2, within⟩
  · rintro ⟨span, found, within⟩
    exact ⟨span, mem_spansFrom.mpr ⟨Nat.zero_le y, found⟩, within⟩

theorem bounded_take (log : DamageLog) (columns : Nat) : log.take.1.Bounded columns := by
  intro y span found
  change (log.rows.map fun _ => none)[y]? = some (some span) at found
  rw [List.getElem?_map] at found
  cases slot : log.rows[y]? <;> rw [slot] at found <;> cases found

theorem of_take_eq_spans
    {spans : List (Nat × Span)}
    (taken : log.take.2 = .spans spans) :
    log.full = false ∧ spans = spansFrom 0 log.rows := by
  unfold take at taken
  cases full : log.full with
  | false =>
      rw [full] at taken
      exact ⟨rfl, (Damage.spans.inj taken).symm⟩
  | true =>
      rw [full] at taken
      cases taken

end DamageLog

end VideoTerminal
