import VideoTerminal.Proofs.Steps

/-!
Marks that move. They move one after the other in reading order, each being
taken off and put down again, so that a mark is lost when it has yet to move
and another one is put down on it. What is marked after a move is what the
moves say, but for the places at which that happens.
-/

namespace VideoTerminal

namespace Position

variable {first second third : Position}

theorem before_iff :
    first.before second = true ↔
      first.y < second.y ∨ (first.y = second.y ∧ first.x < second.x) := by
  simp [before]

theorem not_before_self (position : Position) : ¬position.before position = true := by
  rw [before_iff]
  omega

theorem not_before_of_before (before : first.before second = true) :
    ¬second.before first = true := by
  rw [before_iff] at before ⊢
  omega

theorem before_trans
    (early : first.before second = true)
    (late : second.before third = true) :
    first.before third = true := by
  rw [before_iff] at early late ⊢
  omega

theorem before_of_not_before
    (different : first ≠ second)
    (not : ¬first.before second = true) :
    second.before first = true := by
  rw [before_iff] at not ⊢
  have apart : first.x ≠ second.x ∨ first.y ≠ second.y := by
    by_contra same
    apply different
    cases first
    cases second
    simp only [Position.mk.injEq]
    dsimp only at same
    omega
  omega

end Position

namespace BlinkMarks

variable {marks : BlinkMarks} {position mark : Position} {moves : Position → Bool}
variable {target : Position → Option Position} {lines columns x y row start count : Nat}

/-! ## Marks are a set -/

/-- The marks stand in reading order, each only once. -/
def Ordered (marks : BlinkMarks) : Prop :=
  marks.positions.Pairwise fun first second => first.before second = true

theorem ordered_empty : Ordered {} :=
  List.Pairwise.nil

theorem Ordered.filter (ordered : marks.Ordered) (keep : Position → Bool) :
    (marks.filter keep).Ordered :=
  List.Pairwise.filter keep ordered

theorem Ordered.insert (ordered : marks.Ordered) (position : Position) :
    (marks.insert position).Ordered := by
  obtain ⟨positions⟩ := marks
  change (insertOrdered position positions).Pairwise _
  change positions.Pairwise _ at ordered
  induction positions with
  | nil => exact List.pairwise_singleton _ position
  | cons head rest inductionHypothesis =>
      obtain ⟨headFirst, restOrdered⟩ := List.pairwise_cons.mp ordered
      rw [insertOrdered]
      by_cases same : position = head
      · rw [if_pos same]
        exact ordered
      · rw [if_neg same]
        by_cases here : position.before head = true
        · rw [if_pos here]
          refine List.pairwise_cons.mpr ⟨?_, ordered⟩
          intro mark member
          rcases List.mem_cons.mp member with rfl | later
          · exact here
          · exact Position.before_trans here (headFirst mark later)
        · rw [if_neg here]
          refine List.pairwise_cons.mpr ⟨?_, inductionHypothesis restOrdered⟩
          intro mark member
          rcases mem_insertOrdered.mp member with rfl | later
          · exact Position.before_of_not_before same here
          · exact headFirst mark later

theorem mem_insert :
    position ∈ (marks.insert mark).positions ↔ position = mark ∨ position ∈ marks.positions :=
  mem_insertOrdered

theorem mem_erase :
    position ∈ (marks.erase mark).positions ↔ position ∈ marks.positions ∧ position ≠ mark := by
  simp [erase, filter]

theorem mem_eraseRow :
    position ∈ (marks.eraseRow y).positions ↔ position ∈ marks.positions ∧ position.y ≠ y := by
  simp [eraseRow, filter]

theorem mem_eraseSpan {stop : Nat} :
    position ∈ (marks.eraseSpan y start stop).positions ↔
      position ∈ marks.positions ∧
        ¬(position.y = y ∧ start ≤ position.x ∧ position.x < stop) := by
  simp only [eraseSpan, filter, List.mem_filter, Bool.or_eq_true, bne_iff_ne, decide_eq_true_iff]
  constructor <;> rintro ⟨member, place⟩ <;> exact ⟨member, by omega⟩

/-! ## One mark after the other -/

/-- Take a mark off and put it down at its target. -/
def move (target : Position → Option Position) (marks : BlinkMarks) (mark : Position) :
    BlinkMarks :=
  ((target mark).map (marks.erase mark).insert).getD (marks.erase mark)

theorem Ordered.move (ordered : marks.Ordered) (mark : Position) :
    (marks.move target mark).Ordered := by
  rw [BlinkMarks.move]
  cases target mark with
  | none => exact ordered.filter _
  | some place => exact (ordered.filter _).insert place

theorem mem_move :
    position ∈ (marks.move target mark).positions ↔
      (position ∈ marks.positions ∧ position ≠ mark) ∨ target mark = some position := by
  rw [move]
  cases target mark with
  | none => simp [mem_erase]
  | some place =>
      rw [Option.map_some, Option.getD_some, mem_insert, mem_erase, Option.some_inj, or_comm,
        eq_comm]

/-- The marks after some of them have moved in reading order. -/
theorem mem_foldl_move
    {moving : List Position}
    (ordered : moving.Pairwise fun first second => first.before second = true) :
    position ∈ (moving.foldl (move target) marks).positions ↔
      (position ∈ marks.positions ∧ position ∉ moving) ∨
        ∃ mark ∈ moving, target mark = some position ∧
          ¬(position ∈ moving ∧ mark.before position = true) := by
  induction moving generalizing marks with
  | nil => simp
  | cons head rest inductionHypothesis =>
      obtain ⟨headFirst, restOrdered⟩ := List.pairwise_cons.mp ordered
      rw [List.foldl_cons, inductionHypothesis restOrdered, mem_move]
      -- The head itself is behind every mark that moves later.
      have lateMark : ∀ mark ∈ rest,
          (position ∈ head :: rest ∧ mark.before position = true ↔
            position ∈ rest ∧ mark.before position = true) := by
        intro mark member
        constructor
        · rintro ⟨moving, before⟩
          rcases List.mem_cons.mp moving with rfl | later
          · exact absurd before (Position.not_before_of_before (headFirst mark member))
          · exact ⟨later, before⟩
        · rintro ⟨later, before⟩
          exact ⟨List.mem_cons_of_mem head later, before⟩
      have headMark :
          position ∈ head :: rest ∧ head.before position = true ↔ position ∈ rest := by
        constructor
        · rintro ⟨moving, before⟩
          rcases List.mem_cons.mp moving with rfl | later
          · exact absurd before (Position.not_before_self position)
          · exact later
        · exact fun later => ⟨List.mem_cons_of_mem head later, headFirst position later⟩
      constructor
      · rintro (⟨⟨old, notHead⟩ | landed, notRest⟩ | ⟨mark, member, landed, alone⟩)
        · left
          refine ⟨old, ?_⟩
          rw [List.mem_cons]
          rintro (rfl | later)
          · exact notHead rfl
          · exact notRest later
        · right
          exact ⟨head, List.mem_cons_self, landed, by rwa [headMark]⟩
        · right
          exact ⟨mark, List.mem_cons_of_mem head member, landed, by rwa [lateMark mark member]⟩
      · rintro (⟨old, notMoving⟩ | ⟨mark, member, landed, alone⟩)
        · rw [List.mem_cons, not_or] at notMoving
          exact Or.inl ⟨Or.inl ⟨old, notMoving.1⟩, notMoving.2⟩
        · rcases List.mem_cons.mp member with rfl | later
          · rw [headMark] at alone
            exact Or.inl ⟨Or.inr landed, alone⟩
          · rw [lateMark mark later] at alone
            exact Or.inr ⟨mark, later, landed, alone⟩

theorem Ordered.relocate (ordered : marks.Ordered) :
    (marks.relocate moves target).Ordered :=
  List.foldlRecOn _ (BlinkMarks.move target) (motive := Ordered) ordered
    fun _ current mark _ => current.move mark

/-- A mark that moves is put down at its target, unless the mark there has yet
to move. -/
theorem mem_relocate (ordered : marks.Ordered) :
    position ∈ (marks.relocate moves target).positions ↔
      (position ∈ marks.positions ∧ moves position = false) ∨
        ∃ mark ∈ marks.positions, moves mark = true ∧ target mark = some position ∧
          ¬(position ∈ marks.positions ∧ moves position = true ∧
            mark.before position = true) := by
  change position ∈ ((marks.positions.filter moves).foldl (move target) marks).positions ↔ _
  rw [mem_foldl_move (List.Pairwise.filter moves ordered)]
  simp only [List.mem_filter, and_assoc]
  apply or_congr
  · apply and_congr_right
    intro member
    rw [← Bool.not_eq_true]
    exact ⟨fun still moving => still ⟨member, moving⟩, fun still moving => still moving.2⟩
  · exact Iff.rfl

theorem within?_eq_some {low high n place : Nat} {amount : Int} :
    within? low high n amount = some place ↔
      (place : Int) = n + amount ∧ low ≤ place ∧ place ≤ high := by
  rw [within?]
  by_cases inside : (low : Int) ≤ n + amount ∧ (n : Int) + amount ≤ high
  · rw [if_pos inside, Option.some_inj]
    omega
  · rw [if_neg inside]
    constructor
    · rintro ⟨⟩
    · rintro ⟨placeEq, bounds⟩
      omega

/-! ## Shifts -/

theorem mem_shiftColumns (ordered : marks.Ordered) {amount : Int} :
    ⟨x, row⟩ ∈ (marks.shiftColumns y start columns amount).positions ↔
      (⟨x, row⟩ ∈ marks.positions ∧ ¬(row = y ∧ start ≤ x)) ∨
        row = y ∧ x < columns ∧
          ∃ column : Nat, (x : Int) = column + amount ∧ start ≤ column ∧
            ⟨column, y⟩ ∈ marks.positions ∧
            ¬(⟨x, y⟩ ∈ marks.positions ∧ start ≤ x ∧ column < x) := by
  rw [shiftColumns, mem_relocate ordered]
  apply or_congr
  · simp
  · constructor
    · rintro ⟨⟨column, markRow⟩, member, moving, landed, alone⟩
      rw [Bool.and_eq_true, beq_iff_eq, decide_eq_true_iff] at moving
      obtain ⟨rfl, reached⟩ := moving
      dsimp only at landed
      by_cases none : columns = 0
      · rw [if_pos none] at landed
        cases landed
      · rw [if_neg none, Option.map_eq_some_iff] at landed
        obtain ⟨place, found, same⟩ := landed
        obtain ⟨rfl, rfl⟩ := Position.mk.inj same
        obtain ⟨placeEq, -, inside⟩ := within?_eq_some.mp found
        refine ⟨rfl, by omega, column, placeEq, reached, member, ?_⟩
        rintro ⟨here, reachedHere, before⟩
        apply alone
        refine ⟨here, by simp [reachedHere], ?_⟩
        rw [Position.before_iff]
        exact Or.inr ⟨rfl, before⟩
    · rintro ⟨rfl, inside, column, placeEq, reached, member, alone⟩
      refine ⟨⟨column, row⟩, member, by simp [reached], ?_, ?_⟩
      · rw [if_neg (by omega), within?_eq_some.mpr ⟨placeEq, by omega, by omega⟩]
        rfl
      · rintro ⟨here, moving, before⟩
        rw [Bool.and_eq_true, decide_eq_true_iff] at moving
        rw [Position.before_iff] at before
        dsimp only at before
        exact alone ⟨here, moving.2, by omega⟩

/-- A mark that moves right is lost when there is one where it is put down. -/
theorem mem_shiftColumns_right (ordered : marks.Ordered) :
    ⟨x, row⟩ ∈ (marks.shiftColumns y start columns count).positions ↔
      (⟨x, row⟩ ∈ marks.positions ∧ ¬(row = y ∧ start ≤ x)) ∨
        row = y ∧ x < columns ∧ start + count ≤ x ∧ ⟨x - count, y⟩ ∈ marks.positions ∧
          ¬(0 < count ∧ ⟨x, y⟩ ∈ marks.positions) := by
  rw [mem_shiftColumns ordered]
  apply or_congr_right
  apply and_congr_right
  intro _
  apply and_congr_right
  intro _
  constructor
  · rintro ⟨column, placeEq, reached, member, alone⟩
    obtain rfl : column = x - count := by omega
    exact ⟨by omega, member, fun ⟨_, here⟩ => alone ⟨here, by omega, by omega⟩⟩
  · rintro ⟨reached, member, alone⟩
    exact ⟨x - count, by omega, by omega, member, fun ⟨here, _, before⟩ =>
      alone ⟨by omega, here⟩⟩

theorem mem_shiftColumns_left (ordered : marks.Ordered) :
    ⟨x, row⟩ ∈ (marks.shiftColumns y start columns (-(count : Int))).positions ↔
      (⟨x, row⟩ ∈ marks.positions ∧ ¬(row = y ∧ start ≤ x)) ∨
        row = y ∧ x < columns ∧ start ≤ x + count ∧ ⟨x + count, y⟩ ∈ marks.positions := by
  rw [mem_shiftColumns ordered]
  apply or_congr_right
  apply and_congr_right
  intro _
  apply and_congr_right
  intro _
  constructor
  · rintro ⟨column, placeEq, reached, member, -⟩
    obtain rfl : column = x + count := by omega
    exact ⟨reached, member⟩
  · rintro ⟨reached, member⟩
    exact ⟨x + count, by omega, reached, member, fun ⟨_, _, before⟩ => by omega⟩

/-- A mark that moves down is lost when there is one where it is put down. -/
theorem mem_shiftRows (ordered : marks.Ordered) {top bottom : Nat} {amount : Int} :
    ⟨x, y⟩ ∈ (marks.shiftRows top bottom amount).positions ↔
      (⟨x, y⟩ ∈ marks.positions ∧ ¬(top ≤ y ∧ y ≤ bottom)) ∨
        (top ≤ y ∧ y ≤ bottom) ∧
          ∃ row : Nat, (row : Int) = y + amount ∧ (top ≤ row ∧ row ≤ bottom) ∧
            ⟨x, row⟩ ∈ marks.positions ∧ ¬(row < y ∧ ⟨x, y⟩ ∈ marks.positions) := by
  rw [shiftRows, mem_relocate ordered]
  apply or_congr
  · simp
  · constructor
    · rintro ⟨⟨column, row⟩, member, moving, landed, alone⟩
      rw [Bool.and_eq_true, decide_eq_true_iff, decide_eq_true_iff] at moving
      obtain ⟨place, found, same⟩ := Option.map_eq_some_iff.mp landed
      obtain ⟨rfl, rfl⟩ := Position.mk.inj same
      obtain ⟨placeEq, inside⟩ := within?_eq_some.mp found
      dsimp only at placeEq inside moving
      refine ⟨inside, row, by omega, moving, member, ?_⟩
      rintro ⟨before, here⟩
      apply alone
      refine ⟨here, by simp [inside], ?_⟩
      rw [Position.before_iff]
      exact Or.inl before
    · rintro ⟨inside, row, placeEq, bounds, member, alone⟩
      refine ⟨⟨x, row⟩, member, by simp [bounds], ?_, ?_⟩
      · have landed : within? top bottom row (-amount) = some y :=
          within?_eq_some.mpr ⟨by omega, inside⟩
        rw [landed]
        rfl
      · rintro ⟨here, -, before⟩
        rw [Position.before_iff] at before
        dsimp only at before
        exact alone ⟨by omega, here⟩

/-! ## Collisions -/

theorem collidesRight_iff :
    marks.collidesRight y start count = true ↔
      0 < count ∧
        ∃ x, start ≤ x ∧ ⟨x, y⟩ ∈ marks.positions ∧ ⟨x + count, y⟩ ∈ marks.positions := by
  simp only [collidesRight, Bool.and_eq_true, decide_eq_true_iff, List.any_eq_true, beq_iff_eq,
    List.contains_eq_mem]
  apply and_congr_right
  intro _
  constructor
  · rintro ⟨⟨x, row⟩, member, ⟨rfl, reached⟩, landed⟩
    exact ⟨x, reached, member, landed⟩
  · rintro ⟨x, reached, member, landed⟩
    exact ⟨⟨x, y⟩, member, ⟨rfl, reached⟩, landed⟩

theorem collidesDown_iff {top bottom : Nat} :
    marks.collidesDown top bottom count = true ↔
      0 < count ∧
        ∃ x y, top ≤ y ∧ y + count ≤ bottom ∧
          ⟨x, y⟩ ∈ marks.positions ∧ ⟨x, y + count⟩ ∈ marks.positions := by
  simp only [collidesDown, Bool.and_eq_true, decide_eq_true_iff, List.any_eq_true,
    List.contains_eq_mem]
  apply and_congr_right
  intro _
  constructor
  · rintro ⟨⟨x, y⟩, member, ⟨above, below⟩, landed⟩
    exact ⟨x, y, above, below, member, landed⟩
  · rintro ⟨x, y, above, below, member, landed⟩
    exact ⟨⟨x, y⟩, member, ⟨above, below⟩, landed⟩

end BlinkMarks

end VideoTerminal
