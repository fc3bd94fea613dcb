import VideoTerminal.Grid.Ring

/-!
A ring as the list of its items. Every operation on the storage has a
counterpart on the list, as long as the storage begins at one of its slots.
-/

namespace VideoTerminal.Ring

variable {alpha : Type}

@[simp]
theorem size_ofList (items : List alpha) :
    (ofList items).size = items.length := by
  simp [ofList, size]

@[simp]
theorem start_ofList (items : List alpha) :
    (ofList items).start = 0 := rfl

@[simp]
theorem toList_ofList (items : List alpha) :
    (ofList items).toList = items := by
  simp [ofList, toList]

@[simp]
theorem size_modify (ring : Ring alpha) (index : Nat) (change : alpha → alpha) :
    (ring.modify index change).size = ring.size := by
  simp [modify, size]

@[simp]
theorem start_modify (ring : Ring alpha) (index : Nat) (change : alpha → alpha) :
    (ring.modify index change).start = ring.start := rfl

@[simp]
theorem size_swap (ring : Ring alpha) (first second : Nat) :
    (ring.swap first second).size = ring.size := by
  simp [swap, size]

@[simp]
theorem start_swap (ring : Ring alpha) (first second : Nat) :
    (ring.swap first second).start = ring.start := rfl

@[simp]
theorem size_push (ring : Ring alpha) (item : alpha) :
    (ring.push item).size = ring.size + 1 := by
  simp [push, size]

@[simp]
theorem start_push (ring : Ring alpha) (item : alpha) :
    (ring.push item).start = ring.start := rfl

@[simp]
theorem size_recycle (ring : Ring alpha) (change : alpha → alpha) :
    (ring.recycle change).size = ring.size := by
  simp [recycle, size]

@[simp]
theorem length_toList (ring : Ring alpha) :
    ring.toList.length = ring.size := by
  simp [toList, size]
  omega

@[simp]
theorem size_keepLast (ring : Ring alpha) (count : Nat) :
    (ring.keepLast count).size = min count ring.size := by
  simp [keepLast]
  omega

@[simp]
theorem start_keepLast (ring : Ring alpha) (count : Nat) :
    (ring.keepLast count).start = 0 := rfl

/-! ## Slots -/

theorem slot_lt
    {ring : Ring alpha}
    (startInside : ring.start < ring.size)
    (index : Nat) :
    ring.slot index < ring.size :=
  Nat.mod_lt _ (by simp only [size] at startInside; omega)

theorem slot_of_lt
    {ring : Ring alpha} {index : Nat}
    (before : ring.start + index < ring.size) :
    ring.slot index = ring.start + index :=
  Nat.mod_eq_of_lt before

theorem slot_of_le
    {ring : Ring alpha} {index : Nat}
    (startInside : ring.start < ring.size)
    (indexInside : index < ring.size)
    (after : ring.size ≤ ring.start + index) :
    ring.slot index = ring.start + index - ring.size := by
  rw [slot, ← size, Nat.mod_eq_sub_mod after]
  exact Nat.mod_eq_of_lt (by omega)

/-- Different items have different slots. -/
theorem slot_injective
    {ring : Ring alpha} {first second : Nat}
    (startInside : ring.start < ring.size)
    (firstInside : first < ring.size)
    (secondInside : second < ring.size)
    (sameSlot : ring.slot first = ring.slot second) :
    first = second := by
  rcases Nat.lt_or_ge (ring.start + first) ring.size with firstBefore | firstAfter <;>
    rcases Nat.lt_or_ge (ring.start + second) ring.size with secondBefore | secondAfter <;>
    simp only [slot_of_lt, slot_of_le, *] at sameSlot <;>
    omega

/-! ## The list -/

/-- Items are found by their place in the list. -/
theorem getElem?_toList
    {ring : Ring alpha} {index : Nat}
    (startInside : ring.start < ring.size)
    (indexInside : index < ring.size) :
    ring.toList[index]? = ring.get? index := by
  rw [toList, get?, List.getElem?_append]
  simp only [List.length_drop, Array.length_toList]
  have slotCount : ring.slots.size = ring.size := rfl
  by_cases before : ring.start + index < ring.size
  · rw [if_pos (by omega), slot_of_lt before]
    simp
  · rw [if_neg (by omega), slot_of_le startInside indexInside (by omega),
      List.getElem?_take_of_lt (by omega)]
    simp only [Array.getElem?_toList]
    congr 1
    omega

theorem mem_toList {ring : Ring alpha} {item : alpha} :
    item ∈ ring.toList ↔ item ∈ ring.slots := by
  rw [toList, List.mem_append, ← Array.mem_toList_iff]
  constructor
  · rintro (later | earlier)
    · exact List.mem_of_mem_drop later
    · exact List.mem_of_mem_take earlier
  · intro member
    rw [← List.take_append_drop ring.start ring.slots.toList] at member
    exact (List.mem_append.mp member).symm

theorem get?_mem
    {ring : Ring alpha} {index : Nat} {item : alpha}
    (found : ring.get? index = some item) :
    item ∈ ring.toList :=
  mem_toList.mpr (Array.mem_of_getElem? found)

/-- A ring whose storage begins at one of its slots has an item at every place. -/
theorem exists_get?
    {ring : Ring alpha}
    (startInside : ring.start < ring.size)
    (index : Nat) :
    ∃ item, ring.get? index = some item :=
  ⟨_, Array.getElem?_eq_getElem (slot_lt startInside index)⟩

/-- Two rings are the same list when they have the same items at the same
places. -/
theorem toList_eq_of_get?
    {ring : Ring alpha} {items : List alpha}
    (startInside : ring.start < ring.size)
    (sameSize : ring.size = items.length)
    (sameItems : ∀ index, index < ring.size → ring.get? index = items[index]?) :
    ring.toList = items := by
  apply List.ext_getElem?
  intro index
  by_cases inside : index < ring.size
  · rw [getElem?_toList startInside inside, sameItems index inside]
  · rw [List.getElem?_eq_none (by simp; omega), List.getElem?_eq_none (by omega)]

theorem toList_modify
    {ring : Ring alpha} {index : Nat}
    (startInside : ring.start < ring.size)
    (indexInside : index < ring.size)
    (change : alpha → alpha) :
    (ring.modify index change).toList = ring.toList.modify index change := by
  apply toList_eq_of_get?
  · simpa using startInside
  · simp
  · intro other otherInside
    rw [size_modify] at otherInside
    rw [List.getElem?_modify, getElem?_toList startInside otherInside]
    have slots :
        (ring.modify index change).slot other = ring.slot other := by
      simp [slot, modify]
    rw [get?, slots, modify, Array.getElem?_modify, ← get?]
    by_cases same : index = other
    · simp [same]
    · have otherSlot : ring.slot index ≠ ring.slot other := fun sameSlot =>
        same (slot_injective startInside indexInside otherInside sameSlot)
      simp [same, otherSlot]

theorem toList_push
    {ring : Ring alpha}
    (straight : ring.start = 0)
    (item : alpha) :
    (ring.push item).toList = ring.toList ++ [item] := by
  simp [toList, push, straight]

/-- The list without its oldest item, and that item, changed, at the end. -/
theorem toList_recycle
    {ring : Ring alpha}
    (startInside : ring.start < ring.size)
    (change : alpha → alpha) :
    ∃ oldest rest,
      ring.toList = oldest :: rest ∧ (ring.recycle change).toList = rest ++ [change oldest] := by
  have slotInside : ring.start < ring.slots.toList.length := startInside
  obtain ⟨earlier, later, split, earlierLength⟩ :
      ∃ earlier later,
        ring.slots.toList = earlier ++ ring.slots.toList[ring.start] :: later ∧
          earlier.length = ring.start := by
    refine ⟨ring.slots.toList.take ring.start, ring.slots.toList.drop (ring.start + 1), ?_, ?_⟩
    · rw [List.getElem_cons_drop, List.take_append_drop]
    · rw [List.length_take, Nat.min_eq_left (Nat.le_of_lt slotInside)]
  generalize ring.slots.toList[ring.start] = oldest at split
  have sizeEq : ring.slots.size = ring.start + later.length + 1 := by
    rw [← Array.length_toList, split, List.length_append, List.length_cons, earlierLength]
    omega
  have changed :
      (ring.slots.modify ring.start change).toList = earlier ++ change oldest :: later := by
    rw [Array.toList_modify, split, ← earlierLength, List.modify_eq_take_cons_drop]
    · simp
    · simp
  refine ⟨oldest, later ++ earlier, ?_, ?_⟩
  · rw [toList, split, ← earlierLength]
    simp
  · simp only [recycle, toList, changed, sizeEq]
    cases later with
    | nil =>
        rw [List.length_nil, Nat.add_zero, Nat.mod_self]
        simp
    | cons next others =>
        rw [Nat.mod_eq_of_lt (by rw [List.length_cons]; omega), ← earlierLength]
        have dropsAll : earlier.drop (earlier.length + 1) = [] :=
          List.drop_of_length_le (Nat.le_succ _)
        have takesAll : earlier.take (earlier.length + 1) = earlier :=
          List.take_of_length_le (Nat.le_succ _)
        simp [List.drop_append, List.take_append, dropsAll, takesAll]

theorem getElem?_array_swap
    {items : Array alpha} {first second : Nat}
    (firstInside : first < items.size)
    (secondInside : second < items.size)
    (index : Nat) :
    (items.swapIfInBounds first second)[index]? =
      if index = second then items[first]?
      else if index = first then items[second]?
      else items[index]? := by
  rw [Array.swapIfInBounds_def, dif_pos firstInside, dif_pos secondInside, Array.getElem?_swap]
  simp only [eq_comm (b := index), Array.getElem?_eq_getElem, firstInside, secondInside]

/-- Exchange two items of a list. -/
def exchange (first second : Nat) (items : List alpha) : List alpha :=
  (items.toArray.swapIfInBounds first second).toList

@[simp]
theorem length_exchange (first second : Nat) (items : List alpha) :
    (exchange first second items).length = items.length := by
  simp [exchange]

theorem getElem?_exchange
    {items : List alpha} {first second : Nat}
    (firstInside : first < items.length)
    (secondInside : second < items.length)
    (index : Nat) :
    (exchange first second items)[index]? =
      if index = second then items[first]?
      else if index = first then items[second]?
      else items[index]? := by
  rw [exchange, Array.getElem?_toList,
    getElem?_array_swap (by simpa using firstInside) (by simpa using secondInside)]
  simp

theorem toList_swap
    {ring : Ring alpha} {first second : Nat}
    (startInside : ring.start < ring.size)
    (firstInside : first < ring.size)
    (secondInside : second < ring.size) :
    (ring.swap first second).toList = exchange first second ring.toList := by
  apply toList_eq_of_get?
  · simpa using startInside
  · simp
  · intro other otherInside
    rw [size_swap] at otherInside
    have sameSlot : (ring.swap first second).slot other = ring.slot other := by
      simp [slot, swap]
    have slotOf {index : Nat} (inside : index < ring.size) :
        ring.slot other = ring.slot index ↔ other = index :=
      ⟨slot_injective startInside otherInside inside, fun same => same ▸ rfl⟩
    rw [getElem?_exchange (by simpa using firstInside) (by simpa using secondInside),
      getElem?_toList startInside firstInside, getElem?_toList startInside secondInside,
      getElem?_toList startInside otherInside]
    rw [get?, sameSlot, swap,
      getElem?_array_swap (slot_lt startInside first) (slot_lt startInside second)]
    simp only [slotOf firstInside, slotOf secondInside, get?]

/-! ## What holds of every item -/

theorem forall_mem_array_modify
    {Good : alpha → Prop} {items : Array alpha}
    (good : ∀ item ∈ items, Good item)
    (index : Nat) {change : alpha → alpha}
    (keeps : ∀ item, Good item → Good (change item)) :
    ∀ item ∈ items.modify index change, Good item := by
  intro item member
  obtain ⟨place, inside, rfl⟩ := Array.mem_iff_getElem.mp member
  rw [Array.size_modify] at inside
  rw [Array.getElem_modify]
  have old := good items[place] (Array.getElem_mem inside)
  split
  · exact keeps _ old
  · exact old

theorem mem_array_swap {items : Array alpha} {item : alpha} (first second : Nat) :
    item ∈ items.swapIfInBounds first second ↔ item ∈ items := by
  rw [Array.swapIfInBounds_def]
  split
  · split
    · exact (Array.swap_perm _ _).mem_iff
    · rfl
  · rfl

theorem forall_mem_modify
    {Good : alpha → Prop} {ring : Ring alpha}
    (good : ∀ item ∈ ring.toList, Good item)
    (index : Nat) {change : alpha → alpha}
    (keeps : ∀ item, Good item → Good (change item)) :
    ∀ item ∈ (ring.modify index change).toList, Good item := by
  simp only [mem_toList] at good ⊢
  exact forall_mem_array_modify good _ keeps

theorem forall_mem_recycle
    {Good : alpha → Prop} {ring : Ring alpha}
    (good : ∀ item ∈ ring.toList, Good item)
    {change : alpha → alpha}
    (keeps : ∀ item, Good item → Good (change item)) :
    ∀ item ∈ (ring.recycle change).toList, Good item := by
  simp only [mem_toList] at good ⊢
  exact forall_mem_array_modify good _ keeps

theorem mem_swap {ring : Ring alpha} {item : alpha} (first second : Nat) :
    item ∈ (ring.swap first second).toList ↔ item ∈ ring.toList := by
  rw [mem_toList, mem_toList]
  exact mem_array_swap _ _

theorem toList_keepLast (ring : Ring alpha) (count : Nat) :
    (ring.keepLast count).toList = ring.toList.drop (ring.size - count) := by
  simp [keepLast]

end VideoTerminal.Ring
