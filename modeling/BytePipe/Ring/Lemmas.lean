import BytePipe.Ring

/-!
A ring seen as its contents: taking removes bytes from the front, putting adds them at the end, and
the room that is used and the room that is free add up to all but one byte.
-/
namespace BytePipe.Ring

/-- The state of a ring between operations. Without storage both positions are zero; with it, the
positions before the write position have been written. -/
structure WellFormed (r : Ring) : Prop where
  capacity_pos : 0 < r.capacity
  readPos_lt : r.readPos < r.capacity
  writePos_lt : r.writePos < r.capacity
  released : r.storage = none → r.readPos = 0 ∧ r.writePos = 0
  written : ∀ cells, r.storage = some cells → r.writePos ≤ cells.size ∧ cells.size ≤ r.capacity

theorem used_of_le {r : Ring} (h : r.WellFormed) (le : r.readPos ≤ r.writePos) :
    r.used = r.writePos - r.readPos := by
  have := h.readPos_lt
  have := h.writePos_lt
  have : r.writePos + r.capacity - r.readPos = (r.writePos - r.readPos) + r.capacity := by omega
  rw [used, this, Nat.add_mod_right, Nat.mod_eq_of_lt (by omega)]

theorem used_of_lt {r : Ring} (h : r.WellFormed) (lt : r.writePos < r.readPos) :
    r.used = r.writePos + r.capacity - r.readPos := by
  have := h.readPos_lt
  have := h.writePos_lt
  rw [used, Nat.mod_eq_of_lt (by omega)]

theorem free_of_lt {r : Ring} (h : r.WellFormed) (lt : r.writePos < r.readPos) :
    r.free = r.readPos - r.writePos - 1 := by
  have := h.readPos_lt
  have := h.writePos_lt
  have : r.readPos + r.capacity - r.writePos - 1
      = (r.readPos - r.writePos - 1) + r.capacity := by omega
  rw [free, this, Nat.add_mod_right, Nat.mod_eq_of_lt (by omega)]

theorem free_of_le {r : Ring} (h : r.WellFormed) (le : r.readPos ≤ r.writePos) :
    r.free = r.readPos + r.capacity - r.writePos - 1 := by
  have := h.readPos_lt
  have := h.writePos_lt
  rw [free, Nat.mod_eq_of_lt (by omega)]

/-- One byte of the storage is always left over. -/
theorem used_add_free {r : Ring} (h : r.WellFormed) : r.used + r.free = r.capacity - 1 := by
  have := h.readPos_lt
  have := h.writePos_lt
  rcases Nat.lt_or_ge r.writePos r.readPos with lt | le
  · rw [used_of_lt h lt, free_of_lt h lt]; omega
  · rw [used_of_le h le, free_of_le h le]; omega

theorem isEmpty_iff_used {r : Ring} (h : r.WellFormed) : r.isEmpty = true ↔ r.used = 0 := by
  have := h.readPos_lt
  have := h.writePos_lt
  rw [isEmpty, beq_iff_eq]
  rcases Nat.lt_or_ge r.writePos r.readPos with lt | le
  · rw [used_of_lt h lt]; omega
  · rw [used_of_le h le]; omega

@[simp] theorem length_contents (r : Ring) : r.contents.length = r.used := by
  simp [contents]

theorem contents_eq_nil_iff {r : Ring} (h : r.WellFormed) : r.contents = [] ↔ r.isEmpty = true := by
  rw [← List.length_eq_zero_iff, length_contents, isEmpty_iff_used h]

theorem getElem_contents {r : Ring} {i : Nat} (h : i < r.contents.length) :
    r.contents[i] = r.byteAt ((r.readPos + i) % r.capacity) := by
  simp [contents]

/-! ## Storage -/

theorem allocate_eq_ok {memory : Memory} {r after : Ring} (granted : r.allocate memory = .ok after) :
    after = { r with storage := some #[], readPos := 0, writePos := 0 } := by
  unfold allocate at granted
  split at granted
  · exact (Except.ok.inj granted).symm
  · contradiction

theorem isAllocated_of_allocate {memory : Memory} {r after : Ring}
    (granted : r.allocate memory = .ok after) : after.isAllocated = true := by
  rw [allocate_eq_ok granted]
  rfl

theorem wellFormed_allocate {memory : Memory} {r after : Ring} (positive : 0 < r.capacity)
    (granted : r.allocate memory = .ok after) : after.WellFormed := by
  rw [allocate_eq_ok granted]
  refine ⟨positive, positive, positive, fun gone => ?_, fun cells stored => ?_⟩
  · contradiction
  · obtain rfl := Option.some.inj stored
    exact ⟨Nat.le_refl 0, Nat.zero_le _⟩

/-- A ring without storage is well-formed. -/
theorem wellFormed_empty {capacity : Nat} (positive : 0 < capacity) :
    (empty capacity).WellFormed := by
  refine ⟨positive, positive, positive, fun _ => ⟨rfl, rfl⟩, fun cells stored => ?_⟩
  contradiction

/-! ## Taking -/

theorem take_count {r : Ring} (n : Nat) : (r.take n).1.length = min n r.readableRun := by
  simp [take]

theorem readableRun_le_used {r : Ring} (h : r.WellFormed) (ne : r.isEmpty = false) :
    r.readableRun ≤ r.used ∧ 0 < r.readableRun ∧ r.readPos + r.readableRun ≤ r.capacity := by
  have := h.readPos_lt
  have := h.writePos_lt
  have differ : r.readPos ≠ r.writePos := by simpa [isEmpty] using ne
  unfold readableRun
  split
  · rw [used_of_le h (by omega)]; omega
  · rw [used_of_lt h (by omega)]; omega

theorem wellFormed_take {r : Ring} (h : r.WellFormed) (ne : r.isEmpty = false) (n : Nat) :
    (r.take n).2.WellFormed := by
  refine ⟨h.capacity_pos, Nat.mod_lt _ h.capacity_pos, h.writePos_lt, fun none => ?_, h.written⟩
  have zero := h.released none
  simp [isEmpty, zero.1, zero.2] at ne

theorem used_take {r : Ring} (h : r.WellFormed) (ne : r.isEmpty = false) (n : Nat) :
    (r.take n).2.used = r.used - (r.take n).1.length := by
  have wf := wellFormed_take h ne n
  have bound := readableRun_le_used h ne
  have := h.readPos_lt
  have := h.writePos_lt
  have position : (r.take n).2.readPos = (r.readPos + min n r.readableRun) % r.capacity := rfl
  have writer : (r.take n).2.writePos = r.writePos := rfl
  have size : (r.take n).2.capacity = r.capacity := rfl
  have count := take_count (r := r) n
  have le : min n r.readableRun ≤ r.readableRun := Nat.min_le_right _ _
  rw [count]
  generalize min n r.readableRun = k at *
  rcases Nat.lt_or_ge (r.readPos + k) r.capacity with lt | ge
  · rw [Nat.mod_eq_of_lt lt] at position
    unfold readableRun at bound le
    split at le
    · rw [used_of_le h (by omega), used_of_le wf (by omega)]; omega
    · rcases Nat.lt_or_ge r.writePos r.readPos with wl | wg
      · rw [used_of_lt h wl, used_of_lt wf (by omega)]; omega
      · have : r.readPos ≠ r.writePos := by simpa [isEmpty] using ne
        omega
  · have top : r.readPos + k = r.capacity := by omega
    rw [top, Nat.mod_self] at position
    unfold readableRun at bound le
    split at le
    · omega
    · have : r.readPos ≠ r.writePos := by simpa [isEmpty] using ne
      rw [used_of_lt h (by omega), used_of_le wf (by omega)]; omega

/-- Taking removes the bytes it returns from the front. -/
theorem contents_take {r : Ring} (h : r.WellFormed) (ne : r.isEmpty = false) (n : Nat) :
    r.contents = (r.take n).1 ++ (r.take n).2.contents := by
  have bound := readableRun_le_used h ne
  have used := used_take h ne n
  have count := take_count (r := r) n
  have le : min n r.readableRun ≤ r.readableRun := Nat.min_le_right _ _
  apply List.ext_getElem
  · simp only [length_contents, List.length_append]; omega
  · intro i hi _
    rw [getElem_contents hi]
    rw [length_contents] at hi
    rw [List.getElem_append]
    split
    · rename_i lt
      have : r.readPos + i < r.capacity := by omega
      simp [take, Nat.mod_eq_of_lt this]
    · rename_i ge
      rw [getElem_contents]
      have position : (r.take n).2.readPos = (r.readPos + min n r.readableRun) % r.capacity := rfl
      have cell (j : Nat) : (r.take n).2.byteAt j = r.byteAt j := rfl
      have size : (r.take n).2.capacity = r.capacity := rfl
      rw [cell, size, position, Nat.mod_add_mod]
      congr 2
      omega

/-- A byte taken is a byte of room. -/
theorem take_moves {r : Ring} (h : r.WellFormed) (ne : r.isEmpty = false) {n : Nat}
    (some : 0 < n) : 0 < (r.take n).1.length ∧ 0 < (r.take n).2.free := by
  have bound := readableRun_le_used h ne
  have used := used_take h ne n
  have before := used_add_free h
  have after := used_add_free (wellFormed_take h ne n)
  have size : (r.take n).2.capacity = r.capacity := rfl
  have count : 0 < (r.take n).1.length := by
    rw [take_count]
    omega
  have le : (r.take n).1.length ≤ r.readableRun := by
    rw [take_count]
    exact Nat.min_le_right _ _
  rw [size] at after
  exact ⟨count, by omega⟩

/-! ## Putting -/

theorem size_store (cells : Array UInt8) (start : Nat) (bytes : List UInt8)
    (h : start ≤ cells.size) :
    (store cells start bytes).size = max cells.size (start + bytes.length) := by
  induction bytes generalizing cells start with
  | nil => simp [store]; omega
  | cons b rest ih =>
    rw [store]
    split
    · rw [ih _ _ (by simp; omega)]; simp; omega
    · rw [ih _ _ (by simp; omega)]; simp; omega

theorem getD_push (cells : Array UInt8) (byte : UInt8) (i : Nat) :
    (cells.push byte).getD i 0 = if i = cells.size then byte else cells.getD i 0 := by
  rw [Array.getD_eq_getD_getElem?, Array.getD_eq_getD_getElem?, Array.getElem?_push]
  split <;> rfl

theorem getD_set (cells : Array UInt8) (start : Nat) (byte : UInt8) (h : start < cells.size)
    (i : Nat) :
    (cells.setIfInBounds start byte).getD i 0 = if i = start then byte else cells.getD i 0 := by
  rw [Array.getD_eq_getD_getElem?, Array.getD_eq_getD_getElem?]
  split
  · rename_i eq
    rw [eq, Array.getElem?_setIfInBounds_self_of_lt h]
    rfl
  · rename_i ne
    rw [Array.getElem?_setIfInBounds_ne (fun eq => ne eq.symm)]

/-- Storing changes the positions it covers and no others. -/
theorem getD_store (cells : Array UInt8) (start : Nat) (bytes : List UInt8)
    (h : start ≤ cells.size) (i : Nat) :
    (store cells start bytes).getD i 0 =
      if start ≤ i then bytes.getD (i - start) (cells.getD i 0) else cells.getD i 0 := by
  induction bytes generalizing cells start with
  | nil => rw [store, List.getD_nil, ite_self]
  | cons b rest ih =>
    have first : ∀ after : Array UInt8, start + 1 ≤ after.size →
        (∀ j, after.getD j 0 = if j = start then b else cells.getD j 0) →
        (store after (start + 1) rest).getD i 0 =
          if start ≤ i then (b :: rest).getD (i - start) (cells.getD i 0)
          else cells.getD i 0 := by
      intro after size cell
      rw [ih after (start + 1) size, cell]
      rcases Nat.lt_trichotomy i start with lt | rfl | gt
      · rw [if_neg (by omega), if_neg (by omega), if_neg (by omega)]
      · rw [if_neg (by omega), if_pos rfl, if_pos (Nat.le_refl _), Nat.sub_self,
          List.getD_cons_zero]
      · have later : i - start = (i - (start + 1)) + 1 := by omega
        rw [if_pos (by omega), if_neg (by omega), if_pos (by omega), later, List.getD_cons_succ]
    rw [store]
    split
    · rename_i inside
      exact first _ (by rw [Array.size_setIfInBounds]; omega) (getD_set cells start b inside)
    · have full : start = cells.size := by omega
      refine first _ (by rw [Array.size_push]; omega) fun j => ?_
      rw [getD_push, full]

/-- The bytes that one call can put in. -/
def room (r : Ring) : Nat :=
  min r.free r.writableRun

theorem put_count (r : Ring) (data : List UInt8) : (r.put data).1 = min data.length r.room := rfl

theorem room_le {r : Ring} (h : r.WellFormed) :
    r.room ≤ r.free ∧ r.writePos + r.room ≤ r.capacity ∧
      (r.writePos < r.readPos → r.writePos + r.room < r.readPos) := by
  have := h.readPos_lt
  have := h.writePos_lt
  have some_le : r.room ≤ r.free := Nat.min_le_left _ _
  have run_le : r.room ≤ r.writableRun := Nat.min_le_right _ _
  unfold writableRun at run_le
  refine ⟨some_le, ?_, ?_⟩
  · split at run_le <;> omega
  · intro lt
    split at run_le <;> omega

theorem room_pos {r : Ring} (h : r.WellFormed) (free : 0 < r.free) : 0 < r.room := by
  have := h.readPos_lt
  have := h.writePos_lt
  refine Nat.lt_min.mpr ⟨free, ?_⟩
  unfold writableRun
  split
  · omega
  · rw [free_of_lt h (by omega)] at free
    omega

theorem wellFormed_put {r : Ring} (h : r.WellFormed) (allocated : r.storage ≠ none)
    (data : List UInt8) : (r.put data).2.WellFormed := by
  obtain ⟨cells, stored⟩ := Option.ne_none_iff_exists'.mp allocated
  have written := h.written cells stored
  have room := room_le h
  have bound : min data.length r.room ≤ r.room := Nat.min_le_right _ _
  refine ⟨h.capacity_pos, h.readPos_lt, Nat.mod_lt _ h.capacity_pos, ?_, ?_⟩
  · simp [put, stored]
  · intro after eq
    have eq : store cells r.writePos (data.take (r.put data).1) = after := by
      simpa [put, stored] using eq
    have size := size_store cells r.writePos (data.take (r.put data).1) written.1
    rw [eq, List.length_take, put_count] at size
    have position : (r.put data).2.writePos
        = (r.writePos + min data.length r.room) % r.capacity := rfl
    have same : (r.put data).2.capacity = r.capacity := rfl
    have le := Nat.mod_le (r.writePos + min data.length r.room) r.capacity
    rw [position, same, size]
    omega

theorem used_put {r : Ring} (h : r.WellFormed) (allocated : r.storage ≠ none)
    (data : List UInt8) : (r.put data).2.used = r.used + (r.put data).1 := by
  have wf := wellFormed_put h allocated data
  have room := room_le h
  have := h.readPos_lt
  have := h.writePos_lt
  have bound : min data.length r.room ≤ r.room := Nat.min_le_right _ _
  have position : (r.put data).2.writePos
      = (r.writePos + min data.length r.room) % r.capacity := rfl
  have reader : (r.put data).2.readPos = r.readPos := rfl
  have size : (r.put data).2.capacity = r.capacity := rfl
  have balance := used_add_free h
  rw [put_count]
  generalize min data.length r.room = k at *
  rcases Nat.lt_or_ge (r.writePos + k) r.capacity with lt | ge
  · rw [Nat.mod_eq_of_lt lt] at position
    rcases Nat.lt_or_ge r.writePos r.readPos with wl | wg
    · have := room.2.2 wl
      rw [used_of_lt h wl, used_of_lt wf (by omega)]; omega
    · rw [used_of_le h wg, used_of_le wf (by omega)]; omega
  · have top : r.writePos + k = r.capacity := by omega
    rw [top, Nat.mod_self] at position
    rcases Nat.lt_or_ge r.writePos r.readPos with wl | wg
    · have := room.2.2 wl
      omega
    · rw [used_of_le h wg] at balance ⊢
      rcases Nat.eq_zero_or_pos r.readPos with zero | pos
      · omega
      · rw [used_of_lt wf (by omega)]; omega

/-- Putting adds the bytes it accepts at the end. -/
theorem contents_put {r : Ring} (h : r.WellFormed) (allocated : r.storage ≠ none)
    (data : List UInt8) : (r.put data).2.contents = r.contents ++ data.take (r.put data).1 := by
  obtain ⟨cells, stored⟩ := Option.ne_none_iff_exists'.mp allocated
  have written := h.written cells stored
  have room := room_le h
  have used := used_put h allocated data
  have balance := used_add_free h
  have := h.readPos_lt
  have := h.writePos_lt
  have capacity := h.capacity_pos
  have count := put_count r data
  have bound : min data.length r.room ≤ r.room := Nat.min_le_right _ _
  have inside : (r.put data).1 ≤ data.length := by omega
  apply List.ext_getElem
  · simp only [length_contents, List.length_append, List.length_take]; omega
  · intro i hi _
    rw [getElem_contents hi]
    rw [length_contents] at hi
    have reader : (r.put data).2.readPos = r.readPos := rfl
    have size : (r.put data).2.capacity = r.capacity := rfl
    have cell (j : Nat) : (r.put data).2.byteAt j =
        if r.writePos ≤ j then (data.take (r.put data).1).getD (j - r.writePos) (r.byteAt j)
        else r.byteAt j := by
      have := getD_store cells r.writePos (data.take (r.put data).1) written.1 j
      simpa [byteAt, put, stored] using this
    rw [size, reader, cell]
    rcases Nat.lt_or_ge i r.used with old | new
    · rw [List.getElem_append_left (by simpa using old), getElem_contents]
      rcases Nat.lt_or_ge r.writePos r.readPos with wl | wg
      · have := room.2.2 wl
        rw [used_of_lt h wl] at old
        rcases Nat.lt_or_ge (r.readPos + i) r.capacity with lt | ge
        · rw [Nat.mod_eq_of_lt lt, if_pos (by omega), List.getD_eq_getElem?_getD,
            List.getElem?_eq_none (by simp; omega), Option.getD_none]
        · have : (r.readPos + i) % r.capacity = r.readPos + i - r.capacity := by
            rw [Nat.mod_eq_sub_mod ge, Nat.mod_eq_of_lt (by omega)]
          rw [this, if_neg (by omega)]
      · rw [used_of_le h wg] at old
        rw [Nat.mod_eq_of_lt (by omega), if_neg (by omega)]
    · rw [List.getElem_append_right (by simpa using new)]
      simp only [length_contents]
      have place : (r.readPos + i) % r.capacity = r.writePos + (i - r.used) := by
        rcases Nat.lt_or_ge r.writePos r.readPos with wl | wg
        · have := used_of_lt h wl
          rw [Nat.mod_eq_sub_mod (by omega), Nat.mod_eq_of_lt (by omega)]
          omega
        · have := used_of_le h wg
          rw [Nat.mod_eq_of_lt (by omega)]
          omega
      have index : i - r.used < (data.take (r.put data).1).length := by
        rw [List.length_take]; omega
      rw [place, if_pos (by omega), Nat.add_sub_cancel_left, List.getD_eq_getElem?_getD,
        List.getElem?_eq_getElem index, Option.getD_some]

/-- A byte put in is a byte to take out. -/
theorem put_moves {r : Ring} (h : r.WellFormed) (allocated : r.storage ≠ none) (free : 0 < r.free)
    {data : List UInt8} (some : data ≠ []) : 0 < (r.put data).1 ∧ (r.put data).2.isEmpty = false := by
  have length : 0 < data.length := List.length_pos_iff.mpr some
  have room := room_pos h free
  have used := used_put h allocated data
  have count : 0 < (r.put data).1 := by
    rw [put_count]
    omega
  refine ⟨count, ?_⟩
  have nonempty := isEmpty_iff_used (wellFormed_put h allocated data)
  rw [← Bool.not_eq_true, nonempty]
  omega

end BytePipe.Ring
