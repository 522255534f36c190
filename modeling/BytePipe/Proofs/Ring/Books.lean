import BytePipe.Ring.Lemmas

/-!
The books of a ring: all bytes put in since the storage came and all bytes taken out. What has not
been taken out yet is the contents, and the positions count the bytes.
-/
namespace BytePipe.Ring

/-- The books agree with the ring. -/
structure Booked (r : Ring) (accepted returned : List UInt8) : Prop where
  wellFormed : r.WellFormed
  stored : r.storage ≠ none
  fifo : accepted = returned ++ r.contents
  readPos : r.readPos = returned.length % r.capacity
  writePos : r.writePos = accepted.length % r.capacity

variable {r : Ring} {accepted returned : List UInt8}

/-- Storage that has just come is empty. -/
theorem booked_allocate {memory : Memory} {after : Ring} (positive : 0 < r.capacity)
    (granted : r.allocate memory = .ok after) : after.Booked [] [] := by
  have wf := wellFormed_allocate positive granted
  obtain rfl := allocate_eq_ok granted
  refine ⟨wf, Option.some_ne_none _, ?_, ?_, ?_⟩
  · simp [contents, used]
  · simp
  · simp

/-- Bytes that are taken come off the front of the contents. -/
theorem Booked.take (booked : r.Booked accepted returned) (ready : r.isEmpty = false) (n : Nat) :
    (r.take n).2.Booked accepted (returned ++ (r.take n).1) := by
  have wf := booked.wellFormed
  have position : (r.take n).2.readPos = (r.readPos + (r.take n).1.length) % r.capacity := by
    rw [take_count]
    rfl
  refine ⟨wellFormed_take wf ready n, booked.stored, ?_, ?_, booked.writePos⟩
  · rw [booked.fifo, contents_take wf ready n, List.append_assoc]
  · rw [List.length_append, position, booked.readPos, Nat.mod_add_mod]
    rfl

/-- Bytes that are put in go to the end of the contents. -/
theorem Booked.put (booked : r.Booked accepted returned) (data : List UInt8) :
    (r.put data).2.Booked (accepted ++ data.take (r.put data).1) returned := by
  have wf := booked.wellFormed
  have inside : (r.put data).1 ≤ data.length := Nat.min_le_left _ _
  have position : (r.put data).2.writePos = (r.writePos + (r.put data).1) % r.capacity := rfl
  refine ⟨wellFormed_put wf booked.stored data, ?_, ?_, booked.readPos, ?_⟩
  · obtain ⟨cells, stored⟩ := Option.ne_none_iff_exists'.mp booked.stored
    simp [Ring.put, stored]
  · rw [booked.fifo, contents_put wf booked.stored data, List.append_assoc]
  · rw [List.length_append, List.length_take, Nat.min_eq_left inside, position, booked.writePos,
      Nat.mod_add_mod]
    rfl

end BytePipe.Ring
