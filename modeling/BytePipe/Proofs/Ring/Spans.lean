import BytePipe.Ring.Lemmas

/-!
How much one transfer moves. A transfer stops at the end of the storage, so what is buffered, or
what there is room for, is one piece or two. The runs that a transfer works out case by case have
closed forms (`readableRun_eq`, `room_eq`), and every large enough transfer moves the first piece
and leaves the others (`readPieces_take`, `writePieces_put`).
-/
namespace BytePipe.Ring

variable {r : Ring} {n : Nat} {data : List UInt8}

/-- The readable run is all that is buffered, up to the end of the storage. -/
theorem readableRun_eq (wf : r.WellFormed) (ne : r.isEmpty = false) :
    r.readableRun = min r.used (r.capacity - r.readPos) := by
  have := wf.writePos_lt
  have differ : r.readPos ≠ r.writePos := by simpa [isEmpty] using ne
  rcases Nat.lt_or_ge r.writePos r.readPos with lt | le
  · rw [readableRun, if_neg (by omega), used_of_lt wf lt]
    omega
  · rw [readableRun, if_pos (by omega), used_of_le wf le]
    omega

/-- The room for one transfer is all the free room, up to the end of the storage. -/
theorem room_eq (wf : r.WellFormed) : r.room = min r.free (r.capacity - r.writePos) := by
  have := wf.readPos_lt
  rcases Nat.lt_or_ge r.writePos r.readPos with lt | le
  · rw [room, writableRun, if_neg (by omega), free_of_lt wf lt]
    omega
  · rw [room, writableRun, if_pos le]

/-- The pieces in which all buffered bytes can be read: those up to the end of the storage, and
those from its start on. -/
def readPieces (r : Ring) : List (List UInt8) :=
  if r.used = 0 then []
  else if r.readPos + r.used ≤ r.capacity then [r.contents]
  else [r.contents.take (r.capacity - r.readPos), r.contents.drop (r.capacity - r.readPos)]

/-- The sizes of the pieces in which all free room can be written. -/
def writePieces (r : Ring) : List Nat :=
  if r.free = 0 then []
  else if r.writePos + r.free ≤ r.capacity then [r.free]
  else [r.capacity - r.writePos, r.free - (r.capacity - r.writePos)]

theorem readPieces_eq_nil_iff : r.readPieces = [] ↔ r.used = 0 := by
  unfold readPieces
  split
  · simp [*]
  · split <;> simp [*]

theorem writePieces_eq_nil_iff : r.writePieces = [] ↔ r.free = 0 := by
  unfold writePieces
  split
  · simp [*]
  · split <;> simp [*]

/-- What is put in leaves so much less room. -/
theorem free_put (wf : r.WellFormed) (stored : r.storage ≠ none) (data : List UInt8) :
    (r.put data).2.free + (r.put data).1 = r.free := by
  have before := used_add_free wf
  have after := used_add_free (wellFormed_put wf stored data)
  have size : (r.put data).2.capacity = r.capacity := rfl
  have used := used_put wf stored data
  rw [size] at after
  omega

/-- A transfer that asks for all that is buffered takes the first piece. -/
theorem readPieces_take (wf : r.WellFormed) (ne : r.isEmpty = false) (long : r.used ≤ n) :
    r.readPieces = (r.take n).1 :: (r.take n).2.readPieces := by
  have := wf.readPos_lt
  have run := readableRun_eq wf ne
  have count := take_count (r := r) n
  have left := used_take wf ne n
  have contents := contents_take wf ne n
  have some : r.used ≠ 0 := fun none => by
    rw [(isEmpty_iff_used wf).mpr none] at ne
    contradiction
  have position : (r.take n).2.readPos = (r.readPos + min n r.readableRun) % r.capacity := rfl
  have size : (r.take n).2.capacity = r.capacity := rfl
  rw [readPieces, if_neg some]
  split
  · rename_i fits
    have gone : (r.take n).2.used = 0 := by omega
    have none : (r.take n).2.contents = [] := by
      rw [← List.length_eq_zero_iff, length_contents, gone]
    rw [readPieces_eq_nil_iff.mpr gone, contents, none, List.append_nil]
  · rename_i crosses
    have first : min n r.readableRun = r.capacity - r.readPos := by omega
    have length : (r.take n).1.length = r.capacity - r.readPos := count.trans first
    -- the second piece begins at the start of the storage and does not reach its end
    rw [first, show r.readPos + (r.capacity - r.readPos) = r.capacity by omega,
      Nat.mod_self] at position
    have within := used_add_free wf
    have front : r.contents.take (r.capacity - r.readPos) = (r.take n).1 := by
      rw [contents, ← length, List.take_left]
    have rest : r.contents.drop (r.capacity - r.readPos) = (r.take n).2.contents := by
      rw [contents, ← length, List.drop_left]
    rw [readPieces, if_neg (by omega), position, size, if_pos (by omega), front, rest]

/-- A transfer that offers enough for all the room fills the first piece. -/
theorem writePieces_put (wf : r.WellFormed) (stored : r.storage ≠ none) (free : 0 < r.free)
    (long : r.free ≤ data.length) :
    r.writePieces = (r.put data).1 :: (r.put data).2.writePieces := by
  have := wf.writePos_lt
  have room := room_eq wf
  have count := put_count r data
  have before := used_add_free wf
  have less := free_put wf stored data
  have position : (r.put data).2.writePos = (r.writePos + (r.put data).1) % r.capacity := rfl
  have size : (r.put data).2.capacity = r.capacity := rfl
  rw [writePieces, if_neg (by omega)]
  split
  · rename_i fits
    have first : (r.put data).1 = r.free := by omega
    rw [writePieces_eq_nil_iff.mpr (by omega), first]
  · rename_i crosses
    have first : (r.put data).1 = r.capacity - r.writePos := by omega
    rw [first, show r.writePos + (r.capacity - r.writePos) = r.capacity by omega,
      Nat.mod_self] at position
    have left : (r.put data).2.free = r.free - (r.capacity - r.writePos) := by omega
    rw [writePieces, left, if_neg (by omega), position, size, if_pos (by omega), first]

end BytePipe.Ring
