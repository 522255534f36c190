import BytePipe.Proofs.Ring.Spans
import Mathlib.Algebra.GroupWithZero.Nat

/-!
The ring on machine words. `Cells` is a ring as it lies in memory, every byte of its storage
included, and its operations are checked: a sum that does not fit in 64 bits, a difference below
zero, a modulus by zero, a slice that is out of bounds, and a copy that must not be asked for give no
result. As long as the positions are inside the capacity and are zero unless the capacity is below
`2 ^ 63`, every operation gives a result, and that of the ring (`copyOut?_cells`, `copyIn?_cells`).
-/
namespace BytePipe

namespace Word

def add? (a b : Nat) : Option Nat :=
  if a + b < 2 ^ 64 then some (a + b) else none

def sub? (a b : Nat) : Option Nat :=
  if b ≤ a then some (a - b) else none

def rem? (a b : Nat) : Option Nat :=
  if b = 0 then none else some (a % b)

variable {a b : Nat}

theorem add?_of_lt (lt : a + b < 2 ^ 64) : add? a b = some (a + b) :=
  if_pos lt

theorem sub?_of_le (le : b ≤ a) : sub? a b = some (a - b) :=
  if_pos le

theorem rem?_of_pos (pos : 0 < b) : rem? a b = some (a % b) :=
  if_neg (Nat.ne_of_gt pos)

end Word

/-- The bytes from `start` up to `stop`. -/
def slice? (bytes : List UInt8) (start stop : Nat) : Option (List UInt8) :=
  if start ≤ stop ∧ stop ≤ bytes.length then some ((bytes.take stop).drop start) else none

/-- `bytes` with the ones from `start` up to `stop` replaced by as many others. -/
def overwrite? (bytes : List UInt8) (start stop : Nat) (others : List UInt8) :
    Option (List UInt8) :=
  if start ≤ stop ∧ stop ≤ bytes.length ∧ others.length = stop - start then
    some (bytes.take start ++ others ++ bytes.drop stop)
  else none

theorem slice?_of_le {bytes : List UInt8} {start stop : Nat} (order : start ≤ stop)
    (bound : stop ≤ bytes.length) : slice? bytes start stop = some ((bytes.take stop).drop start) :=
  if_pos ⟨order, bound⟩

theorem overwrite?_of_le {bytes others : List UInt8} {start stop : Nat} (order : start ≤ stop)
    (bound : stop ≤ bytes.length) (length : others.length = stop - start) :
    overwrite? bytes start stop others = some (bytes.take start ++ others ++ bytes.drop stop) :=
  if_pos ⟨order, bound, length⟩

/-- A ring in memory: its storage has no bytes, or as many as its capacity says. -/
structure Cells where
  capacity : Nat
  storage : List UInt8
  readPos : Nat
  writePos : Nat
  deriving DecidableEq, Repr

namespace Cells

def isAllocated (c : Cells) : Bool :=
  !c.storage.isEmpty

def free? (c : Cells) : Option Nat := do
  let sum ← Word.add? c.readPos c.capacity
  let gap ← Word.sub? sum c.writePos
  let less ← Word.sub? gap 1
  Word.rem? less c.capacity

def used? (c : Cells) : Option Nat := do
  let sum ← Word.add? c.writePos c.capacity
  let gap ← Word.sub? sum c.readPos
  Word.rem? gap c.capacity

def readableRun? (c : Cells) : Option Nat :=
  if c.readPos < c.writePos then Word.sub? c.writePos c.readPos
  else Word.sub? c.capacity c.readPos

def writableRun? (c : Cells) : Option Nat :=
  if c.readPos ≤ c.writePos then Word.sub? c.capacity c.writePos
  else do
    let gap ← Word.sub? c.readPos c.writePos
    Word.sub? gap 1

/-- Copies one run to the front of a buffer; not to be asked of an empty ring. The results are the
buffer, the number of bytes copied and the ring. -/
def copyOut? (c : Cells) (buffer : List UInt8) : Option (List UInt8 × Nat × Cells) :=
  if c.readPos = c.writePos then none
  else do
    let run ← c.readableRun?
    let count := min buffer.length run
    let stop ← Word.add? c.readPos count
    let bytes ← slice? c.storage c.readPos stop
    let buffer ← overwrite? buffer 0 count bytes
    let readPos ← Word.rem? stop c.capacity
    some (buffer, count, { c with readPos })

/-- Copies one run from the front of some data; not to be asked of a full ring. The results are the
number of bytes copied and the ring. -/
def copyIn? (c : Cells) (data : List UInt8) : Option (Nat × Cells) := do
  let free ← c.free?
  if free = 0 then none
  else do
    let run ← c.writableRun?
    let count := min (min data.length free) run
    let stop ← Word.add? c.writePos count
    let bytes ← slice? data 0 count
    let storage ← overwrite? c.storage c.writePos stop bytes
    let writePos ← Word.rem? stop c.capacity
    some (count, { c with storage, writePos })

end Cells

namespace Ring

variable {r : Ring} {buffer data : List UInt8}

/-- The ring in memory. Bytes that have not been written since the allocation are zero. -/
def cells (r : Ring) : Cells where
  capacity := r.capacity
  storage := if r.isAllocated then (List.range r.capacity).map r.byteAt else []
  readPos := r.readPos
  writePos := r.writePos

/-- The positions are inside the capacity, which is a word, and no sum of a position and the
capacity is more than one. -/
structure Sized (r : Ring) : Prop where
  readPos_lt : r.readPos < r.capacity
  writePos_lt : r.writePos < r.capacity
  word : r.capacity < 2 ^ 64
  sums : (r.readPos = 0 ∧ r.writePos = 0) ∨ r.capacity < 2 ^ 63

@[simp] theorem capacity_cells (r : Ring) : r.cells.capacity = r.capacity := rfl

@[simp] theorem readPos_cells (r : Ring) : r.cells.readPos = r.readPos := rfl

@[simp] theorem writePos_cells (r : Ring) : r.cells.writePos = r.writePos := rfl

theorem storage_cells (allocated : r.isAllocated = true) :
    r.cells.storage = (List.range r.capacity).map r.byteAt :=
  if_pos allocated

theorem length_storage_cells (r : Ring) :
    r.cells.storage.length = if r.isAllocated then r.capacity else 0 := by
  unfold cells
  split <;> simp

theorem isAllocated_cells (positive : 0 < r.capacity) : r.cells.isAllocated = r.isAllocated := by
  unfold Cells.isAllocated cells
  cases r.isAllocated with
  | true => simpa using Nat.ne_of_gt positive
  | false => simp

namespace Sized

variable (sized : r.Sized)

include sized

theorem sum_lt : r.readPos + r.capacity < 2 ^ 64 ∧ r.writePos + r.capacity < 2 ^ 64 := by
  have := sized.readPos_lt
  have := sized.writePos_lt
  have := sized.word
  rcases sized.sums with ⟨reader, writer⟩ | small <;> omega

theorem free? : r.cells.free? = some r.free := by
  obtain ⟨sum, -⟩ := sized.sum_lt
  have reader := sized.readPos_lt
  have writer := sized.writePos_lt
  have gap : r.writePos ≤ r.readPos + r.capacity := by omega
  have less : 1 ≤ r.readPos + r.capacity - r.writePos := by omega
  have positive : 0 < r.capacity := by omega
  simp [Cells.free?, cells, Word.add?_of_lt sum, Word.sub?_of_le gap, Word.sub?_of_le less,
    Word.rem?_of_pos positive, free]

theorem used? : r.cells.used? = some r.used := by
  obtain ⟨-, sum⟩ := sized.sum_lt
  have reader := sized.readPos_lt
  have gap : r.readPos ≤ r.writePos + r.capacity := by omega
  have positive : 0 < r.capacity := by omega
  simp [Cells.used?, cells, Word.add?_of_lt sum, Word.sub?_of_le gap,
    Word.rem?_of_pos positive, used]

theorem readableRun? : r.cells.readableRun? = some r.readableRun := by
  have reader := sized.readPos_lt
  unfold Cells.readableRun? readableRun cells
  dsimp only
  split
  · exact Word.sub?_of_le (by omega)
  · exact Word.sub?_of_le (by omega)

theorem writableRun? : r.cells.writableRun? = some r.writableRun := by
  have writer := sized.writePos_lt
  unfold Cells.writableRun? writableRun cells
  dsimp only
  split
  · exact Word.sub?_of_le (by omega)
  · have gap : r.writePos ≤ r.readPos := by omega
    have less : 1 ≤ r.readPos - r.writePos := by omega
    simp [Word.sub?_of_le gap, Word.sub?_of_le less]

end Sized

/-- The bytes that lie between two positions. -/
theorem drop_take_storage_cells (allocated : r.isAllocated = true) {start count : Nat}
    (bound : start + count ≤ r.capacity) :
    (r.cells.storage.take (start + count)).drop start
      = (List.range count).map fun i => r.byteAt (start + i) := by
  rw [storage_cells allocated]
  apply List.ext_getElem
  · simp
    omega
  · intro i short long
    simp

/-- Putting in changes the bytes from the write position on, and no others. -/
theorem byteAt_put (wf : r.WellFormed) (stored : r.storage ≠ none) (data : List UInt8)
    (position : Nat) : (r.put data).2.byteAt position =
      if r.writePos ≤ position then
        (data.take (r.put data).1).getD (position - r.writePos) (r.byteAt position)
      else r.byteAt position := by
  obtain ⟨bytes, same⟩ := Option.ne_none_iff_exists'.mp stored
  have written := (wf.written bytes same).1
  have stores := getD_store bytes r.writePos (data.take (r.put data).1) written position
  simpa [byteAt, put, same] using stores

/-- What is put in replaces the bytes from the write position on. -/
theorem storage_cells_put (wf : r.WellFormed) (stored : r.storage ≠ none) (data : List UInt8) :
    (r.put data).2.cells.storage
      = r.cells.storage.take r.writePos ++ data.take (r.put data).1
        ++ r.cells.storage.drop (r.writePos + (r.put data).1) := by
  have allocated : r.isAllocated = true := Option.isSome_iff_ne_none.mpr stored
  have after : (r.put data).2.isAllocated = true := Option.isSome_map.trans allocated
  have capacity : (r.put data).2.capacity = r.capacity := rfl
  obtain ⟨-, room, -⟩ := room_le wf
  have count := put_count r data
  have length : (data.take (r.put data).1).length = (r.put data).1 := by
    rw [List.length_take]
    omega
  rw [storage_cells allocated, storage_cells after, capacity]
  apply List.ext_getElem
  · simp
    omega
  · intro i short long
    rw [List.getElem_map, List.getElem_range, byteAt_put wf stored]
    rcases Nat.lt_or_ge i r.writePos with before | reached
    · rw [if_neg (by omega), List.getElem_append_left (by simp; omega),
        List.getElem_append_left (by simp; omega)]
      simp
    · rw [if_pos reached]
      rcases Nat.lt_or_ge (i - r.writePos) (r.put data).1 with new | after
      · rw [List.getElem_append_left (by simp; omega), List.getElem_append_right (by simp; omega),
          List.getD_eq_getElem?_getD, List.getElem?_eq_getElem (by omega), Option.getD_some]
        congr 1
        simp
        omega
      · rw [List.getElem_append_right (by simp; omega), List.getD_eq_getElem?_getD,
          List.getElem?_eq_none (by omega), Option.getD_none, List.getElem_drop,
          List.getElem_map, List.getElem_range]
        congr 1
        simp
        omega

/-- A checked copy out of the ring takes what the ring gives. -/
theorem copyOut?_cells (sized : r.Sized) (wf : r.WellFormed) (allocated : r.isAllocated = true)
    (ne : r.isEmpty = false) (buffer : List UInt8) :
    r.cells.copyOut? buffer
      = some ((r.take buffer.length).1 ++ buffer.drop (r.take buffer.length).1.length,
        (r.take buffer.length).1.length, (r.take buffer.length).2.cells) := by
  have reader := sized.readPos_lt
  have word := sized.word
  have differ : r.readPos ≠ r.writePos := by simpa [isEmpty] using ne
  obtain ⟨-, -, run⟩ := readableRun_le_used wf ne
  have length : r.cells.storage.length = r.capacity := by simp [length_storage_cells, allocated]
  have count := take_count (r := r) buffer.length
  have after : (r.take buffer.length).2.cells
      = { r.cells with readPos := (r.readPos + min buffer.length r.readableRun) % r.capacity } := rfl
  have bytes : slice? r.cells.storage r.readPos (r.readPos + min buffer.length r.readableRun)
      = some (r.take buffer.length).1 := by
    rw [slice?_of_le (by omega) (by omega), drop_take_storage_cells allocated (by omega)]
    rfl
  have filled : overwrite? buffer 0 (min buffer.length r.readableRun) (r.take buffer.length).1
      = some ((r.take buffer.length).1 ++ buffer.drop (min buffer.length r.readableRun)) := by
    rw [overwrite?_of_le (by omega) (by omega) (by omega)]
    simp
  rw [count, after]
  generalize same : min buffer.length r.readableRun = k at *
  have stop := Word.add?_of_lt (a := r.readPos) (b := k) (by omega)
  have position := Word.rem?_of_pos (a := r.readPos + k) (b := r.capacity) (by omega)
  simp [Cells.copyOut?, differ, sized.readableRun?, same, stop, bytes, filled, position]

/-- A checked copy into the ring puts in what the ring accepts. -/
theorem copyIn?_cells (sized : r.Sized) (wf : r.WellFormed) (stored : r.storage ≠ none)
    (free : 0 < r.free) (data : List UInt8) :
    r.cells.copyIn? data = some ((r.put data).1, (r.put data).2.cells) := by
  have writer := sized.writePos_lt
  have word := sized.word
  obtain ⟨-, room, -⟩ := room_le wf
  have allocated : r.isAllocated = true := Option.isSome_iff_ne_none.mpr stored
  have length : r.cells.storage.length = r.capacity := by simp [length_storage_cells, allocated]
  have count := put_count r data
  have after : (r.put data).2.cells
      = { r.cells with
          storage := (r.put data).2.cells.storage
          writePos := (r.writePos + (r.put data).1) % r.capacity } := rfl
  have bytes : slice? data 0 (r.put data).1 = some (data.take (r.put data).1) := by
    rw [slice?_of_le (by omega) (by omega)]
    simp
  have filled : overwrite? r.cells.storage r.writePos (r.writePos + (r.put data).1)
      (data.take (r.put data).1) = some (r.put data).2.cells.storage := by
    rw [storage_cells_put wf stored, overwrite?_of_le (by omega) (by omega) (by simp; omega)]
  have same : min data.length (min r.free r.writableRun) = (r.put data).1 := rfl
  have stop := Word.add?_of_lt (a := r.writePos) (b := (r.put data).1) (by omega)
  have position := Word.rem?_of_pos (a := r.writePos + (r.put data).1) (b := r.capacity) (by omega)
  rw [after]
  simp [Cells.copyIn?, sized.free?, Nat.ne_of_gt free, sized.writableRun?, same, stop, bytes,
    filled, position]

end Ring

end BytePipe
