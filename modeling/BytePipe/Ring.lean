import BytePipe.Error

/-!
The circular buffer of a channel. One slot is always kept empty, so equal positions mean an empty
ring and at most `capacity - 1` bytes are buffered. A transfer moves one contiguous run and never
crosses the end of the storage.

`contents` is the view of a ring: the buffered bytes, oldest first.

Transfers are for a ring with storage. Without it there are no bytes to index, and a program that
gets there stops; what `take` and `put` answer then is a convention only, and statements that allow
for a ring without storage speak of such states, too.
-/
namespace BytePipe

/-- How much memory one allocation may take; no allocation reaches half the address space. The size
alone decides, and the limit is the same for a whole run. Where it changes from one open to the next,
so that an open may fail after an earlier one has not, a channel still lives as one does in the
largest memory: an open that fails leaves it as it was. -/
structure Memory where
  limit : Nat
  limit_lt : limit < 0x8000000000000000 := by decide

def Memory.grants (m : Memory) (size : Nat) : Bool :=
  size ≤ m.limit

/-- `storage` is absent until allocated. It then stands for `capacity` bytes, of which the array
holds those written so far: the first write goes to position 0 and later ones follow on, so the
written positions come first and all after them are still zero. -/
structure Ring where
  capacity : Nat
  storage : Option (Array UInt8)
  readPos : Nat
  writePos : Nat
  deriving DecidableEq, Repr

namespace Ring

/-- A ring without storage. -/
def empty (capacity : Nat) : Ring :=
  ⟨capacity, none, 0, 0⟩

def isAllocated (r : Ring) : Bool :=
  r.storage.isSome

def allocate (memory : Memory) (r : Ring) : Except ChannelError Ring :=
  if memory.grants r.capacity then
    .ok { r with storage := some #[], readPos := 0, writePos := 0 }
  else
    .error (.outOfMemory r.capacity)

/-- Drops the storage with any unread bytes. -/
def release (r : Ring) : Ring :=
  empty r.capacity

def isEmpty (r : Ring) : Bool :=
  r.readPos == r.writePos

/-- Bytes buffered and not yet read. -/
def used (r : Ring) : Nat :=
  (r.writePos + r.capacity - r.readPos) % r.capacity

/-- Bytes that can be written before the ring is full. -/
def free (r : Ring) : Nat :=
  (r.readPos + r.capacity - r.writePos - 1) % r.capacity

/-- Longest run that can be read without crossing the end of the storage. -/
def readableRun (r : Ring) : Nat :=
  if r.readPos < r.writePos then r.writePos - r.readPos else r.capacity - r.readPos

/-- Longest run that can be written without crossing the end of the storage or catching up with
the read position. -/
def writableRun (r : Ring) : Nat :=
  if r.readPos ≤ r.writePos then r.capacity - r.writePos else r.readPos - r.writePos - 1

/-- The byte stored at a position; positions not written since the allocation hold zero. -/
def byteAt (r : Ring) (position : Nat) : UInt8 :=
  (r.storage.getD #[]).getD position 0

/-- The buffered bytes, oldest first. -/
def contents (r : Ring) : List UInt8 :=
  (List.range r.used).map fun i => r.byteAt ((r.readPos + i) % r.capacity)

/-- Puts bytes at consecutive positions from `start` on, which is at most the array's size. -/
def store (cells : Array UInt8) (start : Nat) : List UInt8 → Array UInt8
  | [] => cells
  | byte :: rest =>
    store (if start < cells.size then cells.setIfInBounds start byte else cells.push byte)
      (start + 1) rest

/-- Takes out at most `length` bytes of the first readable run; for a ring that is not empty. Without
storage there is no byte to take, and those given here stand for none. -/
def take (r : Ring) (length : Nat) : List UInt8 × Ring :=
  let count := min length r.readableRun
  ((List.range count).map fun i => r.byteAt (r.readPos + i),
    { r with readPos := (r.readPos + count) % r.capacity })

/-- Puts in as much of `data` as the first writable run holds; for a ring that is not full. Without
storage there is no place for it, and the count given here stands for no copy. -/
def put (r : Ring) (data : List UInt8) : Nat × Ring :=
  let count := min data.length (min r.free r.writableRun)
  (count,
    { r with
      storage := r.storage.map (store · r.writePos (data.take count))
      writePos := (r.writePos + count) % r.capacity })

end Ring

end BytePipe
