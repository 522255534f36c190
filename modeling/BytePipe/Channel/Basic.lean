import BytePipe.Readiness
import BytePipe.Ring
import BytePipe.WaitQueue
import BytePipe.WriteFeed

/-!
The state of one channel: a ring, the sessions opened on it, a wait queue per direction and the
subscriptions to its writes. Between operations nothing is runnable: every unfinished call is
asleep in the queue of its direction.
-/
namespace BytePipe

/-- A session stays listed after it is closed, because its interrupter may outlive it.
`signal` is a pending interrupt that no call has consumed yet. -/
structure Session where
  mode : AccessMode
  nonBlocking : Bool
  signal : Bool
  isOpen : Bool
  deriving DecidableEq, Repr

/-- The open counts are 32-bit words. A subscription that was cancelled leaves `none` behind. -/
structure Channel where
  name : String
  ring : Ring
  readers : UInt32
  writers : UInt32
  sessions : List Session
  readQueue : WaitQueue
  writeQueue : WaitQueue
  feeds : List (Option WriteFeed)
  deriving DecidableEq, Repr

namespace Channel

def defaultName : String := "scullpipe"

/-- A channel for at most `capacity - 1` bytes; storage waits for the first open. -/
def named (name : String) (capacity : Nat) : Channel :=
  { name, ring := .empty capacity, readers := 0, writers := 0, sessions := []
    readQueue := .empty, writeQueue := .empty, feeds := [] }

def create? (name : String) (capacity : Nat) : Except ChannelError Channel :=
  if capacity = 0 then .error .zeroCapacity else .ok (named name capacity)

/-- Whether a transfer in this direction can move at least one byte. -/
def ready (ch : Channel) : Direction → Bool
  | .reading => !ch.ring.isEmpty
  | .writing => 0 < ch.ring.free

def readiness (ch : Channel) : Readiness :=
  ⟨ch.ready .reading, ch.ready .writing⟩

def queue (ch : Channel) : Direction → WaitQueue
  | .reading => ch.readQueue
  | .writing => ch.writeQueue

def setQueue (ch : Channel) (q : WaitQueue) : Direction → Channel
  | .reading => { ch with readQueue := q }
  | .writing => { ch with writeQueue := q }

@[simp] theorem queue_setQueue_self (ch : Channel) (q : WaitQueue) (d : Direction) :
    (ch.setQueue q d).queue d = q := by
  cases d <;> rfl

@[simp] theorem queue_setQueue_opposite (ch : Channel) (q : WaitQueue) (d : Direction) :
    (ch.setQueue q d).queue d.opposite = ch.queue d.opposite := by
  cases d <;> rfl

/-- The session at a slot, while it is open. -/
def openSession? (ch : Channel) (slot : Slot) : Option Session :=
  ch.sessions[slot]?.filter (·.isOpen)

def setSignal (ch : Channel) (slot : Slot) (signal : Bool) : Channel :=
  { ch with sessions := ch.sessions.modify slot ({ · with signal }) }

def hasSignal (ch : Channel) (slot : Slot) : Bool :=
  ch.sessions[slot]?.any (·.signal)

/-- Some call of this session is asleep. -/
def isWaiting (ch : Channel) (slot : Slot) : Bool :=
  (ch.readQueue.sleepers ++ ch.writeQueue.sleepers).any (·.slot == slot)

/-- How many calls are asleep. -/
def asleep (ch : Channel) : Nat :=
  ch.readQueue.sleepers.length + ch.writeQueue.sleepers.length

theorem asleep_eq (ch : Channel) (d : Direction) :
    ch.asleep = (ch.queue d).sleepers.length + (ch.queue d.opposite).sleepers.length := by
  cases d
  · rfl
  · exact Nat.add_comm _ _

def subscribers (ch : Channel) : Nat :=
  ch.feeds.countP Option.isSome

end Channel

end BytePipe
