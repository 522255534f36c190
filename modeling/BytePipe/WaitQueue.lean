import BytePipe.AccessMode
import BytePipe.Error

/-!
Calls that wait for a channel, and the two kinds of parties a wait queue holds: sleeping calls,
first come first served, and observers, which are wakers kept until the next wake-up only.
-/
namespace BytePipe

/-- What a call asks of a channel. -/
inductive Request where
  | read (length : Nat)
  | write (data : List UInt8)
  deriving DecidableEq, Repr

namespace Request

def direction : Request → Direction
  | read _ => .reading
  | write _ => .writing

/-- Nothing to move: the buffer or the data has no bytes. -/
def isTrivial : Request → Bool
  | read length => length == 0
  | write data => data.isEmpty

end Request

/-- What a successful call returns: the bytes read, or how many bytes were written. -/
inductive Transferred where
  | bytes (data : List UInt8)
  | count (written : Nat)
  deriving DecidableEq, Repr

/-- The answer to a request that moves nothing. -/
def Request.trivialAnswer : Request → Transferred
  | read _ => .bytes []
  | write _ => .count 0

abbrev CallResult := Except ChannelError Transferred

/-- A session's place among the sessions of its channel, in order of opening. -/
abbrev Slot := Nat

/-- A call made on behalf of a session; callers give each call a ticket to know it by. -/
structure Call where
  ticket : Nat
  slot : Slot
  request : Request
  deriving DecidableEq, Repr

abbrev Call.direction (c : Call) : Direction :=
  c.request.direction

/-- Wakers are told apart by whom they wake: a party known by name, or the task made under a
ticket. -/
inductive Waker where
  | named (name : String)
  | task (ticket : Nat)
  deriving DecidableEq, Repr

/-- `sleepers` holds the first to be woken in front. -/
structure WaitQueue where
  sleepers : List Call
  observers : List Waker
  deriving DecidableEq, Repr

namespace WaitQueue

def empty : WaitQueue :=
  ⟨[], []⟩

def enqueue (q : WaitQueue) (c : Call) : WaitQueue :=
  { q with sleepers := q.sleepers ++ [c] }

/-- A waker that is already registered is not registered again. -/
def register (q : WaitQueue) (w : Waker) : WaitQueue :=
  if w ∈ q.observers then q else { q with observers := q.observers ++ [w] }

/-- The queue after its first sleeper and all observers have been woken. -/
def afterOne (q : WaitQueue) : WaitQueue :=
  ⟨q.sleepers.tail, []⟩

theorem mem_register (q : WaitQueue) (w : Waker) : w ∈ (q.register w).observers := by
  unfold register
  split
  · assumption
  · exact List.mem_append_right _ (List.mem_singleton_self w)

theorem mem_register_of_mem {q : WaitQueue} {v : Waker} (h : v ∈ q.observers) (w : Waker) :
    v ∈ (q.register w).observers := by
  unfold register
  split
  · exact h
  · exact List.mem_append_left _ h

theorem nodup_register {q : WaitQueue} (h : q.observers.Nodup) (w : Waker) :
    (q.register w).observers.Nodup := by
  unfold register
  split
  · exact h
  · rename_i absent
    rw [List.nodup_append]
    refine ⟨h, List.pairwise_singleton _ w, fun a member b single => ?_⟩
    rw [List.mem_singleton.mp single]
    exact fun eq => absent (eq ▸ member)

@[simp] theorem sleepers_register (q : WaitQueue) (w : Waker) :
    (q.register w).sleepers = q.sleepers := by
  unfold register
  split <;> rfl

end WaitQueue

end BytePipe
