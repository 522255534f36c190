import BytePipe.Channel.Basic

/-!
One operation on a channel, from its start until nothing can run any more. A turn carries the
channel as it is so far, the sleeping calls that have been woken and not run yet, and an account
of what has happened.

A completed transfer wakes the first sleeper and all observers of the opposite queue; an interrupt
wakes everybody. A woken call first looks for its session's signal, then checks its condition
again: it completes, or goes back to the end of its queue.

A transfer moves its bytes, wakes the other side and tells the subscribers in one step. The moment
between, when bytes have moved and nobody has been woken for them, is not a moment of a turn; calls
that others come between there are those of a `Pump`.
-/
namespace BytePipe

/-- What happens on a channel: a call comes back or goes to sleep, for the first time or again, a
registered waker is woken, the storage comes or goes, the counts of a session are taken back. -/
inductive Notice where
  | ended (call : Call) (result : CallResult)
  | slept (call : Call)
  | woke (waker : Waker)
  | allocated
  | released
  | countedOut (slot : Slot)
  deriving Repr

/-- `woken` and `account` hold the earliest first. -/
structure Turn where
  channel : Channel
  woken : List Call
  account : List Notice

/-- What becomes of a call for now. `refused` answers what the owner of a session cannot ask for:
use of a session that is not open. -/
inductive Progress where
  | ended (result : CallResult)
  | asleep
  | refused

namespace Turn

def start (ch : Channel) : Turn :=
  ⟨ch, [], []⟩

def record (t : Turn) (notices : List Notice) : Turn :=
  { t with account := t.account ++ notices }

def mapChannel (t : Turn) (f : Channel → Channel) : Turn :=
  { t with channel := f t.channel }

/-! ## Waking -/

/-- Wakes the first sleeper and every observer of a queue. -/
def wakeOne (t : Turn) (d : Direction) : Turn :=
  let q := t.channel.queue d
  { channel := t.channel.setQueue q.afterOne d
    woken := t.woken ++ q.sleepers.take 1
    account := t.account ++ q.observers.map .woke }

/-- Wakes every sleeper and every observer of a queue. -/
def wakeAll (t : Turn) (d : Direction) : Turn :=
  let q := t.channel.queue d
  { channel := t.channel.setQueue .empty d
    woken := t.woken ++ q.sleepers
    account := t.account ++ q.observers.map .woke }

/-! ## Calls -/

def finish (t : Turn) (call : Call) (result : CallResult) : Turn × Progress :=
  (t.record [.ended call result], .ended result)

def publish (ch : Channel) (e : WriteEvent) : Channel :=
  { ch with feeds := ch.feeds.map (Option.map (·.publish e)) }

/-- Moves bytes for a call whose direction is ready and wakes the other side. -/
def transfer (t : Turn) (call : Call) : Turn × Progress :=
  match call.request with
  | .read length =>
    let (bytes, ring) := t.channel.ring.take length
    let (t, progress) := finish (t.mapChannel ({ · with ring })) call (.ok (.bytes bytes))
    (t.wakeOne .writing, progress)
  | .write data =>
    let (written, ring) := t.channel.ring.put data
    let (t, progress) := finish (t.mapChannel ({ · with ring })) call (.ok (.count written))
    ((t.wakeOne .reading).mapChannel (publish · ⟨written, ring.used⟩), progress)

/-- Puts a call at the end of the queue of its direction. -/
def sleep (t : Turn) (call : Call) : Turn :=
  (t.mapChannel fun ch =>
    ch.setQueue ((ch.queue call.direction).enqueue call) call.direction).record [.slept call]

/-- A call as it arrives. Faults of the call come first, then the empty transfer, and a signal is
looked at only by a call that would have to sleep. -/
def arrive (t : Turn) (call : Call) (mayBlock : Bool) : Turn × Progress :=
  match t.channel.openSession? call.slot with
  | none => (t, .refused)
  | some session =>
    if !session.mode.permits call.direction then t.finish call (.error .badAccess)
    else if call.request.isTrivial then t.finish call (.ok call.request.trivialAnswer)
    else if t.channel.ready call.direction then t.transfer call
    else if !mayBlock then t.finish call (.error .wouldBlock)
    else if session.signal then
      (t.mapChannel (·.setSignal call.slot false)).finish call (.error .interrupted)
    else (t.sleep call, .asleep)

/-- A call that has just been woken. Interrupted, it passes a wake-up it cannot use on to the next
sleeper of its own queue. -/
def resume (t : Turn) (call : Call) : Turn :=
  if t.channel.hasSignal call.slot then
    let (t, _) := (t.mapChannel (·.setSignal call.slot false)).finish call (.error .interrupted)
    if t.channel.ready call.direction then t.wakeOne call.direction else t
  else if t.channel.ready call.direction then (t.transfer call).1
  else t.sleep call

/-! ## Settling -/

/-- Runs the woken call that was woken first. -/
def runNext (t : Turn) : Turn :=
  match t.woken with
  | [] => t
  | call :: rest => resume { t with woken := rest } call

/-- Every run ends a call or puts it back to sleep: a call that ends pays for itself and for the
one wake-up it hands on. -/
def pendingRuns (t : Turn) : Nat :=
  2 * (t.channel.asleep + t.woken.length) + t.woken.length

def runWoken : (fuel : Nat) → Turn → Turn
  | 0, t => t
  | fuel + 1, t => if t.woken.isEmpty then t else runWoken fuel t.runNext

/-- Runs woken calls until there are none. -/
def settle (t : Turn) : Turn :=
  t.runWoken t.pendingRuns

/-! ## Sessions -/

def countIn (n : UInt32) (counts : Bool) : UInt32 :=
  if counts then n + 1 else n

/-- A count that is already zero stays zero. -/
def countOut (n : UInt32) (counts : Bool) : UInt32 :=
  if counts ∧ n ≠ 0 then n - 1 else n

/-- A channel with one session of a mode counted in. -/
def countModeIn (mode : AccessMode) (ch : Channel) : Channel :=
  { ch with
    readers := countIn ch.readers (mode.permits .reading)
    writers := countIn ch.writers (mode.permits .writing) }

/-- A channel with one session of a mode counted out. -/
def countModeOut (mode : AccessMode) (ch : Channel) : Channel :=
  { ch with
    readers := countOut ch.readers (mode.permits .reading)
    writers := countOut ch.writers (mode.permits .writing) }

def freeStorage (ch : Channel) : Channel :=
  { ch with ring := ch.ring.release }

/-- Lists a new session and counts it in. -/
def join (mode : AccessMode) (nonBlocking : Bool) (t : Turn) : Turn :=
  t.mapChannel fun ch =>
    { countModeIn mode ch with sessions := ch.sessions ++ [⟨mode, nonBlocking, false, true⟩] }

/-- Storage is allocated by the first open; a failed allocation changes nothing. -/
def openSession (memory : Memory) (mode : AccessMode) (nonBlocking : Bool) (t : Turn) :
    Turn × Except ChannelError Slot :=
  let slot := t.channel.sessions.length
  if t.channel.ring.isAllocated then (t.join mode nonBlocking, .ok slot)
  else
    match t.channel.ring.allocate memory with
    | .error e => (t, .error e)
    | .ok ring =>
      (((t.mapChannel ({ · with ring })).record [.allocated]).join mode nonBlocking, .ok slot)

/-- Notes that a session has been closed, so that letting go of it does nothing more. -/
def markClosed (slot : Slot) (t : Turn) : Turn :=
  t.mapChannel fun ch =>
    { ch with sessions := ch.sessions.modify slot ({ · with isOpen := false }) }

/-- Takes one session's counts back; the storage goes when the two counts add up to zero. -/
def releaseCounts (slot : Slot) (mode : AccessMode) (t : Turn) : Turn :=
  let t := (t.mapChannel (countModeOut mode)).record [.countedOut slot]
  if t.channel.readers + t.channel.writers = 0 then
    (t.mapChannel freeStorage).record [.released]
  else t

/-- The end of a session's value: if nobody has closed the session, it is closed now. -/
def letGo (slot : Slot) (t : Turn) : Turn :=
  match t.channel.openSession? slot with
  | none => t
  | some session => (t.markClosed slot).releaseCounts slot session.mode

/-- A session that its owner can end: it is open and no sleeping call uses it. -/
def endable? (t : Turn) (slot : Slot) : Option Session :=
  if t.channel.isWaiting slot then none else t.channel.openSession? slot

/-- Closes a session; its value comes to an end right after. -/
def closeSession (slot : Slot) (t : Turn) : Turn × Bool :=
  match t.endable? slot with
  | none => (t, false)
  | some session => (((t.markClosed slot).releaseCounts slot session.mode).letGo slot, true)

/-- Ends a session's value without closing the session first. -/
def dropSession (slot : Slot) (t : Turn) : Turn × Bool :=
  match t.endable? slot with
  | none => (t, false)
  | some _ => (t.letGo slot, true)

def setNonBlocking (slot : Slot) (nonBlocking : Bool) (t : Turn) : Turn :=
  t.mapChannel fun ch =>
    { ch with sessions := ch.sessions.modify slot ({ · with nonBlocking }) }

/-- A call that may sleep unless its session is non-blocking. -/
def call (c : Call) (t : Turn) : Turn × Progress :=
  t.arrive c ((t.channel.openSession? c.slot).any (!·.nonBlocking))

/-- A call that never sleeps, whatever its session's mode. -/
def tryCall (c : Call) (t : Turn) : Turn × Progress :=
  t.arrive c false

/-- Registers the waker on both queues, so that any later transfer wakes it. -/
def poll (waker : Option Waker) (t : Turn) : Turn × Readiness :=
  let t := match waker with
    | none => t
    | some w => t.mapChannel fun ch =>
      { ch with readQueue := ch.readQueue.register w, writeQueue := ch.writeQueue.register w }
  (t, t.channel.readiness)

/-- Leaves a signal for the session and wakes all sleepers, readers first. -/
def interrupt (slot : Slot) (t : Turn) : Turn :=
  ((t.mapChannel (·.setSignal slot true)).wakeAll .reading).wakeAll .writing

/-! ## Subscriptions -/

def subscribe (t : Turn) : Turn × Nat :=
  (t.mapChannel fun ch => { ch with feeds := ch.feeds ++ [some .empty] }, t.channel.feeds.length)

def unsubscribe (feed : Nat) (t : Turn) : Turn :=
  t.mapChannel fun ch => { ch with feeds := ch.feeds.set feed none }

def receive (feed : Nat) (t : Turn) : Turn × Option Receipt :=
  match t.channel.feeds[feed]?.join with
  | none => (t, none)
  | some f =>
    let (receipt, f) := f.receive
    (t.mapChannel fun ch => { ch with feeds := ch.feeds.set feed (some f) }, receipt)

end Turn

end BytePipe
