import BytePipe.Channel.Turn

/-!
The operations on a channel as data, so that a history of a channel is a list. Every operation is
one turn: it is applied, and then all that it woke runs until the channel is settled.
-/
namespace BytePipe

inductive Operation where
  | openSession (mode : AccessMode) (nonBlocking : Bool)
  | closeSession (slot : Slot)
  | dropSession (slot : Slot)
  | setNonBlocking (slot : Slot) (nonBlocking : Bool)
  | call (c : Call)
  | tryCall (c : Call)
  | poll (slot : Slot) (waker : Option Waker)
  | interrupt (slot : Slot)
  | subscribe
  | unsubscribe (feed : Nat)
  | receive (feed : Nat)
  deriving Repr

inductive Outcome where
  | done
  | opened (slot : Slot)
  | transferred (moved : Transferred)
  | asleep
  | ready (readiness : Readiness)
  | subscribed (feed : Nat)
  | received (receipt : Option Receipt)
  | failed (e : ChannelError)
  | refused
  deriving DecidableEq, Repr

def Outcome.ofProgress : Progress → Outcome
  | .ended (.ok moved) => transferred moved
  | .ended (.error e) => failed e
  | .asleep => asleep
  | .refused => refused

/-- Applies an operation without running what it woke. -/
def Operation.apply (memory : Memory) (t : Turn) : Operation → Turn × Outcome
  | openSession mode nonBlocking =>
    match t.openSession memory mode nonBlocking with
    | (t, .ok slot) => (t, .opened slot)
    | (t, .error e) => (t, .failed e)
  | closeSession slot =>
    let (t, ended) := t.closeSession slot
    (t, if ended then .done else .refused)
  | dropSession slot =>
    let (t, ended) := t.dropSession slot
    (t, if ended then .done else .refused)
  | setNonBlocking slot nonBlocking => (t.setNonBlocking slot nonBlocking, .done)
  | call c => let (t, progress) := t.call c; (t, .ofProgress progress)
  | tryCall c => let (t, progress) := t.tryCall c; (t, .ofProgress progress)
  | poll slot waker =>
    if (t.channel.openSession? slot).isSome then
      let (t, readiness) := t.poll waker
      (t, .ready readiness)
    else (t, .refused)
  | interrupt slot => (t.interrupt slot, .done)
  | subscribe => let (t, feed) := t.subscribe; (t, .subscribed feed)
  | unsubscribe feed => (t.unsubscribe feed, .done)
  | receive feed => let (t, receipt) := t.receive feed; (t, .received receipt)

/-- One whole turn: the settled channel, the outcome and the account of the turn. -/
def Channel.perform (memory : Memory) (ch : Channel) (op : Operation) :
    Channel × Outcome × List Notice :=
  let (t, outcome) := op.apply memory (Turn.start ch)
  let t := t.settle
  (t.channel, outcome, t.account)

end BytePipe
