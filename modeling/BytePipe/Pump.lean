import BytePipe.Channel.Operation
import BytePipe.Channel.Status

/-!
Blocking writers and readers that move a fixed amount of data through one channel, in any order.
A call has two parts: what it does to the ring, which nobody else sees half done, and the wake-up
it owes the other side afterwards, which may come much later and may reach any one sleeper.
-/
namespace BytePipe

/-- A producer sends the pieces that are left, a consumer takes the bytes it is still owed. -/
inductive Work where
  | produce (pieces : List (List UInt8))
  | consume (owed : Nat)
  deriving DecidableEq, Repr

/-- `notifying` has moved bytes and owes a wake-up; `gone` has closed its session. -/
inductive Phase where
  | running
  | notifying
  | asleep
  | gone
  deriving DecidableEq, Repr

structure Worker where
  slot : Slot
  work : Work
  phase : Phase
  deriving DecidableEq, Repr

/-- `received` holds the bytes of all reads, in the order in which they completed. A worker is
known by its place; sleeping calls have it as their ticket. -/
structure Pump where
  channel : Channel
  readSize : Nat
  workers : List Worker
  received : Array UInt8

/-- A step of one worker: a call's work on the ring, the wake-up it owes, or the end. -/
inductive PumpAction where
  | enter (worker : Nat)
  | notify (worker : Nat) (sleeper : Option Nat)
  | leave (worker : Nat)
  deriving DecidableEq, Repr

namespace Work

def direction : Work → Direction
  | produce _ => .writing
  | consume _ => .reading

/-- The next call, while work is left. -/
def request? (readSize : Nat) : Work → Option Request
  | produce [] => none
  | produce (piece :: _) => some (.write piece)
  | consume 0 => none
  | consume (owed + 1) => some (.read (min readSize (owed + 1)))

/-- What is left after a transfer. -/
def after : Work → Transferred → Work
  | produce (piece :: later), .count n =>
    produce (if n < piece.length then piece.drop n :: later else later)
  | consume owed, .bytes data => consume (owed - data.length)
  | work, _ => work

end Work

namespace Pump

def setWorker (p : Pump) (i : Nat) (w : Worker) : Pump :=
  { p with workers := p.workers.set i w }

/-- Moves bytes between the ring and a worker; the wake-up is still owed. -/
def transfer (p : Pump) (i : Nat) (w : Worker) : Request → Pump
  | .read length =>
    let (data, ring) := p.channel.ring.take length
    { p with channel := { p.channel with ring }, received := p.received ++ data }.setWorker i
      { w with work := w.work.after (.bytes data), phase := .notifying }
  | .write data =>
    let (written, ring) := p.channel.ring.put data
    { p with channel := { p.channel with ring } }.setWorker i
      { w with work := w.work.after (.count written), phase := .notifying }

/-- Puts a worker to sleep in the queue of its direction. -/
def sleep (p : Pump) (i : Nat) (w : Worker) (r : Request) : Pump :=
  let q := (p.channel.queue r.direction).enqueue ⟨i, w.slot, r⟩
  { p with channel := p.channel.setQueue q r.direction }.setWorker i { w with phase := .asleep }

/-- Takes a sleeper off its queue and lets it run. -/
def wake (p : Pump) (d : Direction) (sleeper : Nat) : Pump :=
  let q := p.channel.queue d
  let q := { q with sleepers := q.sleepers.filter (·.ticket ≠ sleeper) }
  { p with
    channel := p.channel.setQueue q d
    workers := p.workers.modify sleeper ({ · with phase := .running }) }

/-- The sleepers that a worker's wake-up may reach. -/
def sleepersFor (p : Pump) (w : Worker) : List Call :=
  (p.channel.queue w.work.direction.opposite).sleepers

/-- Whether an action is possible. A wake-up goes to a sleeper of the other side whenever there is
one. -/
def enabled (p : Pump) : PumpAction → Bool
  | .enter i => p.workers[i]?.any fun w =>
    w.phase = .running && (w.work.request? p.readSize).isSome
  | .notify i none => p.workers[i]?.any fun w =>
    w.phase = .notifying && (p.sleepersFor w).isEmpty
  | .notify i (some j) => p.workers[i]?.any fun w =>
    w.phase = .notifying && (p.sleepersFor w).any (·.ticket == j)
  | .leave i => p.workers[i]?.any fun w =>
    w.phase = .running && (w.work.request? p.readSize).isNone

/-- The state after an action that is possible. -/
def apply (memory : Memory) (p : Pump) : PumpAction → Pump
  | .enter i =>
    match p.workers[i]? with
    | none => p
    | some w =>
      match w.work.request? p.readSize with
      | none => p
      | some r => if p.channel.ready r.direction then p.transfer i w r else p.sleep i w r
  | .notify i sleeper =>
    match p.workers[i]? with
    | none => p
    | some w =>
      let p := p.setWorker i { w with phase := .running }
      match sleeper with
      | none => p
      | some j => p.wake w.work.direction.opposite j
  | .leave i =>
    match p.workers[i]? with
    | none => p
    | some w =>
      let (channel, _) := p.channel.perform memory (.closeSession w.slot)
      { p with channel }.setWorker i { w with phase := .gone }

/-! ## Setting up -/

/-- Cuts data into pieces of a size, the last of which may be shorter. -/
def pieces (size : Nat) : (fuel : Nat) → List UInt8 → List (List UInt8)
  | 0, _ => []
  | _, [] => []
  | fuel + 1, data => data.take size :: pieces size fuel (data.drop size)

/-- Splits a total evenly; the first shares take what is left over. -/
def shares (total count : Nat) : List Nat :=
  (List.range count).map fun i => total / count + (if i < total % count then 1 else 0)

/-- Opens a session for each piece of work. -/
def openWorkers (memory : Memory) (mode : AccessMode) (ch : Channel) : List Work →
    Channel × List Worker
  | [] => (ch, [])
  | work :: rest =>
    let slot := ch.sessions.length
    let (ch, _) := ch.perform memory (.openSession mode false)
    let (ch, workers) := openWorkers memory mode ch rest
    (ch, ⟨slot, work, .running⟩ :: workers)

/-- The session that keeps the channel open is the first one. -/
def keeperSlot : Slot := 0

/-- One writer for each payload and one reader for each share, on a channel that a read-write
session keeps open. -/
def startSharing (memory : Memory) (capacity : Nat) (payloads : List (List UInt8))
    (writeSize : Nat) (shares : List Nat) (readSize : Nat) : Except ChannelError Pump := do
  let ch ← Channel.create? Channel.defaultName capacity
  match ch.perform memory (.openSession .readWrite false) with
  | (ch, .opened _, _) =>
    let produce := payloads.map fun data => Work.produce (pieces writeSize data.length data)
    let (ch, writers) := openWorkers memory .writeOnly ch produce
    let (ch, readers) := openWorkers memory .readOnly ch (shares.map Work.consume)
    return ⟨ch, readSize, writers ++ readers, #[]⟩
  | (_, .failed e, _) => throw e
  | _ => throw .badAccess

/-- Readers that share the total evenly. -/
def start (memory : Memory) (capacity : Nat) (payloads : List (List UInt8)) (writeSize : Nat)
    (consumers readSize : Nat) : Except ChannelError Pump :=
  startSharing memory capacity payloads writeSize
    (shares payloads.flatten.length consumers) readSize

/-! ## One schedule -/

/-- What a worker can do next; a wake-up goes to the first sleeper. -/
def actionOf? (p : Pump) (i : Nat) (w : Worker) : Option PumpAction :=
  match w.phase with
  | .running => some (if (w.work.request? p.readSize).isSome then .enter i else .leave i)
  | .notifying =>
    some (.notify i ((p.sleepersFor w).head?.map (·.ticket)))
  | .asleep => none
  | .gone => none

/-- Workers that come first are served first. -/
def nextAction? (p : Pump) : Option PumpAction :=
  p.workers.zipIdx.findSome? fun (w, i) => p.actionOf? i w

def run (memory : Memory) : (fuel : Nat) → Pump → Pump
  | 0, p => p
  | fuel + 1, p =>
    match p.nextAction? with
    | none => p
    | some action => run memory fuel (p.apply memory action)

def bytesToSend : Work → Nat
  | .produce pieces => pieces.flatten.length
  | .consume owed => owed

/-- Steps that suffice: every byte is moved twice at most, each transfer owes one wake-up, and
whoever is woken may fall asleep again. -/
def steps (p : Pump) : Nat :=
  p.workers.foldr (fun w n => 4 * bytesToSend w.work + 3 + n) 0

/-- The channel when all work is done, and whether it has storage once nobody keeps it open. -/
structure Result where
  received : List UInt8
  status : Status
  allocatedAfter : Bool

/-- With several workers on a side the order of the bytes says nothing, so they are sorted. -/
def result (memory : Memory) (p : Pump) : Result :=
  let producers := p.workers.countP (·.work.direction == .writing)
  let ordered := producers ≤ 1 && p.workers.length - producers ≤ 1
  let received := p.received.toList
  let (closed, _) := p.channel.perform memory (.closeSession keeperSlot)
  { received := if ordered then received else received.mergeSort (· ≤ ·)
    status := p.channel.status
    allocatedAfter := closed.ring.isAllocated }

end Pump

end BytePipe
