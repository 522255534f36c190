import BytePipe.System

/-!
Transfers and waits that never put a thread to sleep. A task is polled: it either resolves, or
leaves its waker with every channel it waits for and is to be polled again once woken.

Every poll of a waiting task registers the waker first, also when the channel turns out ready.
-/
namespace BytePipe

/-- A session and the channel it is used through. -/
structure Endpoint where
  via : ChannelId
  session : SessionId
  deriving DecidableEq, Repr

/-- What a task is for. `writeAll` keeps the data that is still to be sent. -/
inductive Job where
  | ready (e : Endpoint) (interest : Readiness)
  | transfer (e : Endpoint) (request : Request)
  | writeAll (e : Endpoint) (rest : List UInt8)
  | waitAny (endpoints : List Endpoint) (interest : Readiness)
  deriving DecidableEq, Repr

/-- `waiting` marks a transfer that found its channel not ready and has not looked since. -/
structure Task where
  job : Job
  waiting : Bool
  deriving DecidableEq, Repr

inductive TaskValue where
  | readiness (r : Readiness)
  | transferred (moved : Transferred)
  | allWritten
  | chosen (index : Nat) (r : Readiness)
  deriving DecidableEq, Repr

inductive TaskState where
  | pending (t : Task)
  | resolved (result : Except ChannelError TaskValue)
  deriving Repr

/-- The readiness that lets a direction proceed. -/
def Direction.interest : Direction → Readiness
  | reading => ⟨true, false⟩
  | writing => ⟨false, true⟩

/-- A system in the hands of a task that is being polled: the task's waker, the ticket of its
calls, and what has happened so far. -/
structure Poller where
  system : System
  waker : Waker
  ticket : Nat
  account : List Notice

namespace Poller

def perform (p : Poller) (e : Endpoint) (op : Operation) : Poller × Outcome :=
  let (system, outcome, account) := p.system.performVia e.via e.session op
  ({ p with system, account := p.account ++ account }, outcome)

/-- Registers the waker and looks whether the endpoint is ready. Anything but a readiness ends
the task. -/
def check (p : Poller) (e : Endpoint) : Poller × Except ChannelError Readiness :=
  match p.perform e (.poll e.session.slot (some p.waker)) with
  | (p, .ready r) => (p, .ok r)
  | (p, .failed e) => (p, .error e)
  | (p, _) => (p, .error .badAccess)

/-- A transfer that does not sleep. -/
def attempt (p : Poller) (e : Endpoint) (request : Request) : Poller × CallResult :=
  match p.perform e (.tryCall ⟨p.ticket, e.session.slot, request⟩) with
  | (p, .transferred moved) => (p, .ok moved)
  | (p, .failed e) => (p, .error e)
  | (p, _) => (p, .error .badAccess)

/-- A result, or nothing while the transfer has to wait. -/
abbrev Waited (α : Type) := Option (Except ChannelError α)

/-- Attempts a transfer; one that would block registers the waker and waits. Nothing has happened
in between, so the channel is not ready then. -/
def tryOrWait (p : Poller) (e : Endpoint) (request : Request) : Poller × Waited Transferred :=
  match p.attempt e request with
  | (p, .error .wouldBlock) =>
    match p.check e with
    | (p, .error err) => (p, some (.error err))
    | (p, .ok _) => (p, none)
  | (p, result) => (p, some result)

/-- A waiting transfer looks first and attempts only once its direction is ready. -/
def advance (p : Poller) (waiting : Bool) (e : Endpoint) (request : Request) :
    Poller × Waited Transferred :=
  if waiting then
    match p.check e with
    | (p, .error err) => (p, some (.error err))
    | (p, .ok r) =>
      if r.intersects request.direction.interest then p.tryOrWait e request else (p, none)
  else p.tryOrWait e request

/-- Sends piece after piece until all is sent or the channel is full. Every piece has at least one
byte, so `fuel` pieces suffice when it is at least the length of `rest`. -/
def sendAll (p : Poller) (e : Endpoint) : (fuel : Nat) → (waiting : Bool) → List UInt8 →
    Poller × TaskState
  | _, _, [] => (p, .resolved (.ok .allWritten))
  | 0, waiting, rest => (p, .pending ⟨.writeAll e rest, waiting⟩)
  | fuel + 1, waiting, rest =>
    match p.advance waiting e (.write rest) with
    | (p, none) => (p, .pending ⟨.writeAll e rest, true⟩)
    | (p, some (.error err)) => (p, .resolved (.error err))
    | (p, some (.ok (.count written))) => p.sendAll e fuel false (rest.drop written)
    | (p, some (.ok (.bytes _))) => (p, .pending ⟨.writeAll e rest, false⟩)

/-- The first endpoint that fails or is ready decides; the waker is left with all up to it. -/
def scan (p : Poller) (interest : Readiness) : (index : Nat) → List Endpoint →
    Poller × Waited TaskValue
  | _, [] => (p, none)
  | index, e :: rest =>
    match p.check e with
    | (p, .error err) => (p, some (.error err))
    | (p, .ok r) =>
      if r.intersects interest then (p, some (.ok (.chosen index r)))
      else p.scan interest (index + 1) rest

/-- Polls a task once. -/
def poll (p : Poller) (t : Task) : Poller × TaskState :=
  match t.job with
  | .ready e interest =>
    match p.check e with
    | (p, .error err) => (p, .resolved (.error err))
    | (p, .ok r) =>
      (p, if r.intersects interest then .resolved (.ok (.readiness r)) else .pending t)
  | .transfer e request =>
    match p.advance t.waiting e request with
    | (p, none) => (p, .pending { t with waiting := true })
    | (p, some result) => (p, .resolved (result.map .transferred))
  | .writeAll e rest => p.sendAll e rest.length t.waiting rest
  | .waitAny endpoints interest =>
    match p.scan interest 0 endpoints with
    | (p, none) => (p, .pending t)
    | (p, some result) => (p, .resolved result)

end Poller

end BytePipe
