import BytePipe.Names
import BytePipe.Scenario.Step

/-!
The world a scenario runs in: a system of channels, the names given to its parts, and how often
each waker has been woken.
-/
namespace BytePipe.Scenario

/-- A plain session, or one that belongs to a device handle. -/
structure Handle where
  session : SessionId
  minor : Option Nat
  deriving DecidableEq, Repr

structure Subscription where
  channel : ChannelId
  feed : Nat
  deriving DecidableEq, Repr

/-- A task with its own waker. `seen` is the wake count when its latest poll began. A finished
task keeps its count. -/
structure TaskSlot where
  ticket : Nat
  task : Option Task
  wakes : Nat
  seen : Option Nat
  deriving Repr

/-- A task never polled, or woken since its latest poll began, can make progress. -/
def TaskSlot.isRunnable (t : TaskSlot) : Bool :=
  t.task.isSome && t.seen != some t.wakes

/-- `account` tells what has happened in the current step. -/
structure World where
  system : System
  devices : Option DeviceSet
  channels : Names ChannelId
  sessions : Names Handle
  interrupters : Names SessionId
  subscriptions : Names Subscription
  wakers : Names Nat
  tasks : Names TaskSlot
  account : List Notice

/-- The sessions that a job uses, each with the channel it is used through. -/
def endpoints : Job → List Endpoint
  | .ready e _ => [e]
  | .transfer e _ => [e]
  | .writeAll e _ => [e]
  | .waitAny es _ => es

namespace World

def fresh (memory : Memory) : World :=
  { system := .empty memory, devices := none, channels := .empty, sessions := .empty
    interrupters := .empty, subscriptions := .empty, wakers := .empty, tasks := .empty
    account := [] }

/-! ## Wake counts -/

def countWake (w : World) : Waker → World
  | .named name =>
    match w.wakers.get? name with
    | none => w
    | some n => { w with wakers := w.wakers.insert name (n + 1) }
  | .task ticket =>
    { w with tasks := w.tasks.map fun t =>
        if t.ticket = ticket then { t with wakes := t.wakes + 1 } else t }

def countNotice (w : World) : Notice → World
  | .woke waker => w.countWake waker
  | _ => w

/-- Takes over a system together with what happened to it. -/
def absorb (w : World) (system : System) (account : List Notice) : World :=
  account.foldl countNotice { w with system, account := w.account ++ account }

/-- Makes the waker of a name known, with no wake-ups so far. -/
def addWaker (w : World) (name : String) : World :=
  if w.wakers.contains name then w else { w with wakers := w.wakers.insert name 0 }

/-! ## Operations on the system -/

def perform (w : World) (c : ChannelId) (op : Operation) : World × Outcome :=
  let (system, outcome, account) := w.system.perform c op
  (w.absorb system account, outcome)

def performVia (w : World) (via : ChannelId) (id : SessionId) (op : Operation) :
    World × Outcome :=
  let (system, outcome, account) := w.system.performVia via id op
  (w.absorb system account, outcome)

/-! ## Looking up -/

def channel? (w : World) (name : String) : Option (ChannelId × Channel) := do
  let id ← w.channels.get? name
  return (id, ← w.system.channels[id]?)

/-- A use without a channel of its own goes through the session's channel. -/
def endpoint? (w : World) (use : Use) : Option Endpoint := do
  let h ← w.sessions.get? use.session
  match use.via with
  | none => return ⟨h.session.channel, h.session⟩
  | some name => return ⟨← w.channels.get? name, h.session⟩

def endpoints? (w : World) (uses : List Use) : Option (List Endpoint) :=
  uses.mapM w.endpoint?

def job? (w : World) : Purpose → Option Job
  | .ready use interest => (w.endpoint? use).map (.ready · interest)
  | .transfer use request => (w.endpoint? use).map (.transfer · request)
  | .writeAll use data => (w.endpoint? use).map (.writeAll · data)
  | .waitAny uses interest => (w.endpoints? uses).map (.waitAny · interest)

/-- What the unfinished tasks use. -/
def taskEndpoints (w : World) : List Endpoint :=
  w.tasks.entries.flatMap fun (_, t) => (t.task.map (endpoints ·.job)).getD []

/-- A session that a sleeping call or an unfinished task still uses. -/
def isInUse (w : World) (id : SessionId) : Bool :=
  (w.system.channels[id.channel]?).any (·.isWaiting id.slot)
    || w.taskEndpoints.any (·.session == id)

/-- Something still refers to the channel, so that writes to it remain possible. -/
def isReferenced (w : World) (c : ChannelId) : Bool :=
  w.channels.any (· == c)
    || w.devices.any (·.channels.contains c)
    || w.sessions.any (·.session.channel == c)
    || w.interrupters.any (·.channel == c)
    || w.taskEndpoints.any (fun e => e.via == c || e.session.channel == c)

/-! ## Status -/

/-- Devices shown with every status. -/
def shownDevices : Nat := 4

/-- The status of every named channel and of the first devices. -/
def statuses (w : World) : List (String × Status) :=
  let named := w.channels.entries.filterMap fun (name, id) =>
    w.system.channels[id]?.map fun ch => (name, ch.status)
  let devices := ((w.devices.map (·.channels)).getD []).take shownDevices
  named ++ devices.zipIdx.filterMap fun (id, minor) =>
    w.system.channels[id]?.map fun ch => (s!"#{minor}", ch.status)

end World

end BytePipe.Scenario
