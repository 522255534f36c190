import BytePipe.Scenario.World

/-!
What each step of a scenario does. A step is one turn of the world: after it nothing can run until
the next one.
-/
namespace BytePipe.Scenario

namespace World

/-- Goes on with a thing that was looked up; a name for nothing is reported. -/
def given {α : Type} (w : World) (found : Option α) (next : α → World × Reply) : World × Reply :=
  match found with
  | none => (w, .unknown)
  | some a => next a

def answer (w : World) (a : Answer) : World × Reply :=
  (w, .answer a)

/-- The reply that shows an outcome. -/
def replyOf : Outcome → Reply
  | .done => .answer (.flag true)
  | .opened _ => .answer (.flag true)
  | .transferred moved => .answer (.moved moved)
  | .asleep => .blocked
  | .ready r => .answer (.readiness r)
  | .subscribed _ => .answer (.flag true)
  | .received _ => .answer (.flag true)
  | .failed e => .failed e
  | .refused => .busy

def reply (result : World × Outcome) : World × Reply :=
  (result.1, replyOf result.2)

/-! ## Channels and devices -/

def createChannel (w : World) (channel : String) (capacity : Nat) (name : Option String) :
    World × Reply :=
  match Channel.create? (name.getD Channel.defaultName) capacity with
  | .error e => (w, .failed e)
  | .ok ch =>
    let (system, id) := w.system.addChannel ch
    { w with system, channels := w.channels.insert channel id }.answer (.channel ch.name capacity)

def makeDevices (w : World) (config : PipeConfig) : World × Reply :=
  match DeviceSet.install w.system config with
  | .error e => (w, .failed e)
  | .ok (system, ds) =>
    { w with system, devices := some ds }.answer (.devices ds.channels.length ds.bufferSize)

def nameDevice (w : World) (minor : Nat) (channel : String) : World × Reply :=
  w.given w.devices fun ds =>
    match ds.channel minor with
    | .error e => (w, .failed e)
    | .ok id =>
      w.given w.system.channels[id]? fun ch =>
        { w with channels := w.channels.insert channel id }.answer
          (.channel ch.name ch.ring.capacity)

/-! ## Sessions -/

def openSession (w : World) (channel session : String) (mode : AccessMode) (nonBlocking : Bool) :
    World × Reply :=
  w.given (w.channels.get? channel) fun id =>
    if w.sessions.contains session then (w, .busy)
    else
      match w.perform id (.openSession mode nonBlocking) with
      | (w, .opened slot) =>
        { w with sessions := w.sessions.insert session ⟨⟨id, slot⟩, none⟩ }.answer (.flag true)
      | result => reply result

/-- Takes over the result of opening a device. -/
def keepHandle (w : World) (session : String) (minor : Nat) :
    Except ChannelError (System × SessionId) → World × Reply
  | .error e => (w, .failed e)
  | .ok (system, id) =>
    { w with system, sessions := w.sessions.insert session ⟨id, some minor⟩ }.answer (.flag true)

def openDevice (w : World) (minor : Nat) (session : String)
    (openIn : DeviceSet → Except ChannelError (System × SessionId)) : World × Reply :=
  w.given w.devices fun ds =>
    if w.sessions.contains session then (w, .busy)
    else w.keepHandle session minor (openIn ds)

/-- Ends a named session that nothing uses; its name is free again. -/
def endSession (w : World) (session : String) (id : SessionId) (how : System.Ending) :
    World × Reply :=
  if w.isInUse id then (w, .busy)
  else
    let (system, outcome, account) := w.system.endSession id how
    let w := w.absorb system account
    ({ w with sessions := w.sessions.erase session }, replyOf outcome)

/-- A device handle is closed as such; any other session through the channel it is used through. -/
def closeSession (w : World) (use : Use) : World × Reply :=
  w.given (w.sessions.get? use.session) fun h =>
    w.given (w.endpoint? use) fun e =>
      w.endSession use.session e.session (if h.minor.isSome then .closeHandle else .close e.via)

def dropSession (w : World) (session : String) : World × Reply :=
  w.given (w.sessions.get? session) fun h => w.endSession session h.session .drop

def setNonBlocking (w : World) (session : String) (nonBlocking : Bool) : World × Reply :=
  w.given (w.sessions.get? session) fun h =>
    if w.isInUse h.session then (w, .busy)
    else reply (w.perform h.session.channel (.setNonBlocking h.session.slot nonBlocking))

def showSession (w : World) (session : String) : World × Reply :=
  w.given (w.sessions.get? session) fun h =>
    w.given (w.system.session? h.session) fun s =>
      w.answer (.session
        { mode := s.mode, nonBlocking := s.nonBlocking, signal := s.signal
          channel := w.system.channelName h.session.channel, minor := h.minor })

/-- An operation with a named session. -/
def useSession (w : World) (use : Use) (op : Slot → Operation) : World × Reply :=
  w.given (w.endpoint? use) fun e => reply (w.performVia e.via e.session (op e.session.slot))

/-- A named waker is known from its first use with a session on, even by a poll that fails. -/
def poll (w : World) (use : Use) (waker : Option String) : World × Reply :=
  w.given (w.sessions.get? use.session) fun _ =>
    let w := waker.elim w w.addWaker
    w.useSession use (.poll · (waker.map .named))

/-! ## Signals -/

def interruptSession (w : World) (id : SessionId) : World × Reply :=
  reply (w.perform id.channel (.interrupt id.slot))

def isPending (w : World) (interrupter : String) : World × Reply :=
  w.given (w.interrupters.get? interrupter) fun id =>
    w.given (w.system.session? id) fun s => w.answer (.flag s.signal)

/-! ## Subscriptions -/

def unsubscribe (w : World) (feed : String) : World × Reply :=
  match w.subscriptions.get? feed with
  | none => w.answer (.flag false)
  | some s =>
    let (w, _) := w.perform s.channel (.unsubscribe s.feed)
    { w with subscriptions := w.subscriptions.erase feed }.answer (.flag true)

/-- A subscription that loses its name ends. -/
def subscribe (w : World) (channel feed : String) : World × Reply :=
  w.given (w.channels.get? channel) fun id =>
    let (w, _) := w.unsubscribe feed
    match w.perform id .subscribe with
    | (w, .subscribed n) =>
      { w with subscriptions := w.subscriptions.insert feed ⟨id, n⟩ }.answer (.flag true)
    | result => reply result

/-- Receives up to `most` times, until there is nothing. -/
def receive (w : World) (s : Subscription) : (most : Nat) → World × List Delivery
  | 0 => (w, [])
  | most + 1 =>
    match w.perform s.channel (.receive s.feed) with
    | (w, .received (some receipt)) =>
      let (w, rest) := w.receive s most
      (w, .received receipt :: rest)
    | (w, _) => (w, [if w.isReferenced s.channel then .nothing else .closed])

/-! ## Tasks -/

def makeTask (w : World) (ticket : Nat) (task : String) (purpose : Purpose) : World × Reply :=
  w.given (w.job? purpose) fun job =>
    let slot : TaskSlot := ⟨ticket, some ⟨job, false⟩, 0, none⟩
    { w with tasks := w.tasks.insert task slot }.answer (.flag true)

/-- Polls a task once; its calls go by the ticket of the polling step. -/
def pollTask (w : World) (ticket : Nat) (name : String) (slot : TaskSlot) (task : Task) :
    World × PollResult :=
  let w := { w with tasks := w.tasks.insert name { slot with seen := some slot.wakes } }
  let (p, state) := Poller.poll ⟨w.system, .task slot.ticket, ticket, []⟩ task
  let w := w.absorb p.system p.account
  let (rest, result) : Option Task × PollResult := match state with
    | .pending t => (some t, none)
    | .resolved r => (none, some r)
  match w.tasks.get? name with
  | none => (w, result)
  | some slot => ({ w with tasks := w.tasks.insert name { slot with task := rest } }, result)

/-- The unfinished task of a name. -/
def task? (w : World) (name : String) : Option (TaskSlot × Task) := do
  let slot ← w.tasks.get? name
  return (slot, ← slot.task)

/-- The first task, in the order of names, that can make progress. -/
def nextTask? (w : World) : Option (String × TaskSlot × Task) := do
  let (name, slot) ← w.tasks.entries.find? (·.2.isRunnable)
  return (name, slot, ← slot.task)

def runTasks (w : World) (ticket : Nat) : (fuel : Nat) → World × List (String × PollResult)
  | 0 => (w, [])
  | fuel + 1 =>
    match w.nextTask? with
    | none => (w, [])
    | some (name, slot, task) =>
      let (w, result) := w.pollTask ticket name slot task
      let (w, rest) := w.runTasks ticket fuel
      (w, (name, result) :: rest)

/-- Transfers a job can make: all its bytes one by one at most. -/
def jobTransfers : Job → Nat
  | .ready _ _ => 0
  | .transfer _ _ => 1
  | .writeAll _ rest => rest.length
  | .waitAny _ _ => 0

/-- Polls that running the tasks can take. Every task is polled once, and once more for each
queue that a transfer wakes; tasks and sleeping calls make only so many transfers. -/
def runBudget (w : World) : Nat :=
  let jobs := w.tasks.entries.filterMap fun (_, t) => t.task.map (jobTransfers ·.job)
  let transfers := jobs.foldl (· + ·) 0
  let asleep := w.system.channels.foldl (fun n ch => n + ch.asleep) 0
  jobs.length * (1 + transfers + asleep)

/-- A finished task still has its name and its count to lose. -/
def cancelTask (w : World) (task : String) : World × Reply :=
  { w with tasks := w.tasks.erase task }.answer (.flag (w.tasks.contains task))

/-! ## Descriptions -/

def describeSession (w : World) (session : String) : World × Reply :=
  w.given (w.sessions.get? session) fun h =>
    w.given (w.system.session? h.session) fun s =>
      let text := s.describe (w.system.channelName h.session.channel)
      w.answer (.text (h.minor.elim text (describeHandle · text)))

def describeInterrupter (w : World) (interrupter : String) : World × Reply :=
  w.given (w.interrupters.get? interrupter) fun id =>
    w.given (w.system.session? id) fun s =>
      w.answer (.text (s.describeInterrupter (w.system.channelName id.channel)))

/-! ## Steps -/

/-- Carries out a step; `ticket` is its number. -/
def apply (w : World) (ticket : Nat) : Step → World × Reply
  | .createChannel channel capacity name => w.createChannel channel capacity name
  | .cloneChannel channel copy =>
    w.given (w.channels.get? channel) fun id =>
      { w with channels := w.channels.insert copy id }.answer (.flag true)
  | .sameChannel channel other =>
    w.given (w.channels.get? channel) fun a =>
      w.given (w.channels.get? other) fun b => w.answer (.flag (a == b))
  | .dropChannel channel =>
    { w with channels := w.channels.erase channel }.answer (.flag (w.channels.contains channel))
  | .makeDevices config => w.makeDevices config
  | .nameDevice minor channel => w.nameDevice minor channel
  | .reportDevices => w.given w.devices fun ds => w.answer (.text (ds.report w.system))
  | .deviceStatuses => w.given w.devices fun ds => w.answer (.statuses (ds.statuses w.system))
  | .openSession channel session mode nonBlocking => w.openSession channel session mode nonBlocking
  | .openDevice minor session mode nonBlocking =>
    w.openDevice minor session fun ds => ds.openDevice w.system minor mode nonBlocking
  | .openDeviceFlags minor session flags =>
    w.openDevice minor session fun ds => ds.openWithFlags w.system minor flags
  | .closeSession use => w.closeSession use
  | .dropSession session => w.dropSession session
  | .setNonBlocking session nonBlocking => w.setNonBlocking session nonBlocking
  | .showSession session => w.showSession session
  | .call use request => w.useSession use fun slot => .call ⟨ticket, slot, request⟩
  | .tryCall use request => w.useSession use fun slot => .tryCall ⟨ticket, slot, request⟩
  | .poll use waker => w.poll use waker
  | .showWakes => w.answer (.wakes w.wakers.entries)
  | .signal session => w.given (w.sessions.get? session) fun h => w.interruptSession h.session
  | .makeInterrupter interrupter session =>
    w.given (w.sessions.get? session) fun h =>
      { w with interrupters := w.interrupters.insert interrupter h.session }.answer (.flag true)
  | .interrupt interrupter => w.given (w.interrupters.get? interrupter) w.interruptSession
  | .isPending interrupter => w.isPending interrupter
  | .subscribe channel feed => w.subscribe channel feed
  | .unsubscribe feed => w.unsubscribe feed
  | .receive feed most =>
    w.given (w.subscriptions.get? feed) fun s =>
      let (w, ds) := w.receive s most
      w.answer (.deliveries ds)
  | .showStatus channel => w.given (w.channel? channel) fun (_, ch) => w.answer (.status ch.status)
  | .reportStatus channel =>
    w.given (w.channel? channel) fun (_, ch) => w.answer (.text ch.status.report)
  | .describeSession session => w.describeSession session
  | .describeInterrupter interrupter => w.describeInterrupter interrupter
  | .describeChannel channel =>
    w.given (w.channel? channel) fun (_, ch) => w.answer (.text ch.describe)
  | .makeTask task purpose => w.makeTask ticket task purpose
  | .pollTask task =>
    w.given (w.task? task) fun (slot, t) =>
      let (w, result) := w.pollTask ticket task slot t
      (w, .polled result)
  | .runTasks =>
    let (w, results) := w.runTasks ticket w.runBudget
    w.answer (.polls results)
  | .taskWakes task => w.given (w.tasks.get? task) fun slot => w.answer (.number slot.wakes)
  | .cancelTask task => w.cancelTask task

/-- Calls that came back in the current step after sleeping, in the order of their tickets. -/
def finished (w : World) (ticket : Nat) : List (Nat × CallResult) :=
  let ended := w.account.filterMap fun
    | .ended call result => if call.ticket = ticket then none else some (call.ticket, result)
    | _ => none
  ended.mergeSort (·.1 ≤ ·.1)

/-- One step of a scenario. -/
def step (w : World) (ticket : Nat) (s : Step) : World × Report :=
  let (w, reply) := { w with account := [] }.apply ticket s
  (w, ⟨reply, w.finished ticket⟩)

end World

/-- Runs steps in order, numbered from `ticket` on; each comes with the world it leaves. -/
def run (w : World) (ticket : Nat) : List Step → List (World × Report)
  | [] => []
  | s :: rest =>
    let (w, report) := w.step ticket s
    (w, report) :: run w (ticket + 1) rest

end BytePipe.Scenario
