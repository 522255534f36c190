import BytePipe.Channel.Status
import BytePipe.DeviceSet
import BytePipe.Task

/-!
The steps of a scenario: operations on channels, sessions, devices, interrupters, wakers,
subscriptions and tasks that are known by name, and the replies they get.
-/
namespace BytePipe.Scenario

/-- A named session, and the channel it is used through when that is not its own. -/
structure Use where
  session : String
  via : Option String
  deriving Repr

/-- What a task is made for. -/
inductive Purpose where
  | ready (use : Use) (interest : Readiness)
  | transfer (use : Use) (request : Request)
  | writeAll (use : Use) (data : List UInt8)
  | waitAny (uses : List Use) (interest : Readiness)
  deriving Repr

inductive Step where
  | createChannel (channel : String) (capacity : Nat) (name : Option String)
  | cloneChannel (channel copy : String)
  | sameChannel (channel other : String)
  | dropChannel (channel : String)
  | makeDevices (config : PipeConfig)
  | nameDevice (minor : Nat) (channel : String)
  | reportDevices
  | deviceStatuses
  | openSession (channel session : String) (mode : AccessMode) (nonBlocking : Bool)
  | openDevice (minor : Nat) (session : String) (mode : AccessMode) (nonBlocking : Bool)
  | openDeviceFlags (minor : Nat) (session : String) (flags : OpenFlags)
  | closeSession (use : Use)
  | dropSession (session : String)
  | setNonBlocking (session : String) (nonBlocking : Bool)
  | showSession (session : String)
  | call (use : Use) (request : Request)
  | tryCall (use : Use) (request : Request)
  | poll (use : Use) (waker : Option String)
  | showWakes
  | signal (session : String)
  | makeInterrupter (interrupter session : String)
  | interrupt (interrupter : String)
  | isPending (interrupter : String)
  | subscribe (channel feed : String)
  | unsubscribe (feed : String)
  | receive (feed : String) (most : Nat)
  | showStatus (channel : String)
  | reportStatus (channel : String)
  | describeSession (session : String)
  | describeInterrupter (interrupter : String)
  | describeChannel (channel : String)
  | makeTask (task : String) (purpose : Purpose)
  | pollTask (task : String)
  | runTasks
  | taskWakes (task : String)
  | cancelTask (task : String)
  deriving Repr

structure SessionView where
  mode : AccessMode
  nonBlocking : Bool
  signal : Bool
  channel : String
  minor : Option Nat
  deriving DecidableEq, Repr

/-- What a subscriber sees: something received, nothing for now, or nothing ever again. -/
inductive Delivery where
  | received (receipt : Receipt)
  | nothing
  | closed
  deriving DecidableEq, Repr

/-- How one poll of a task went; pending tasks have no result. -/
abbrev PollResult := Option (Except ChannelError TaskValue)

inductive Answer where
  | flag (b : Bool)
  | number (n : Nat)
  | text (s : String)
  | channel (name : String) (capacity : Nat)
  | devices (count bufferSize : Nat)
  | moved (moved : Transferred)
  | readiness (r : Readiness)
  | session (view : SessionView)
  | wakes (counts : List (String × Nat))
  | deliveries (ds : List Delivery)
  | status (s : Status)
  | statuses (ss : List Status)
  | polls (results : List (String × PollResult))

/-- `unknown` names something that does not exist; `busy` a session that is in use, or a session
name that is taken. -/
inductive Reply where
  | answer (a : Answer)
  | polled (result : PollResult)
  | blocked
  | failed (e : ChannelError)
  | unknown
  | busy

/-- The reply to a step and the sleeping calls that came back during it, by ticket. -/
structure Report where
  reply : Reply
  finished : List (Nat × CallResult)

end BytePipe.Scenario
