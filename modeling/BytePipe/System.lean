import BytePipe.Channel.Operation

/-!
Several channels side by side, known by number. A session belongs to the channel it was opened on;
used through any other channel it is an error and changes nothing.
-/
namespace BytePipe

abbrev ChannelId := Nat

structure SessionId where
  channel : ChannelId
  slot : Slot
  deriving DecidableEq, Repr

structure System where
  memory : Memory
  channels : List Channel

namespace System

def empty (memory : Memory) : System :=
  ⟨memory, []⟩

def channelName (s : System) (c : ChannelId) : String :=
  (s.channels[c]?.map (·.name)).getD ""

def session? (s : System) (id : SessionId) : Option Session := do
  let ch ← s.channels[id.channel]?
  ch.sessions[id.slot]?

/-- Adds a channel under the next number. -/
def addChannel (s : System) (ch : Channel) : System × ChannelId :=
  ({ s with channels := s.channels ++ [ch] }, s.channels.length)

/-- One operation on one channel; all other channels stay as they are. -/
def perform (s : System) (c : ChannelId) (op : Operation) : System × Outcome × List Notice :=
  match s.channels[c]? with
  | none => (s, .refused, [])
  | some ch =>
    let (ch, outcome, account) := ch.perform s.memory op
    ({ s with channels := s.channels.set c ch }, outcome, account)

/-- An operation with a session through the channel `via`. -/
def performVia (s : System) (via : ChannelId) (id : SessionId) (op : Operation) :
    System × Outcome × List Notice :=
  if via = id.channel then s.perform via op
  else (s, .failed (.foreignSession (s.channelName id.channel) (s.channelName via)), [])

/-- How the owner of a session ends it: by closing it through a channel, by closing the device
handle it belongs to, or by dropping it. -/
inductive Ending where
  | close (via : ChannelId)
  | closeHandle
  | drop
  deriving DecidableEq, Repr

/-- A channel that is asked to close another channel's session leaves it alone; the session's value
then ends like a dropped one. A handle asks the session's own channel. -/
def endSession (s : System) (id : SessionId) : Ending → System × Outcome × List Notice
  | .close via =>
    if via = id.channel then s.perform via (.closeSession id.slot)
    else s.perform id.channel (.dropSession id.slot)
  | .closeHandle => s.perform id.channel (.closeSession id.slot)
  | .drop => s.perform id.channel (.dropSession id.slot)

theorem channels_perform_of_ne (s : System) {c other : ChannelId} (h : other ≠ c)
    (op : Operation) : (s.perform c op).1.channels[other]? = s.channels[other]? := by
  unfold perform
  split
  · rfl
  · exact List.getElem?_set_ne (fun eq => h eq.symm)

/-- A foreign session changes nothing anywhere. -/
theorem performVia_foreign (s : System) {via : ChannelId} {id : SessionId} (h : via ≠ id.channel)
    (op : Operation) :
    s.performVia via id op =
      (s, .failed (.foreignSession (s.channelName id.channel) (s.channelName via)), []) :=
  if_neg h

end System

end BytePipe
