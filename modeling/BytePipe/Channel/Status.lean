import BytePipe.Channel.Basic
import BytePipe.Text.Quoted

/-!
What a channel shows of itself: a status record, its report text, and short descriptions of a
channel, a session and an interrupter.
-/
namespace BytePipe

/-- A view of a channel at one moment. Without storage there is neither used nor free space. -/
structure Status where
  name : String
  capacity : Nat
  allocated : Bool
  readPos : Nat
  writePos : Nat
  used : Nat
  free : Nat
  readers : Nat
  writers : Nat
  readersWaiting : Nat
  writersWaiting : Nat
  deriving DecidableEq, Repr

def Channel.status (ch : Channel) : Status :=
  let space (n : Nat) := if ch.ring.isAllocated then n else 0
  { name := ch.name
    capacity := ch.ring.capacity
    allocated := ch.ring.isAllocated
    readPos := ch.ring.readPos
    writePos := ch.ring.writePos
    used := space ch.ring.used
    free := space ch.ring.free
    readers := ch.readers.toNat
    writers := ch.writers.toNat
    readersWaiting := ch.readQueue.sleepers.length
    writersWaiting := ch.writeQueue.sleepers.length }

/-- Four lines, each ended. -/
def Status.report (s : Status) : String :=
  let allocated := if s.allocated then "yes" else "no"
  s!"{s.name}: allocated={allocated}\n"
    ++ s!"   Queues: readers waiting {s.readersWaiting}, writers waiting {s.writersWaiting}\n"
    ++ s!"   Buffer: {s.capacity} bytes, rp {s.readPos}, wp {s.writePos}, "
    ++ s!"used {s.used}, free {s.free}\n"
    ++ s!"   readers {s.readers}, writers {s.writers}\n"

def AccessMode.describe : AccessMode → String
  | readOnly => "ReadOnly"
  | writeOnly => "WriteOnly"
  | readWrite => "ReadWrite"

def Channel.describe (ch : Channel) : String :=
  Text.record "RingChannel"
    [s!"name: {Text.quoted ch.name}", s!"subscribers: {ch.subscribers}", ".."]

def Session.describe (channelName : String) (s : Session) : String :=
  Text.record "OpenSession"
    [s!"channel: {Text.quoted channelName}", s!"mode: {s.mode.describe}",
      s!"non_blocking: {s.nonBlocking}", s!"signal_pending: {s.signal}"]

def Session.describeInterrupter (channelName : String) (s : Session) : String :=
  Text.record "Interrupter" [s!"channel: {Text.quoted channelName}", s!"pending: {s.signal}"]

/-- A device handle is a minor number and a session. -/
def describeHandle (minor : Nat) (session : String) : String :=
  Text.record "DeviceHandle" [s!"minor: {minor}", s!"session: {session}"]

end BytePipe
