import BytePipe.Config.Load
import BytePipe.DeviceSet
import BytePipe.Retry

/-!
Copying an input to an output through a pipe device, with both ends non-blocking: a feeder reads
the input in chunks and writes them to the device, a drainer reads the device and writes the
output. The two take turns in any order. The drainer is done when it finds the device empty after
having seen, before it looked, that the feeder had finished.
-/
namespace BytePipe

/-- The feeder is about to read input, has part of a chunk to send, or has finished. -/
inductive Feeder where
  | fetching
  | sending (rest : List UInt8)
  | finished (fault : Option ChannelError)
  deriving DecidableEq, Repr

/-- The drainer is about to look whether the feeder has finished, knows whether it had and is about
to read the device, or has finished. -/
inductive Drainer where
  | sampling
  | receiving (fed : Bool)
  | finished (fault : Option ChannelError)
  deriving DecidableEq, Repr

/-- `input` has not been read yet. -/
structure Copy where
  channel : Channel
  input : List UInt8
  output : Array UInt8
  feeder : Feeder
  drainer : Drainer

/-- A step of the feeder or of the drainer; reading input may give any number of bytes up to a
whole chunk. -/
inductive CopyAction where
  | fetch (count : Nat)
  | send
  | sample
  | receive
  deriving DecidableEq, Repr

namespace Copy

/-- Bytes moved at a time at most. -/
def chunkSize : Nat := 4096

def readerSlot : Slot := 0

def writerSlot : Slot := 1

/-- The first device of a configuration with both ends open. -/
def start (memory : Memory) (config : PipeConfig) (input : List UInt8) :
    Except ChannelError Copy :=
  let ch := Channel.named (DeviceSet.channelName 0) config.bufferSize
  match ch.perform memory (.openSession .readOnly true) with
  | (ch, .opened _, _) =>
    match ch.perform memory (.openSession .writeOnly true) with
    | (ch, .opened _, _) => .ok ⟨ch, input, #[], .fetching, .sampling⟩
    | (_, .failed e, _) => .error e
    | _ => .error .badAccess
  | (_, .failed e, _) => .error e
  | _ => .error .badAccess

/-- The feeder closes its end when it finishes. -/
def endFeeder (memory : Memory) (c : Copy) (fault : Option ChannelError) : Copy :=
  let (channel, _) := c.channel.perform memory (.closeSession writerSlot)
  { c with channel, feeder := .finished fault }

/-- Reads some of the input; no bytes mean that it has ended. -/
def fetch (memory : Memory) (c : Copy) (count : Nat) : Copy :=
  if c.input.isEmpty then c.endFeeder memory none
  else { c with feeder := .sending (c.input.take count), input := c.input.drop count }

/-- A write that would block leaves the chunk as it is, to be tried again. -/
def send (memory : Memory) (c : Copy) (rest : List UInt8) : Copy :=
  match c.channel.perform memory (.call ⟨0, writerSlot, .write rest⟩) with
  | (channel, .transferred (.count n), _) =>
    let rest := rest.drop n
    { c with channel, feeder := if rest.isEmpty then .fetching else .sending rest }
  | (channel, .failed e, _) =>
    if e.isRetried then { c with channel } else endFeeder memory { c with channel } (some e)
  | (channel, _, _) => { c with channel }

def sample (c : Copy) : Copy :=
  { c with drainer := .receiving (match c.feeder with
    | .finished _ => true
    | _ => false) }

def receive (memory : Memory) (c : Copy) (fed : Bool) : Copy :=
  match c.channel.perform memory (.call ⟨0, readerSlot, .read chunkSize⟩) with
  | (channel, .transferred (.bytes data), _) =>
    { c with channel, output := c.output ++ data, drainer := .sampling }
  | (channel, .failed .wouldBlock, _) =>
    { c with channel, drainer := if fed then .finished none else .sampling }
  | (channel, .failed e, _) => { c with channel, drainer := .finished (some e) }
  | (channel, _, _) => { c with channel, drainer := .finished (some .badAccess) }

/-- Whether an action is possible. As long as there is input, reading it gives at least one byte. -/
def enabled (c : Copy) : CopyAction → Bool
  | .fetch count =>
    c.feeder = .fetching ∧
      if c.input.isEmpty then count = 0
      else 0 < count ∧ count ≤ chunkSize ∧ count ≤ c.input.length
  | .send => match c.feeder with
    | .sending _ => true
    | _ => false
  | .sample => c.drainer = .sampling
  | .receive => match c.drainer with
    | .receiving _ => true
    | _ => false

/-- The state after an action; one that is not possible changes nothing. -/
def apply (memory : Memory) (c : Copy) : CopyAction → Copy
  | .fetch count => match c.feeder with
    | .fetching => c.fetch memory count
    | _ => c
  | .send => match c.feeder with
    | .sending rest => c.send memory rest
    | _ => c
  | .sample => match c.drainer with
    | .sampling => c.sample
    | _ => c
  | .receive => match c.drainer with
    | .receiving fed => c.receive memory fed
    | _ => c

/-! ## One schedule -/

def isDone (c : Copy) : Bool :=
  match c.drainer with
  | .finished _ => true
  | _ => false

/-- What the feeder does next, reading as much as it can. -/
def feederAction (c : Copy) : CopyAction :=
  match c.feeder with
  | .fetching => .fetch (min chunkSize c.input.length)
  | _ => .send

/-- The feeder moves once, then the drainer looks and reads. -/
def round (memory : Memory) (c : Copy) : Copy :=
  let c := c.apply memory c.feederAction
  (c.apply memory .sample).apply memory .receive

def run (memory : Memory) : (fuel : Nat) → Copy → Copy
  | 0, c => c
  | fuel + 1, c => if c.isDone then c else run memory fuel (c.round memory)

/-- Rounds that suffice: each one fetches, sends or receives something, until the last two. -/
def rounds (c : Copy) : Nat :=
  4 * c.input.length + 4

/-- A drainer that fails ends the copy at once; otherwise the feeder's fault counts. -/
def succeeded (c : Copy) : Bool :=
  match c.drainer, c.feeder with
  | .finished none, .finished none => true
  | _, _ => false

end Copy

/-! ## The command -/

/-- How a run of the command ends. -/
structure CopyResult where
  exitCode : Nat
  output : Array UInt8
  deriving DecidableEq, Repr

/-- A copy that has not succeeded ends with code 1 and what had been written so far. -/
def Copy.result (c : Copy) : CopyResult :=
  ⟨if c.succeeded then 0 else 1, c.output⟩

/-- The pause between attempts, in milliseconds, is the first argument; others are ignored. -/
def delayOfArguments? : List String → Option Nat
  | [] => some 1000
  | first :: _ => Number.unsigned64? first.toList

/-- What the copy needs before it starts: a configuration and an open device. A pause must be given
as a number although two sides that take turns never have to pause. -/
def prepareCopy (memory : Memory) (around : Surroundings) (arguments : List String)
    (input : List UInt8) : Option Copy := do
  let _ ← delayOfArguments? arguments
  let config ← (PipeConfig.load around none).toOption
  (Copy.start memory config input).toOption

/-- Runs the command on a whole input. A failed start ends with code 1 and no output. -/
def copyThrough (memory : Memory) (around : Surroundings) (arguments : List String)
    (input : List UInt8) : CopyResult :=
  match prepareCopy memory around arguments input with
  | none => ⟨1, #[]⟩
  | some copy => (copy.run memory copy.rounds).result

end BytePipe
