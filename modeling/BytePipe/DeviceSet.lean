import BytePipe.Channel.Status
import BytePipe.Config.Basic
import BytePipe.System

/-!
A fixed set of pipe devices: channels of one buffer size, known by minor number.
-/
namespace BytePipe

/-- The channels in order of their minor numbers. -/
structure DeviceSet where
  bufferSize : Nat
  channels : List ChannelId
  deriving DecidableEq, Repr

namespace DeviceSet

/-- Device names begin with this and end with the minor number. -/
def baseName : String := "scullpipe"

def channelName (minor : Nat) : String :=
  s!"{baseName}{minor}"

/-- The channels that a configuration describes, or why it cannot be used. -/
def channelsFor (c : PipeConfig) : Except ChannelError (List Channel) :=
  match c.validate with
  | .error e => .error (.invalidArgument e.message)
  | .ok c => .ok ((List.range c.devices).map fun minor => .named (channelName minor) c.bufferSize)

/-- Adds the devices of a configuration to a system. -/
def install (s : System) (c : PipeConfig) : Except ChannelError (System × DeviceSet) := do
  let channels ← channelsFor c
  let first := s.channels.length
  return ({ s with channels := s.channels ++ channels },
    ⟨c.bufferSize, (List.range channels.length).map (first + ·)⟩)

def channel (ds : DeviceSet) (minor : Nat) : Except ChannelError ChannelId :=
  match ds.channels[minor]? with
  | some c => .ok c
  | none => .error (.noSuchDevice minor)

/-- The access mode that open flags ask for. -/
def modeOfFlags (flags : OpenFlags) : Except ChannelError AccessMode :=
  match flags.accessMode? with
  | some mode => .ok mode
  | none => .error (.invalidArgument s!"bad access mode in flags {flags.octal}")

/-- Opens a device by its minor number. -/
def openDevice (ds : DeviceSet) (s : System) (minor : Nat) (mode : AccessMode)
    (nonBlocking : Bool) : Except ChannelError (System × SessionId) := do
  let c ← ds.channel minor
  match s.perform c (.openSession mode nonBlocking) with
  | (s, .opened slot, _) => return (s, ⟨c, slot⟩)
  | (_, .failed e, _) => throw e
  | _ => throw (.noSuchDevice minor)

/-- Bad flags are reported before an unknown device. -/
def openWithFlags (ds : DeviceSet) (s : System) (minor : Nat) (flags : OpenFlags) :
    Except ChannelError (System × SessionId) := do
  let mode ← modeOfFlags flags
  ds.openDevice s minor mode flags.isNonBlocking

def statuses (ds : DeviceSet) (s : System) : List Status :=
  ds.channels.filterMap fun c => s.channels[c]?.map (·.status)

def deviceReport (minor : Nat) (status : Status) : String :=
  s!"\nDevice {minor} {status.report}"

def report (ds : DeviceSet) (s : System) : String :=
  s!"Default buffersize is {ds.bufferSize}\n"
    ++ String.join ((ds.statuses s).zipIdx.map fun (status, minor) => deviceReport minor status)

def describe (ds : DeviceSet) (s : System) : String :=
  let channels := ds.channels.filterMap fun c => s.channels[c]?.map (·.describe)
  let listed := "[" ++ ", ".intercalate channels ++ "]"
  Text.record "PipeDeviceSet" [s!"buffer_size: {ds.bufferSize}", s!"channels: {listed}"]

end DeviceSet

end BytePipe
