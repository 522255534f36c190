import BytePipe.Text.Quoted

/-!
Why an operation on a pipe fails, and what each cause looks like to a caller: its message, its
Linux error number and the kind of input/output error it stands for.
-/
namespace BytePipe

/-- The cause of a failed channel operation. -/
inductive ChannelError where
  | wouldBlock
  | interrupted
  | outOfMemory (requested : Nat)
  | invalidArgument (reason : String)
  | badAccess
  | noSuchDevice (minor : Nat)
  deriving DecidableEq, Repr

namespace ChannelError

def message : ChannelError → String
  | wouldBlock => "Operation would block"
  | interrupted => "Interrupted while waiting"
  | outOfMemory requested => s!"Out of memory allocating {requested} byte buffer"
  | invalidArgument reason => s!"Invalid argument: {reason}"
  | badAccess => "Session not opened for this access"
  | noSuchDevice minor => s!"No such device: minor {minor}"

/-- Linux error number: `EAGAIN`, `EINTR`, `ENOMEM`, `EINVAL`, `EBADF`, `ENODEV`. -/
def errno : ChannelError → Nat
  | wouldBlock => 11
  | interrupted => 4
  | outOfMemory _ => 12
  | invalidArgument _ => 22
  | badAccess => 9
  | noSuchDevice _ => 19

/-- Only an interrupted operation may be restarted at once. -/
def isRestartable : ChannelError → Bool
  | interrupted => true
  | _ => false

def describe : ChannelError → String
  | wouldBlock => "WouldBlock"
  | interrupted => "Interrupted"
  | outOfMemory requested => Text.record "OutOfMemory" [s!"requested: {requested}"]
  | invalidArgument reason => s!"InvalidArgument({Text.quoted reason})"
  | badAccess => "BadAccess"
  | noSuchDevice minor => s!"NoSuchDevice({minor})"

/-- A session was passed to a channel other than the one it was opened on. -/
def foreignSession (own used : String) : ChannelError :=
  invalidArgument s!"session belongs to channel '{own}', not '{used}'"

def zeroCapacity : ChannelError :=
  invalidArgument "capacity must be greater than zero"

end ChannelError

/-- Classes of input/output errors that channel errors fall into. -/
inductive FailureKind where
  | wouldBlock
  | interrupted
  | outOfMemory
  | invalidInput
  | permissionDenied
  | notFound
  deriving DecidableEq, Repr

def ChannelError.failureKind : ChannelError → FailureKind
  | wouldBlock => .wouldBlock
  | interrupted => .interrupted
  | outOfMemory _ => .outOfMemory
  | invalidArgument _ => .invalidInput
  | badAccess => .permissionDenied
  | noSuchDevice _ => .notFound

end BytePipe
