/-!
The directions a session is opened for, derived from separate intents or from the access bits of
open flags.
-/
namespace BytePipe

/-- The two directions bytes move: out of a channel to a reader, into it from a writer. -/
inductive Direction where
  | reading
  | writing
  deriving DecidableEq, Repr

def Direction.opposite : Direction → Direction
  | reading => writing
  | writing => reading

@[simp] theorem Direction.opposite_opposite (d : Direction) : d.opposite.opposite = d := by
  cases d <;> rfl

inductive AccessMode where
  | readOnly
  | writeOnly
  | readWrite
  deriving DecidableEq, Repr

namespace AccessMode

/-- No mode when neither direction is wanted. -/
def ofIntent? : (read write : Bool) → Option AccessMode
  | true, true => some readWrite
  | true, false => some readOnly
  | false, true => some writeOnly
  | false, false => none

def permits : AccessMode → Direction → Bool
  | readOnly, .reading => true
  | readOnly, .writing => false
  | writeOnly, .reading => false
  | writeOnly, .writing => true
  | readWrite, _ => true

theorem ofIntent?_permits (m : AccessMode) :
    ofIntent? (m.permits .reading) (m.permits .writing) = some m := by
  cases m <;> rfl

end AccessMode

/-- Flags of an `open` call: a signed 32-bit word. -/
abbrev OpenFlags := Int32

namespace OpenFlags

/-- The two low bits select read-only, write-only or read-write; the fourth value is no mode. -/
def accessMode? (flags : OpenFlags) : Option AccessMode :=
  match (flags &&& 3).toInt with
  | 0 => some .readOnly
  | 1 => some .writeOnly
  | 2 => some .readWrite
  | _ => none

/-- `O_NONBLOCK`. -/
def nonBlockingBit : OpenFlags := 0o4000

def isNonBlocking (flags : OpenFlags) : Bool :=
  flags &&& nonBlockingBit != 0

/-- Octal digits of the two's complement word. -/
def octal (flags : OpenFlags) : String :=
  "0o" ++ String.ofList (Nat.toDigits 8 flags.toUInt32.toNat)

end OpenFlags

end BytePipe
