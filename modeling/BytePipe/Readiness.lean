/-!
Which directions can proceed without sleeping, as a mask of two bits: 1 readable, 2 writable.
-/
namespace BytePipe

/-- A set of ready directions. -/
structure Readiness where
  readable : Bool
  writable : Bool
  deriving DecidableEq, Repr

namespace Readiness

def bits (r : Readiness) : Nat :=
  r.readable.toNat + 2 * r.writable.toNat

/-- Bits other than the two defined ones are dropped. -/
def ofBits (bits : UInt32) : Readiness :=
  ⟨bits &&& 1 != 0, bits &&& 2 != 0⟩

/-- No bit besides the defined ones is set. -/
def isExact (bits : UInt32) : Bool :=
  bits &&& ~~~3 == 0

def intersects (r interest : Readiness) : Bool :=
  (r.readable && interest.readable) || (r.writable && interest.writable)

/-- `poll` events: `POLLIN | POLLRDNORM` when readable, `POLLOUT | POLLWRNORM` when writable. -/
def pollEvents (r : Readiness) : Nat :=
  (if r.readable then 0x001 ||| 0x040 else 0) ||| (if r.writable then 0x004 ||| 0x100 else 0)

/-- The names of the set bits in bit order; an empty mask is written as a number. -/
def describe (r : Readiness) : String :=
  let names :=
    (if r.readable then ["READABLE"] else []) ++ (if r.writable then ["WRITABLE"] else [])
  let shown := if names.isEmpty then "0x0" else " | ".intercalate names
  s!"Readiness({shown})"

theorem ofBits_bits (r : Readiness) : ofBits (UInt32.ofNat r.bits) = r := by
  rcases r with ⟨_ | _, _ | _⟩ <;> rfl

end Readiness

end BytePipe
