import BytePipe.Text.Quoted

/-!
How many pipe devices there are and how large each buffer is.
-/
namespace BytePipe

structure PipeConfig where
  devices : Nat
  bufferSize : Nat
  deriving DecidableEq, Repr

/-- Why a configuration cannot be used: its sources could not be read as one, or no device can be
built from it. -/
inductive ConfigError where
  | load
  | noDevices
  | smallBuffer (size : Nat)
  deriving DecidableEq, Repr

namespace ConfigError

/-- The text of a configuration that was read and refused; a failure to read it tells nothing
more here. -/
def message : ConfigError → String
  | load => "Failed to load configuration"
  | noDevices => "Invalid configuration: devices must be at least 1"
  | smallBuffer size => s!"Invalid configuration: buffer_size must be at least 2, got {size}"

end ConfigError

namespace PipeConfig

def standard : PipeConfig :=
  ⟨4, 4000⟩

/-- Small, for trying things out. -/
def small : PipeConfig :=
  ⟨2, 16⟩

def describe (c : PipeConfig) : String :=
  Text.record "PipeConfig" [s!"devices: {c.devices}", s!"buffer_size: {c.bufferSize}"]

/-- A buffer of one byte could never hold anything. -/
def validate (c : PipeConfig) : Except ConfigError PipeConfig :=
  if c.devices = 0 then .error .noDevices
  else if c.bufferSize < 2 then .error (.smallBuffer c.bufferSize)
  else .ok c

theorem validate_eq_ok_iff (c d : PipeConfig) :
    c.validate = .ok d ↔ d = c ∧ 1 ≤ c.devices ∧ 2 ≤ c.bufferSize := by
  unfold validate
  split
  · simp; omega
  · split
    · simp; omega
    · simp only [Except.ok.injEq]
      constructor
      · rintro rfl; exact ⟨rfl, by omega, by omega⟩
      · exact fun h => h.1.symm

end PipeConfig

end BytePipe
