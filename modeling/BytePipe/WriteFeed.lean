/-!
Notices of completed writes. Every subscription keeps its own bounded backlog; a subscriber that
falls behind loses the oldest notices and never holds up a writer.
-/
namespace BytePipe

/-- `available` counts the bytes buffered right after the write. -/
structure WriteEvent where
  written : Nat
  available : Nat
  deriving DecidableEq, Repr

/-- One subscription: notices not yet received, oldest first, and how many were lost since the
last receipt. -/
structure WriteFeed where
  backlog : List WriteEvent
  lost : Nat
  deriving DecidableEq, Repr

/-- What a subscriber is given. -/
inductive Receipt where
  | event (e : WriteEvent)
  | lagged (lost : Nat)
  deriving DecidableEq, Repr

namespace WriteFeed

/-- Notices kept per subscription. -/
def depth : Nat := 64

def empty : WriteFeed :=
  ⟨[], 0⟩

def publish (f : WriteFeed) (e : WriteEvent) : WriteFeed :=
  if f.backlog.length < depth then
    { f with backlog := f.backlog ++ [e] }
  else
    ⟨f.backlog.tail ++ [e], f.lost + 1⟩

/-- A loss is reported before the oldest notice kept; nothing is given when nothing is queued. -/
def receive (f : WriteFeed) : Option Receipt × WriteFeed :=
  if f.lost ≠ 0 then
    (some (.lagged f.lost), { f with lost := 0 })
  else
    match f.backlog with
    | [] => (none, f)
    | e :: rest => (some (.event e), { f with backlog := rest })

theorem length_publish_le {f : WriteFeed} (h : f.backlog.length ≤ depth) (e : WriteEvent) :
    (f.publish e).backlog.length ≤ depth := by
  unfold publish
  split
  · rename_i room
    rw [List.length_append, List.length_singleton]
    exact room
  · rw [List.length_append, List.length_tail, List.length_singleton]
    have : 0 < depth := by decide
    omega

end WriteFeed

end BytePipe
