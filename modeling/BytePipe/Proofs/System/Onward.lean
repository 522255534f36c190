import BytePipe.Proofs.Channel.Observers
import BytePipe.Proofs.System.Numbered
import BytePipe.Proofs.System.Sessions

/-!
How a system goes on from one moment to a later one. What happens meanwhile may come from any number
of parties, on any channel. A waker that has been registered with both queues of a channel, and has
not been woken since, is still registered there and the ring has not changed, as long as a session
that was open then is open now (`System.Reached.observed`).
-/
namespace BytePipe.System

/-- The systems that may follow on a system, each with what has happened meanwhile. -/
inductive Onward (memory : Memory) (most : Nat) (s : System) : System → History → Prop where
  | here : Onward memory most s s []
  | created {u : System} {later : History} {name : String} {capacity : Nat} {ch : Channel}
    (before : Onward memory most s u later) (created : Channel.create? name capacity = .ok ch) :
    Onward memory most s (u.addChannel ch).1 later
  | installed {u after : System} {later : History} {config : PipeConfig} {devices : DeviceSet}
    (before : Onward memory most s u later)
    (installed : DeviceSet.install u config = .ok (after, devices)) :
    Onward memory most s after later
  | performed {u : System} {later : History} (c : ChannelId) (op : Operation)
    (before : Onward memory most s u later)
    (fresh : ∀ ch, u.channels[c]? = some ch → op.Fresh ch)
    (few : ∀ ch ∈ (u.perform c op).1.channels, ch.openSessions ≤ most) :
    Onward memory most s (u.perform c op).1 (later ++ (u.perform c op).2.2.map (Prod.mk c))

variable {memory : Memory} {most : Nat} {s u : System} {history later : History}

theorem Reached.onward (reached : Reached memory most s history)
    (onward : Onward memory most s u later) : Reached memory most u (history ++ later) := by
  induction onward with
  | here =>
    rw [List.append_nil]
    exact reached
  | created before created ih => exact ih.created created
  | installed before installed ih => exact ih.installed installed
  | performed c op before fresh few ih =>
    rw [← List.append_assoc]
    exact ih.performed c op fresh few

/-- A channel at which a waker waits beside an open session: the channel still has the session, and
unless the session is closed or the waker woken, the ring is the same and the waker still there. -/
structure Kept (w : Waker) (c : ChannelId) (slot : Slot) (mode : AccessMode) (ring : Ring)
    (u : System) (later : History) (ch : Channel) (still : Bool) : Prop where
  found : u.channels[c]? = some ch
  listed : ch.roster[slot]? = some (mode, still)
  observed : still = true → (c, .woke w) ∉ later → ch.Observed w ∧ ch.ring = ring

theorem Kept.add {w : Waker} {c : ChannelId} {slot : Slot} {mode : AccessMode} {ring : Ring}
    {ch : Channel} {still : Bool} (kept : Kept w c slot mode ring u later ch still)
    (more : List Channel) :
    Kept w c slot mode ring { u with channels := u.channels ++ more } later ch still where
  found := by
    have inside : c < u.channels.length := (List.getElem?_eq_some_iff.mp kept.found).1
    exact (List.getElem?_append_left inside).trans kept.found
  listed := kept.listed
  observed := kept.observed

/-- A channel with an open session has storage. -/
theorem Living.stored (living : Living memory most s history) (few : most < 2 ^ 31)
    {c : ChannelId} {ch : Channel} (found : s.channels[c]? = some ch) {slot : Slot}
    {mode : AccessMode} (listed : ch.roster[slot]? = some (mode, true)) :
    ch.ring.isAllocated = true := by
  have counted := (living.lived c ch found).counted (by omega)
  exact counted.storage.mpr (Channel.openSessions_pos listed)

theorem Kept.perform {w : Waker} {c : ChannelId} {slot : Slot} {mode : AccessMode} {ring : Ring}
    {ch : Channel} {still : Bool} (kept : Kept w c slot mode ring u later ch still)
    (living : Living memory most u history) (bounded : most < 2 ^ 31) (target : ChannelId)
    {op : Operation} (fresh : ∀ ch, u.channels[target]? = some ch → op.Fresh ch)
    (few : ∀ ch ∈ (u.perform target op).1.channels, ch.openSessions ≤ most) :
    ∃ after still, Kept w c slot mode ring (u.perform target op).1
      (later ++ (u.perform target op).2.2.map (Prod.mk target)) after still := by
  by_cases own : target = c
  · subst own
    have after := living.perform target fresh few
    have inside := (List.getElem?_eq_some_iff.mp kept.found).1
    rw [perform_eq kept.found, living.grants] at after ⊢
    have found : (u.channels.set target (ch.perform memory op).1)[target]?
        = some (ch.perform memory op).1 := List.getElem?_set_self inside
    obtain ⟨peak, t, life, -, settled, rfl, -⟩ := living.lived target ch kept.found
    obtain ⟨left, listed, closed⟩ :=
      life.roster_perform settled (fresh _ kept.found) kept.listed
    refine ⟨_, left, found, listed, fun isOpen unwoken => ?_⟩
    obtain rfl := closed isOpen
    subst isOpen
    obtain ⟨observed, same⟩ := kept.observed rfl fun told => unwoken (List.mem_append_left _ told)
    have stored := living.stored bounded kept.found kept.listed
    have keeps := after.stored bounded found listed
    obtain ⟨still, ring⟩ := observed.perform stored keeps fun told =>
      unwoken (List.mem_append_right _ (List.mem_map_of_mem told))
    exact ⟨still, ring.trans same⟩
  · have elsewhere := u.channels_perform_of_ne (Ne.symm own) op
    exact ⟨ch, still, elsewhere.trans kept.found, kept.listed, fun isOpen unwoken =>
      kept.observed isOpen fun told => unwoken (List.mem_append_left _ told)⟩

theorem Reached.observed (reached : Reached memory most s history) (few : most < 2 ^ 31)
    (onward : Onward memory most s u later) {w : Waker} {c : ChannelId} {ch : Channel} {slot : Slot}
    {mode : AccessMode} (found : s.channels[c]? = some ch) (observed : ch.Observed w)
    (listed : ch.roster[slot]? = some (mode, true)) :
    ∃ after still, Kept w c slot mode ch.ring u later after still := by
  induction onward with
  | here => exact ⟨ch, true, found, listed, fun _ _ => ⟨observed, rfl⟩⟩
  | created before created ih =>
    obtain ⟨after, still, kept⟩ := ih
    exact ⟨after, still, kept.add _⟩
  | installed before installed ih =>
    obtain ⟨after, still, kept⟩ := ih
    obtain ⟨channels, -, rfl⟩ := channels_of_install installed
    exact ⟨after, still, kept.add channels⟩
  | performed target op before fresh bounded ih =>
    obtain ⟨after, still, kept⟩ := ih
    exact kept.perform (reached.onward before).living few target fresh bounded

end BytePipe.System
