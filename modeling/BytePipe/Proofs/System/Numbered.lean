import BytePipe.Proofs.Channel.Sleepers
import BytePipe.Proofs.System.Reached

/-!
Systems whose calls are numbered by the steps they come in. Within a step any number of operations
may be performed that neither open a session nor put a call to sleep; one that does either is the
last of its step. All sleeping calls then come from earlier steps, so every new call is fresh.
-/
namespace BytePipe

/-- Neither an open nor a call that may sleep; a call goes by the ticket of its step. -/
def Operation.Quiet (ticket : Nat) : Operation → Prop
  | .openSession _ _ => False
  | .call _ => False
  | .tryCall c => c.ticket = ticket
  | _ => True

/-- A call within a step goes by the step's ticket. -/
theorem Operation.Quiet.tickets {ticket : Nat} {op : Operation} (quiet : op.Quiet ticket) :
    ∀ call, op.call? = some call → call.ticket = ticket := by
  intro call called
  cases op with
  | call c => exact absurd quiet id
  | tryCall c =>
    obtain rfl := Option.some.inj called
    exact quiet
  | _ => contradiction

/-- What a task does when it is polled: it looks whether an endpoint is ready, or attempts a transfer
that does not sleep. -/
inductive Operation.Polls (ticket : Nat) : Operation → Prop where
  | look (slot : Slot) (waker : Option Waker) : Polls ticket (.poll slot waker)
  | attempt (c : Call) (own : c.ticket = ticket) : Polls ticket (.tryCall c)

theorem Operation.Polls.quiet {ticket : Nat} {op : Operation} (polls : op.Polls ticket) :
    op.Quiet ticket := by
  cases polls with
  | look slot waker => trivial
  | attempt c own => exact own

namespace System

/-- A reached system before a step: every call that sleeps has come in an earlier one. -/
structure Numbered (memory : Memory) (most ticket : Nat) (s : System) : Prop where
  reached : ∃ history, Reached memory most s history
  earlier : ∀ ch ∈ s.channels, ∀ d, ∀ c ∈ ch.sleepers d, c.ticket < ticket

variable {memory : Memory} {most ticket : Nat} {s : System} {history : History} {op : Operation}

theorem Reached.openSessions_le (reached : Reached memory most s history) :
    ∀ ch ∈ s.channels, ch.openSessions ≤ most := by
  induction reached with
  | empty => exact fun ch listed => absurd listed List.not_mem_nil
  | created before created ih =>
    intro ch listed
    rcases List.mem_append.mp listed with old | new
    · exact ih ch old
    · obtain ⟨name, capacity, -, rfl⟩ := named_of_create? created
      rw [List.mem_singleton.mp new]
      exact Nat.zero_le most
  | installed before installed ih =>
    obtain ⟨channels, described, rfl⟩ := channels_of_install installed
    intro ch listed
    rcases List.mem_append.mp listed with old | new
    · exact ih ch old
    · obtain ⟨name, capacity, -, rfl⟩ := named_of_channelsFor described ch new
      exact Nat.zero_le most
  | performed c op before fresh few ih => exact few

/-- An operation concerns one channel at most. -/
theorem mem_channels_perform {c : ChannelId} {after : Channel}
    (listed : after ∈ (s.perform c op).1.channels) :
    after ∈ s.channels ∨ ∃ ch, s.channels[c]? = some ch ∧ after = (ch.perform s.memory op).1 := by
  unfold perform at listed
  cases found : s.channels[c]? with
  | none =>
    rw [found] at listed
    exact .inl listed
  | some ch =>
    rw [found] at listed
    rcases List.mem_or_eq_of_mem_set listed with before | rfl
    · exact .inl before
    · exact .inr ⟨ch, rfl, rfl⟩

namespace Numbered

theorem next (numbered : Numbered memory most ticket s) : Numbered memory most (ticket + 1) s :=
  ⟨numbered.reached, fun ch listed d c asleep =>
    Nat.lt_succ_of_lt (numbered.earlier ch listed d c asleep)⟩

/-- Nobody sleeps on a new channel. -/
theorem add (numbered : Numbered memory most ticket s) {channels : List Channel}
    (reached : ∀ history, Reached memory most s history →
      Reached memory most { s with channels := s.channels ++ channels } history)
    (new : ∀ ch ∈ channels, ∃ name capacity, 0 < capacity ∧ ch = .named name capacity) :
    Numbered memory most ticket { s with channels := s.channels ++ channels } where
  reached := by
    obtain ⟨history, before⟩ := numbered.reached
    exact ⟨history, reached history before⟩
  earlier ch listed d c asleep := by
    rcases List.mem_append.mp listed with old | young
    · exact numbered.earlier ch old d c asleep
    · obtain ⟨name, capacity, -, rfl⟩ := new ch young
      cases d <;> exact absurd asleep List.not_mem_nil

theorem created (numbered : Numbered memory most ticket s) {name : String} {capacity : Nat}
    {ch : Channel} (created : Channel.create? name capacity = .ok ch) :
    Numbered memory most ticket (s.addChannel ch).1 :=
  numbered.add (fun _ before => before.created created) (named_of_mem_created created)

theorem installed (numbered : Numbered memory most ticket s) {config : PipeConfig} {after : System}
    {devices : DeviceSet} (installed : DeviceSet.install s config = .ok (after, devices)) :
    Numbered memory most ticket after := by
  obtain ⟨channels, described, rfl⟩ := channels_of_install installed
  exact numbered.add (fun history before => before.installed installed)
    (named_of_channelsFor described)

theorem fresh (numbered : Numbered memory most ticket s)
    (tickets : ∀ call, op.call? = some call → call.ticket = ticket) {c : ChannelId} {ch : Channel}
    (found : s.channels[c]? = some ch) : op.Fresh ch := by
  intro call called d w asleep
  rw [tickets call called]
  exact Nat.ne_of_lt (numbered.earlier ch (List.mem_of_getElem? found) d w asleep)

/-- Who sleeps after an operation slept before, or has come with it. -/
theorem sleepers_perform (numbered : Numbered memory most ticket s)
    (tickets : ∀ call, op.call? = some call → call.ticket = ticket) {c : ChannelId} {after : Channel}
    (listed : after ∈ (s.perform c op).1.channels) {d : Direction} {w : Call}
    (asleep : w ∈ after.sleepers d) : w.ticket < ticket ∨ op = .call w := by
  rcases mem_channels_perform listed with before | ⟨ch, found, rfl⟩
  · exact .inl (numbered.earlier after before d w asleep)
  · obtain ⟨history, reached⟩ := numbered.reached
    obtain ⟨peak, t, life, -, settled, rfl, -⟩ := reached.living.lived c ch found
    rw [reached.living.grants] at asleep
    rcases life.sleepers_perform settled (numbered.fresh tickets found) asleep with ⟨e, slept⟩ | came
    · exact .inl (numbered.earlier _ (List.mem_of_getElem? found) e w slept)
    · exact .inr came

/-- The last operation of a step. -/
theorem perform (numbered : Numbered memory most ticket s) (c : ChannelId)
    (tickets : ∀ call, op.call? = some call → call.ticket = ticket)
    (few : ∀ ch ∈ (s.perform c op).1.channels, ch.openSessions ≤ most) :
    Numbered memory most (ticket + 1) (s.perform c op).1 := by
  obtain ⟨history, reached⟩ := numbered.reached
  refine ⟨⟨_, reached.performed c op (fun ch found => numbered.fresh tickets found) few⟩, ?_⟩
  intro after listed d w asleep
  rcases numbered.sleepers_perform tickets listed asleep with before | rfl
  · omega
  · rw [tickets w rfl]
    omega

/-- An operation after which a step may go on. -/
theorem quiet (numbered : Numbered memory most ticket s) (c : ChannelId) (quiet : op.Quiet ticket) :
    Numbered memory most ticket (s.perform c op).1 := by
  have tickets := quiet.tickets
  obtain ⟨history, reached⟩ := numbered.reached
  refine ⟨⟨_, reached.performed c op (fun ch found => numbered.fresh tickets found) ?_⟩, ?_⟩
  · intro after listed
    rcases mem_channels_perform listed with before | ⟨ch, found, rfl⟩
    · exact reached.openSessions_le after before
    · obtain ⟨peak, t, life, -, settled, rfl, -⟩ := reached.living.lived c ch found
      have most := reached.openSessions_le _ (List.mem_of_getElem? found)
      refine Nat.le_trans ?_ most
      rw [reached.living.grants]
      refine life.openSessions_perform_le settled (numbered.fresh tickets found) ?_
      rintro mode nonBlocking rfl
      exact quiet
  · intro after listed d w asleep
    rcases numbered.sleepers_perform tickets listed asleep with before | rfl
    · exact before
    · exact absurd quiet id

theorem performVia (numbered : Numbered memory most ticket s) (via : ChannelId) (id : SessionId)
    (tickets : ∀ call, op.call? = some call → call.ticket = ticket)
    (few : ∀ ch ∈ (s.performVia via id op).1.channels, ch.openSessions ≤ most) :
    Numbered memory most (ticket + 1) (s.performVia via id op).1 := by
  unfold System.performVia at *
  split
  · rename_i own
    rw [if_pos own] at few
    exact numbered.perform via tickets few
  · exact numbered.next

theorem quietVia (numbered : Numbered memory most ticket s) (via : ChannelId) (id : SessionId)
    (quiet : op.Quiet ticket) : Numbered memory most ticket (s.performVia via id op).1 := by
  unfold System.performVia
  split
  · exact numbered.quiet via quiet
  · exact numbered

end Numbered

end System

end BytePipe
