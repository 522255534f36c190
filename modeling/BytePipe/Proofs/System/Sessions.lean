import BytePipe.Proofs.System.Reached

/-!
Sessions and storage over whole runs of a system. In every state that can be reached the counts of
a channel are the numbers of its open sessions and there is storage while one is open. Whichever way
a session is ended, it leaves its own channel, once, and no other channel notices
(`sessions_counted_and_ended_once`).
-/
namespace BytePipe.System

variable {memory : Memory} {most : Nat} {s : System} {history : History}

/-- All ways of ending a session end it on its own channel. -/
theorem endSession_eq (s : System) (id : SessionId) (how : Ending) :
    ∃ op, Operation.Ends id.slot op ∧ s.endSession id how = s.perform id.channel op := by
  cases how with
  | close via =>
    by_cases own : via = id.channel
    · refine ⟨_, .close, ?_⟩
      rw [endSession, if_pos own, own]
    · refine ⟨_, .drop, ?_⟩
      rw [endSession, if_neg own]
  | closeHandle => exact ⟨_, .close, rfl⟩
  | drop => exact ⟨_, .drop, rfl⟩

theorem Reached.ended (reached : Reached memory most s history) (id : SessionId) (how : Ending)
    (few : ∀ ch ∈ (s.endSession id how).1.channels, ch.openSessions ≤ most) :
    Reached memory most (s.endSession id how).1
      (history ++ (s.endSession id how).2.2.map (Prod.mk id.channel)) := by
  obtain ⟨op, ends, same⟩ := s.endSession_eq id how
  rw [same] at few ⊢
  refine reached.performed id.channel op (fun ch found c called => ?_) few
  cases ends <;> cases called

/-- How the end of a session turns out. It is refused if the session is not open or a call sleeps
on it. Otherwise the session leaves its own channel, all other channels stay as they are, and its
counts alone are taken back, once. -/
inductive EndOf (s : System) (id : SessionId) : System × Outcome × List Notice → Prop where
  | refused
    (held : ∀ ch, s.channels[id.channel]? = some ch → (Turn.start ch).endable? id.slot = none) :
    EndOf s id (s, .refused, [])
  | done {ch after : Channel} {session : Session} {account : List Notice}
    (found : s.channels[id.channel]? = some ch)
    (endable : (Turn.start ch).endable? id.slot = some session)
    (parted : ch.Parted id.slot session after)
    (once : ∀ slot, timesCountedOut slot account = if id.slot = slot then 1 else 0) :
    EndOf s id ({ s with channels := s.channels.set id.channel after }, .done, account)

theorem perform_eq {c : ChannelId} {ch : Channel} (found : s.channels[c]? = some ch)
    (op : Operation) :
    s.perform c op
      = ({ s with channels := s.channels.set c (ch.perform s.memory op).1 },
        (ch.perform s.memory op).2) := by
  rw [perform, found]

theorem perform_only {memory : Memory} {ch after : Channel} {op : Operation} {outcome : Outcome}
    {told : List Notice} (performed : ch.perform memory op = (after, outcome, told)) :
    (System.mk memory [ch]).perform 0 op = (⟨memory, [after]⟩, outcome, told) := by
  have found : (System.mk memory [ch]).channels[0]? = some ch := rfl
  rw [perform_eq found, performed]
  rfl

theorem openSessions_perform_only {memory : Memory} {most : Nat} {ch after : Channel}
    {op : Operation} {outcome : Outcome} {told : List Notice}
    (performed : ch.perform memory op = (after, outcome, told)) (few : after.openSessions ≤ most) :
    ∀ other ∈ ((System.mk memory [ch]).perform 0 op).1.channels, other.openSessions ≤ most := by
  rw [perform_only performed]
  intro other listed
  rw [List.mem_singleton.mp listed]
  exact few

/-- An operation that leaves its channel as it was leaves the system as it was. -/
theorem set_same {c : ChannelId} {ch : Channel} (found : s.channels[c]? = some ch) :
    { s with channels := s.channels.set c ch } = s := by
  obtain ⟨inside, rfl⟩ := List.getElem?_eq_some_iff.mp found
  rw [List.set_getElem_self]

theorem Living.endOf (living : Living memory most s history) (few : most < 2 ^ 31)
    (id : SessionId) (how : Ending) : EndOf s id (s.endSession id how) := by
  obtain ⟨op, ends, same⟩ := s.endSession_eq id how
  rw [same]
  cases found : s.channels[id.channel]? with
  | none =>
    rw [System.perform, found]
    refine .refused fun ch is => ?_
    rw [found] at is
    contradiction
  | some ch =>
    have lived := living.lived id.channel ch found
    have counted := lived.counted (by omega)
    have uses := lived.openUses_le
    rw [perform_eq found, Channel.perform_ends ends]
    cases endable : (Turn.start ch).endable? id.slot with
    | none =>
      simp only
      rw [set_same found]
      refine .refused fun other is => ?_
      rw [found] at is
      obtain rfl := Option.some.inj is
      exact endable
    | some session =>
      have isOpen := (Turn.openSession?_of_endable? endable).1
      refine .done found endable ?_ fun slot => ?_
      · exact Channel.Counted.parted (t := Turn.start ch) counted isOpen
          (show ch.openUses < 2 ^ 32 by omega)
      · rw [Turn.timesCountedOut_releaseCounts]
        exact Nat.zero_add _

/-- However sessions are opened and ended, on any number of channels and devices and with fewer than
`2 ^ 31` of them open at once on a channel: the counts are exact, there is storage while a session
is open, and both positions are zero while there is none. Each session is counted out once, when it
is closed. An open that fails for want of memory changes nothing, and a further open leaves the
buffered bytes alone. -/
theorem sessions_counted_and_ended_once (reached : Reached memory most s history)
    (few : most < 2 ^ 31) :
    (∀ ch ∈ s.channels,
      ch.readers.toNat = ch.openFor .reading ∧ ch.writers.toNat = ch.openFor .writing ∧
      (ch.ring.isAllocated = true ↔ 0 < ch.openSessions) ∧
      (ch.ring.isAllocated = false → ch.ring.readPos = 0 ∧ ch.ring.writePos = 0)) ∧
    (∀ (c : ChannelId) (ch : Channel) (slot : Slot), s.channels[c]? = some ch →
      timesCountedOut slot (history.on c) = if ch.isClosed slot then 1 else 0) ∧
    (∀ id how, EndOf s id (s.endSession id how)) ∧
    (∀ c mode nonBlocking after e account,
      s.perform c (.openSession mode nonBlocking) = (after, .failed e, account) →
      after = s ∧ account = [] ∧ ∃ ch, s.channels[c]? = some ch ∧ ch.ring.isAllocated = false ∧
        e = .outOfMemory ch.ring.capacity) ∧
    (∀ (c : ChannelId) (ch : Channel) mode nonBlocking, s.channels[c]? = some ch →
      ch.ring.isAllocated = true → ∃ after, after.ring = ch.ring ∧
        s.perform c (.openSession mode nonBlocking)
          = ({ s with channels := s.channels.set c after }, .opened ch.sessions.length, [])) := by
  have living := reached.living
  refine ⟨fun ch listed => ?_, fun c ch slot found => ?_, living.endOf few, ?_, ?_⟩
  · obtain ⟨c, inside, rfl⟩ := List.getElem_of_mem listed
    have counted := (living.lived c _ (List.getElem?_eq_getElem inside)).counted (by omega)
    refine ⟨counted.counts .reading, counted.counts .writing, counted.storage, fun away => ?_⟩
    exact counted.wellFormed.released (by simpa [Ring.isAllocated] using away)
  · exact (living.lived c ch found).tallied slot
  · intro c mode nonBlocking after e account failed
    cases found : s.channels[c]? with
    | none =>
      rw [perform, found] at failed
      cases failed
    | some ch =>
      rw [perform_eq found] at failed
      obtain ⟨rfl, result⟩ := Prod.mk.inj failed
      have outcome : ch.perform s.memory (.openSession mode nonBlocking)
          = ((ch.perform s.memory (.openSession mode nonBlocking)).1, .failed e, account) := by
        rw [← result]
      obtain ⟨same, none, unallocated, -, reason⟩ := Channel.perform_openSession_failed outcome
      rw [same]
      exact ⟨set_same found, none, ch, rfl, unallocated, reason⟩
  · intro c ch mode nonBlocking found allocated
    refine ⟨((Turn.start ch).join mode nonBlocking).channel, rfl, ?_⟩
    rw [perform_eq found, Channel.perform_openSession_of_allocated _ mode nonBlocking allocated]

/-- A session of the first channel that is closed through the second one. -/
theorem sessions_counted_and_ended_once_foreign_close :
    ∃ s history, Reached ⟨16, by decide⟩ 1 s history ∧ s.channels.length = 2 ∧
      timesCountedOut 0 (History.on history 0) = 1 ∧ timesCountedOut 0 (History.on history 1) = 0 := by
  have first := (@Reached.empty ⟨16, by decide⟩ 1).created
    (show Channel.create? "a" 4 = .ok _ from rfl)
  have second := first.created (show Channel.create? "b" 4 = .ok _ from rfl)
  have opened := second.performed 0 (.openSession .readWrite false)
    (fun ch found => .of_idle _ fun d => by cases found; cases d <;> rfl) (by decide)
  have closed := opened.ended ⟨0, 0⟩ (.close 1) (by decide)
  refine ⟨_, _, closed, rfl, ?_, ?_⟩
  · exact (sessions_counted_and_ended_once closed (by decide)).2.1 0 _ 0 rfl
  · exact (sessions_counted_and_ended_once closed (by decide)).2.1 1 _ 0 rfl

end BytePipe.System
