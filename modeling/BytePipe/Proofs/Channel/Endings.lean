import BytePipe.Proofs.Channel.Sessions

/-!
How sessions begin and end, as whole operations on a channel. Ending a session closes it and takes
its counts back, and over a whole life the counts of a session are taken back exactly once, at the
moment it is closed (`Life.countedOut`). Opening never touches a ring that is there, and an open
that finds no memory changes nothing.
-/
namespace BytePipe

/-- The counts of the session at a slot are taken back. -/
def Notice.countsOut (slot : Slot) : Notice → Bool
  | .countedOut other => other == slot
  | _ => false

/-- How often the counts of the session at a slot have been taken back. -/
def timesCountedOut (slot : Slot) (account : List Notice) : Nat :=
  account.countP (Notice.countsOut slot)

theorem timesCountedOut_append (slot : Slot) (account notices : List Notice) :
    timesCountedOut slot (account ++ notices)
      = timesCountedOut slot account + timesCountedOut slot notices :=
  List.countP_append

theorem timesCountedOut_woke (slot : Slot) (wakers : List Waker) :
    timesCountedOut slot (wakers.map .woke) = 0 := by
  simp [timesCountedOut, Notice.countsOut, List.countP_eq_zero]

/-- An operation that ends the session at a slot. -/
inductive Operation.Ends (slot : Slot) : Operation → Prop where
  | close : Ends slot (.closeSession slot)
  | drop : Ends slot (.dropSession slot)

namespace Channel

/-- The session at a slot has been opened and closed again. -/
def isClosed (ch : Channel) (slot : Slot) : Bool :=
  ch.roster[slot]?.any (!·.2)

theorem isClosed_congr {ch ch' : Channel} (roster : ch'.roster = ch.roster) (slot : Slot) :
    ch'.isClosed slot = ch.isClosed slot := by
  rw [isClosed, roster, isClosed]

theorem isClosed_of_open {ch : Channel} {slot : Slot} {s : Session}
    (found : ch.openSession? slot = some s) : ch.isClosed slot = false := by
  rw [isClosed, roster_of_openSession? found]
  rfl

end Channel

namespace Turn

variable {t u : Turn}

/-- Every session that has been closed has been counted out once, and no other session has. -/
def Tallied (t : Turn) : Prop :=
  ∀ slot, timesCountedOut slot t.account = if t.channel.isClosed slot then 1 else 0

theorem Tallied.quiet (exact : Tallied t) {notices : List Notice}
    (roster : u.channel.roster = t.channel.roster) (account : u.account = t.account ++ notices)
    (quiet : ∀ slot, timesCountedOut slot notices = 0) : Tallied u := by
  intro slot
  rw [account, timesCountedOut_append, quiet slot, Nat.add_zero, exact slot,
    Channel.isClosed_congr roster]

theorem Tallied.wakeOne (exact : Tallied t) (d : Direction) : Tallied (t.wakeOne d) := by
  obtain ⟨wakers, account⟩ := account_wakeOne t d
  exact exact.quiet (roster_wakeOne t d) account fun slot => timesCountedOut_woke slot wakers

theorem Tallied.wakeAll (exact : Tallied t) (d : Direction) : Tallied (t.wakeAll d) := by
  obtain ⟨wakers, account⟩ := account_wakeAll t d
  exact exact.quiet (roster_wakeAll t d) account fun slot => timesCountedOut_woke slot wakers

theorem Tallied.record (tallied : Tallied t) {n : Notice} (quiet : ∀ slot, n.countsOut slot = false) :
    Tallied (t.record [n]) := by
  refine tallied.quiet rfl rfl fun slot => ?_
  simp [timesCountedOut, quiet slot]

theorem Tallied.cutShort (tallied : Tallied t) (c : Call) : Tallied (t.cutShort c) := by
  refine tallied.quiet (alike_setSignal t c.slot false).roster (account_cutShort t c) fun slot => ?_
  rfl

theorem Tallied.transfer (tallied : Tallied t) (c : Call) : Tallied (t.transfer c).1 := by
  have served : Tallied (t.served c) := tallied.record fun _ => rfl
  have alike := alike_transfer t c
  exact (served.wakeOne c.direction.opposite).quiet alike.roster
    (alike.account.trans (List.append_nil _).symm) fun _ => rfl

theorem Tallied.ran (tallied : Tallied t) {c : Call} (ran : Ran t c u) : Tallied u := by
  cases ran with
  | interrupted unready => exact tallied.cutShort c
  | passedOn ready => exact (tallied.cutShort c).wakeOne c.direction
  | moved fits ready => exact tallied.transfer c
  | slept fits unready =>
    exact tallied.quiet (roster_sleep t c) (account_sleep t c) fun _ => rfl

theorem Tallied.arrived (tallied : Tallied t) {c : Call} (arrived : Arrived t c u) : Tallied u := by
  cases arrived with
  | refused => exact tallied
  | failed e => exact tallied.record fun _ => rfl
  | answered trivial => exact tallied.record fun _ => rfl
  | ran ran => exact tallied.ran ran

/-- A new session is open. -/
theorem Tallied.join (tallied : Tallied t) (mode : AccessMode) (nonBlocking : Bool) :
    Tallied (t.join mode nonBlocking) := by
  intro slot
  have same : (t.join mode nonBlocking).channel.isClosed slot = t.channel.isClosed slot := by
    simp only [Channel.isClosed, Turn.join, Channel.roster, channel_mapChannel, List.map_append]
    rcases Nat.lt_trichotomy slot t.channel.sessions.length with inside | rfl | outside
    · rw [List.getElem?_append_left (by simpa using inside)]
    · simp
    · rw [List.getElem?_eq_none (by simp; omega), List.getElem?_eq_none (by simp; omega)]
  rw [same]
  exact tallied slot

theorem roster_markClosed {slot : Slot} {s : Session}
    (found : t.channel.openSession? slot = some s) :
    (t.markClosed slot).channel.roster[slot]? = some (s.mode, false) := by
  rw [Channel.openSession?, Option.filter_eq_some_iff] at found
  simp [markClosed, Channel.roster, found.1]

/-- Ending a session takes its counts back, and nobody else's. -/
theorem timesCountedOut_releaseCounts (t : Turn) (slot other : Slot) (mode : AccessMode) :
    timesCountedOut other (t.releaseCounts slot mode).account
      = timesCountedOut other t.account + if slot = other then 1 else 0 := by
  have once : timesCountedOut other [.countedOut slot] = if slot = other then 1 else 0 := by
    simp [timesCountedOut, Notice.countsOut, List.countP_singleton]
  unfold releaseCounts
  dsimp only
  split
  · rw [account_record, timesCountedOut_append, account_mapChannel, account_record,
      timesCountedOut_append, once]
    rfl
  · rw [account_record, timesCountedOut_append, once]
    rfl

theorem Tallied.ended (tallied : Tallied t) {slot : Slot} {s : Session}
    (found : t.channel.openSession? slot = some s) :
    Tallied ((t.markClosed slot).releaseCounts slot s.mode) := by
  intro other
  rw [timesCountedOut_releaseCounts, Channel.isClosed_congr (roster_releaseCounts _ slot s.mode)]
  change timesCountedOut other t.account + _ = _
  rw [tallied other]
  by_cases own : slot = other
  · subst own
    rw [Channel.isClosed_of_open found, Channel.isClosed, roster_markClosed found]
    simp
  · rw [Channel.isClosed, Channel.isClosed, roster_markClosed_ne t own]
    simp [own]

theorem Tallied.applied {memory : Memory} {op : Operation} (tallied : Tallied t)
    (applied : Applied memory t op u) : Tallied u := by
  cases applied with
  | alike alike =>
    exact tallied.quiet alike.roster (alike.account.trans (List.append_nil _).symm) fun _ => rfl
  | joined mode nonBlocking opens allocated => exact tallied.join mode nonBlocking
  | allocated mode nonBlocking ring opens unallocated granted =>
    refine Tallied.join ?_ mode nonBlocking
    exact tallied.quiet rfl rfl fun _ => rfl
  | ended slot s found idle => exact tallied.ended found
  | arrived c called arrived => exact tallied.arrived arrived
  | signalled slot =>
    have signalled : Tallied (t.mapChannel (·.setSignal slot true)) := by
      have alike := alike_setSignal t slot true
      exact tallied.quiet alike.roster (alike.account.trans (List.append_nil _).symm) fun _ => rfl
    exact (signalled.wakeAll .reading).wakeAll .writing

end Turn

/-- Over a life, the counts of a session are taken back once: when it is closed. -/
theorem Life.tallied {memory : Memory} {peak : Nat} {t : Turn} (life : Life memory peak t) :
    t.Tallied := by
  induction life with
  | created name capacity positive => exact fun slot => rfl
  | operated op before settled fresh ih => exact ih.applied (Turn.applied_apply memory _ op)
  | @ran peak t earlier c later before woken ih =>
    obtain ⟨-, fits, -⟩ := before.orderly.take woken
    have here : Turn.Tallied { t with woken := earlier ++ later } :=
      ih.quiet rfl (List.append_nil _).symm fun _ => rfl
    exact here.ran (Turn.ran_resume fits)

namespace Turn

theorem settle_of_settled {t : Turn} (settled : t.woken = []) : t.settle = t := by
  unfold settle
  cases t.pendingRuns with
  | zero => rfl
  | succ fuel => rw [runWoken, settled]; rfl

end Turn

namespace Channel

variable {memory : Memory} {ch : Channel} {mode : AccessMode} {nonBlocking : Bool}

/-- An operation that wakes nobody is over once it is applied. -/
theorem perform_of_settled {op : Operation} (settled : (op.apply memory (.start ch)).1.woken = []) :
    ch.perform memory op
      = ((op.apply memory (.start ch)).1.channel, (op.apply memory (.start ch)).2,
        (op.apply memory (.start ch)).1.account) := by
  have same := Turn.settle_of_settled settled
  simp only [perform, same]

/-- On a channel that has storage, opening a session only lists it and counts it in. -/
theorem perform_openSession_of_allocated (memory : Memory) (mode : AccessMode) (nonBlocking : Bool)
    (allocated : ch.ring.isAllocated = true) :
    ch.perform memory (.openSession mode nonBlocking)
      = (((Turn.start ch).join mode nonBlocking).channel, .opened ch.sessions.length, []) := by
  have opened : (Turn.start ch).openSession memory mode nonBlocking
      = ((Turn.start ch).join mode nonBlocking, .ok ch.sessions.length) := by
    unfold Turn.openSession
    exact if_pos allocated
  simp only [perform, Operation.apply, opened]
  rw [Turn.settle_of_settled rfl]
  rfl

/-- The first open brings the storage. -/
theorem perform_openSession_of_granted {ring : Ring} (mode : AccessMode) (nonBlocking : Bool)
    (unallocated : ch.ring.isAllocated = false) (granted : ch.ring.allocate memory = .ok ring) :
    ch.perform memory (.openSession mode nonBlocking)
      = (((((Turn.start ch).mapChannel ({ · with ring })).record [.allocated]).join mode
          nonBlocking).channel, .opened ch.sessions.length, [.allocated]) := by
  have opened : (Turn.start ch).openSession memory mode nonBlocking
      = ((((Turn.start ch).mapChannel ({ · with ring })).record [.allocated]).join mode nonBlocking,
        .ok ch.sessions.length) := by
    simp [Turn.openSession, Turn.start, unallocated, granted]
  simp only [perform, Operation.apply, opened]
  rw [Turn.settle_of_settled rfl]
  rfl

/-- Without storage and without memory for it, opening changes nothing. -/
theorem perform_openSession_of_refused {e : ChannelError} (mode : AccessMode) (nonBlocking : Bool)
    (unallocated : ch.ring.isAllocated = false) (refused : ch.ring.allocate memory = .error e) :
    ch.perform memory (.openSession mode nonBlocking) = (ch, .failed e, []) := by
  have none : (Turn.start ch).openSession memory mode nonBlocking = (Turn.start ch, .error e) := by
    simp [Turn.openSession, Turn.start, unallocated, refused]
  simp only [perform, Operation.apply, none]
  rw [Turn.settle_of_settled rfl]
  rfl

/-- An open can fail only for want of memory, and then changes nothing. -/
theorem perform_openSession_failed {after : Channel} {e : ChannelError} {account : List Notice}
    (failed : ch.perform memory (.openSession mode nonBlocking) = (after, .failed e, account)) :
    after = ch ∧ account = [] ∧ ch.ring.isAllocated = false ∧ memory.grants ch.ring.capacity = false
      ∧ e = .outOfMemory ch.ring.capacity := by
  cases allocated : ch.ring.isAllocated with
  | true =>
    rw [perform_openSession_of_allocated memory mode nonBlocking allocated] at failed
    cases failed
  | false =>
    cases granted : memory.grants ch.ring.capacity with
    | true =>
      have stored : ch.ring.allocate memory = .ok _ := if_pos granted
      rw [perform_openSession_of_granted mode nonBlocking allocated stored] at failed
      cases failed
    | false =>
      have refused : ch.ring.allocate memory = .error (.outOfMemory ch.ring.capacity) :=
        if_neg (by rw [granted]; exact Bool.false_ne_true)
      rw [perform_openSession_of_refused mode nonBlocking allocated refused] at failed
      cases failed
      exact ⟨rfl, rfl, rfl, rfl, rfl⟩

/-- Closing and dropping are refused for a session that is not open or that a call sleeps on, and
end any other one. -/
theorem perform_ends {op : Operation} {slot : Slot} (ends : op.Ends slot) :
    ch.perform memory op
      = match (Turn.start ch).endable? slot with
        | none => (ch, .refused, [])
        | some s =>
          let t := ((Turn.start ch).markClosed slot).releaseCounts slot s.mode
          (t.channel, .done, t.account) := by
  have dropped : (Turn.start ch).dropSession slot
      = match (Turn.start ch).endable? slot with
        | none => (Turn.start ch, false)
        | some s => (((Turn.start ch).markClosed slot).releaseCounts slot s.mode, true) := by
    unfold Turn.dropSession
    cases endable : (Turn.start ch).endable? slot with
    | none => rfl
    | some s =>
      have found := (Turn.openSession?_of_endable? endable).1
      dsimp only
      rw [Turn.letGo, found]
  have applied : op.apply memory (Turn.start ch)
      = (((Turn.start ch).dropSession slot).1,
        if ((Turn.start ch).dropSession slot).2 then .done else .refused) := by
    cases ends with
    | close => rw [← Turn.closeSession_eq_dropSession]; rfl
    | drop => rfl
  simp only [perform, applied, dropped]
  cases endable : (Turn.start ch).endable? slot with
  | none =>
    simp only
    rw [Turn.settle_of_settled rfl]
    rfl
  | some s =>
    simp only
    rw [Turn.settle_of_settled (by rw [Turn.woken_releaseCounts]; rfl)]
    rfl

/-- What the end of an open session does to its channel: the session is closed and the others stay
as they are, each count that included it was positive and is one less, and the ring is left alone
unless this was the last session. -/
structure Parted (ch : Channel) (slot : Slot) (s : Session) (after : Channel) : Prop where
  closed : after.isClosed slot = true
  others : ∀ other, other ≠ slot → after.sessions[other]? = ch.sessions[other]?
  positive : ∀ d, s.mode.permits d = true → 0 < (ch.count d).toNat
  counts : ∀ d, (after.count d).toNat + (if s.mode.permits d then 1 else 0) = (ch.count d).toNat
  kept : 1 < ch.openSessions → after.ring = ch.ring
  freed : ch.openSessions = 1 → after.ring = .empty ch.ring.capacity

theorem ring_releaseCounts_of_unallocated {t : Turn} {slot : Slot} {mode : AccessMode}
    (stored : t.channel.ring.isAllocated = true)
    (unallocated : (t.releaseCounts slot mode).channel.ring.isAllocated = false) :
    (t.releaseCounts slot mode).channel.ring = .empty t.channel.ring.capacity := by
  unfold Turn.releaseCounts at *
  dsimp only at *
  split at unallocated
  · rename_i empty
    rw [if_pos empty]
    rfl
  · rename_i counted
    change t.channel.ring.isAllocated = false at unallocated
    rw [stored] at unallocated
    contradiction

theorem Counted.parted {t : Turn} (counted : t.channel.Counted) {slot : Slot} {s : Session}
    (found : t.channel.openSession? slot = some s) (few : t.channel.openUses < 2 ^ 32) :
    t.channel.Parted slot s ((t.markClosed slot).releaseCounts slot s.mode).channel := by
  have sessions := Turn.openSessions_markClosed found
  have after := Turn.counted_ended counted found few
  have roster := Turn.roster_releaseCounts (t.markClosed slot) slot s.mode
  have left : ((t.markClosed slot).releaseCounts slot s.mode).channel.openSessions + 1
      = t.channel.openSessions := by
    rw [openSessions_eq, roster, ← openSessions_eq]
    exact sessions
  have directed (d : Direction) :
      ((t.markClosed slot).releaseCounts slot s.mode).channel.openFor d
        + (if s.mode.permits d then 1 else 0) = t.channel.openFor d := by
    rw [openFor_eq, roster, ← openFor_eq]
    exact Turn.openFor_markClosed found d
  have stored : t.channel.ring.isAllocated = true := counted.storage.mpr (by omega)
  refine ⟨?_, fun other ne => ?_, fun d permits => ?_, fun d => ?_, fun more => ?_, fun last => ?_⟩
  · rw [isClosed_congr roster, isClosed, Turn.roster_markClosed found]
    rfl
  · rw [Turn.sessions_releaseCounts]
    simp [Turn.markClosed, Ne.symm ne]
  · have one := directed d
    rw [permits, if_pos rfl] at one
    rw [counted.counts d]
    omega
  · rw [after.counts d, counted.counts d]
    exact directed d
  · exact (Turn.releaseCounts_of_allocated (after.storage.mpr (by omega))).1
  · refine ring_releaseCounts_of_unallocated (t := t.markClosed slot) stored ?_
    rw [← Bool.not_eq_true, after.storage]
    omega

/-- A session that can be ended leaves its channel sound and the sleepers asleep. -/
theorem Counted.perform_ends {ch : Channel} (counted : ch.Counted)
    (few : ch.openUses < 2 ^ 32) (memory : Memory) {op : Operation} {slot : Slot}
    (ends : op.Ends slot) {s : Session} (found : ch.openSession? slot = some s) (idle : ch.isWaiting slot = false) :
    (ch.perform memory op).1.Counted ∧ ch.Parted slot s (ch.perform memory op).1 ∧
      (ch.perform memory op).1.roster = ch.roster.set slot (s.mode, false) ∧
      ∀ d, (ch.perform memory op).1.sleepers d = ch.sleepers d := by
  have endable : (Turn.start ch).endable? slot = some s := by
    rw [Turn.endable?]
    exact (if_neg (by rw [Turn.start, idle]; exact Bool.false_ne_true)).trans found
  rw [Channel.perform_ends ends, endable]
  refine ⟨Turn.counted_ended (t := Turn.start ch) counted found few,
    Counted.parted (t := Turn.start ch) counted found few, ?_, fun d => ?_⟩
  · rw [Turn.roster_releaseCounts]
    have listed := roster_of_openSession? found
    have closed := Turn.roster_markClosed (t := Turn.start ch) found
    apply List.ext_getElem?
    intro other
    by_cases own : slot = other
    · subst own
      rw [closed, List.getElem?_set_self (List.getElem?_eq_some_iff.mp listed).1]
    · rw [Turn.roster_markClosed_ne (Turn.start ch) own, List.getElem?_set_ne own]
      rfl
  · rw [Turn.sleepers_releaseCounts]
    cases d <;> rfl

end Channel

end BytePipe
