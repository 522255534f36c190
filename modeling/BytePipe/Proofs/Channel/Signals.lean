import BytePipe.Proofs.Channel.Sleepers

/-!
What each operation and each woken call does about signals. A call looks for a signal of its session
only when it would have to sleep or has just slept, and takes the one it finds (`Turn.cutShort`).
Whatever else happens goes on aside of the signals (`Turn.Aside`), but for interrupts themselves.
`Signalling` says so for operations, `aside_resume` and `resume_takes` for woken calls.
-/
namespace BytePipe

/-- The call that has come back because of a signal, if any. -/
def Notice.interrupted? : Notice → Option Call
  | .ended c (.error .interrupted) => some c
  | _ => none

/-- The calls that have come back because of a signal, the earliest first. -/
def interruptedCalls (account : List Notice) : List Call :=
  account.filterMap Notice.interrupted?

namespace Channel

variable {ch ch' : Channel} {slot other : Slot} {c : Call}

/-- A call that cannot go on without sleeping: its session is open, in blocking mode and permits it,
there is something to move, and its direction is not ready. -/
structure MustSleep (ch : Channel) (c : Call) : Prop where
  session : ∃ s, ch.openSession? c.slot = some s ∧ s.nonBlocking = false ∧
    s.mode.permits c.direction = true
  nontrivial : c.request.isTrivial = false
  unready : ch.ready c.direction = false

@[simp] theorem sessions_setQueue (ch : Channel) (q : WaitQueue) (d : Direction) :
    (ch.setQueue q d).sessions = ch.sessions := by
  cases d <;> rfl

theorem hasSignal_congr (sessions : ch'.sessions = ch.sessions) (slot : Slot) :
    ch'.hasSignal slot = ch.hasSignal slot := by
  rw [hasSignal, sessions, hasSignal]

/-- A change of a session that leaves its signal alone. -/
theorem hasSignal_modify (ch : Channel) (slot other : Slot) {f : Session → Session}
    (signal : ∀ s, (f s).signal = s.signal) :
    Channel.hasSignal { ch with sessions := ch.sessions.modify slot f } other
      = ch.hasSignal other := by
  simp only [hasSignal, List.getElem?_modify]
  cases ch.sessions[other]? with
  | none => rfl
  | some s =>
    by_cases chosen : slot = other
    · simp [chosen, signal]
    · simp [chosen]

theorem hasSignal_setSignal_self (ch : Channel) (slot : Slot) (signal : Bool) :
    (ch.setSignal slot signal).hasSignal slot = (ch.sessions[slot]?.isSome && signal) := by
  simp only [hasSignal, setSignal, List.getElem?_modify, if_true]
  cases ch.sessions[slot]? <;> simp

theorem hasSignal_setSignal_ne (ch : Channel) (signal : Bool) (ne : slot ≠ other) :
    (ch.setSignal slot signal).hasSignal other = ch.hasSignal other := by
  simp only [hasSignal, setSignal, List.getElem?_modify, if_neg ne]
  cases ch.sessions[other]? <;> rfl

/-- Taking a signal leaves those of the other sessions. -/
theorem hasSignal_setSignal_false (ch : Channel) (slot other : Slot) :
    (ch.setSignal slot false).hasSignal other = (ch.hasSignal other && other != slot) := by
  by_cases own : slot = other
  · subst own
    rw [hasSignal_setSignal_self]
    simp
  · rw [hasSignal_setSignal_ne ch false own]
    simp [Ne.symm own]

/-- A session that has a waiting call is listed. -/
theorem Fits.listed (fits : ch.Fits c) : ch.sessions[c.slot]?.isSome = true := by
  obtain ⟨mode, found, -⟩ := fits.session
  rw [roster, List.getElem?_map] at found
  cases listed : ch.sessions[c.slot]? with
  | none =>
    rw [listed] at found
    contradiction
  | some s => rfl

end Channel

theorem interruptedCalls_append (account notices : List Notice) :
    interruptedCalls (account ++ notices) = interruptedCalls account ++ interruptedCalls notices :=
  List.filterMap_append

theorem interruptedCalls_woke (wakers : List Waker) :
    interruptedCalls (wakers.map .woke) = [] := by
  rw [interruptedCalls, List.filterMap_eq_nil_iff]
  intro n told
  obtain ⟨w, -, rfl⟩ := List.mem_map.mp told
  rfl

namespace Turn

variable {memory : Memory} {op : Operation} {t u v : Turn} {c w : Call} {slot : Slot}

theorem sessions_transfer (t : Turn) (c : Call) :
    (t.transfer c).1.channel.sessions = t.channel.sessions := by
  have moved : (t.transfer c).1.channel.sessions = (t.moving c).channel.sessions := by
    obtain ⟨ticket, slot, request⟩ := c
    cases request <;> rfl
  exact moved.trans (Channel.sessions_setQueue _ _ _)

/-! ## What leaves the signals alone -/

/-- No signal is raised or taken, and no call comes back with one. -/
structure Aside (t u : Turn) : Prop where
  signals : ∀ slot, u.channel.hasSignal slot = t.channel.hasSignal slot
  interrupted : interruptedCalls u.account = interruptedCalls t.account

namespace Aside

theorem refl (t : Turn) : Aside t t :=
  ⟨fun _ => rfl, rfl⟩

theorem trans (first : Aside t u) (second : Aside u v) : Aside t v :=
  ⟨fun slot => (second.signals slot).trans (first.signals slot),
    second.interrupted.trans first.interrupted⟩

theorem of_eq (sessions : u.channel.sessions = t.channel.sessions)
    (account : u.account = t.account) : Aside t u :=
  ⟨Channel.hasSignal_congr sessions, by rw [account]⟩

theorem record (t : Turn) {n : Notice} (other : n.interrupted? = none) :
    Aside t (t.record [n]) := by
  refine ⟨fun _ => rfl, ?_⟩
  rw [account_record, interruptedCalls_append, interruptedCalls, interruptedCalls,
    List.filterMap_cons, other, List.filterMap_nil, List.append_nil]

theorem wakeOne (t : Turn) (d : Direction) : Aside t (t.wakeOne d) := by
  obtain ⟨wakers, account⟩ := account_wakeOne t d
  refine ⟨Channel.hasSignal_congr (Channel.sessions_setQueue _ _ d), ?_⟩
  rw [account, interruptedCalls_append, interruptedCalls_woke, List.append_nil]

theorem wakeAll (t : Turn) (d : Direction) : Aside t (t.wakeAll d) := by
  obtain ⟨wakers, account⟩ := account_wakeAll t d
  refine ⟨Channel.hasSignal_congr (Channel.sessions_setQueue _ _ d), ?_⟩
  rw [account, interruptedCalls_append, interruptedCalls_woke, List.append_nil]

theorem sleep (t : Turn) (c : Call) : Aside t (t.sleep c) := by
  have queued : Aside t (t.mapChannel fun ch =>
      ch.setQueue ((ch.queue c.direction).enqueue c) c.direction) :=
    .of_eq (Channel.sessions_setQueue _ _ _) rfl
  exact queued.trans (.record _ rfl)

theorem transfer (t : Turn) (c : Call) : Aside t (t.transfer c).1 := by
  have served : Aside t (t.served c) :=
    (Aside.of_eq rfl rfl : Aside t (t.mapChannel _)).trans (.record _ rfl)
  have moving : Aside t (t.moving c) := served.trans (.wakeOne _ c.direction.opposite)
  refine ⟨Channel.hasSignal_congr (sessions_transfer t c), ?_⟩
  rw [(alike_transfer t c).account]
  exact moving.interrupted

theorem join (t : Turn) (mode : AccessMode) (nonBlocking : Bool) :
    Aside t (t.join mode nonBlocking) := by
  refine ⟨fun slot => ?_, rfl⟩
  simp only [Turn.join, countModeIn, channel_mapChannel, Channel.hasSignal]
  rcases Nat.lt_trichotomy slot t.channel.sessions.length with inside | rfl | outside
  · rw [List.getElem?_append_left inside]
  · simp
  · rw [List.getElem?_eq_none (by simp; omega), List.getElem?_eq_none (by omega)]

theorem ended (t : Turn) (slot : Slot) (mode : AccessMode) :
    Aside t ((t.markClosed slot).releaseCounts slot mode) := by
  have marked : Aside t (t.markClosed slot) :=
    ⟨fun other => t.channel.hasSignal_modify slot other fun _ => rfl, rfl⟩
  refine marked.trans ⟨Channel.hasSignal_congr (sessions_releaseCounts _ slot mode), ?_⟩
  unfold releaseCounts
  dsimp only
  have counted : interruptedCalls ((t.markClosed slot).account ++ [.countedOut slot])
      = interruptedCalls (t.markClosed slot).account := by
    rw [interruptedCalls_append]
    exact List.append_nil _
  split
  · rw [account_record, interruptedCalls_append]
    exact (List.append_nil _).trans counted
  · exact counted

end Aside

theorem interruptedCalls_cutShort (t : Turn) (c : Call) :
    interruptedCalls (t.cutShort c).account = interruptedCalls t.account ++ [c] := by
  rw [account_cutShort, interruptedCalls_append]
  rfl

theorem hasSignal_cutShort (t : Turn) (c : Call) (slot : Slot) :
    (t.cutShort c).channel.hasSignal slot = (t.channel.hasSignal slot && slot != c.slot) :=
  t.channel.hasSignal_setSignal_false c.slot slot

/-! ## What an operation does about signals -/

/-- A call that arrives looks for a signal only if it would have to sleep. -/
inductive Heard (t : Turn) (c : Call) (mayBlock : Bool) : Turn × Progress → Prop where
  | aside {u : Turn} {progress : Progress} (aside : Aside t u)
    (fewer : ∀ w ∈ u.waiting, w ∈ t.waiting) (other : progress ≠ .ended (.error .interrupted)) :
    Heard t c mayBlock (u, progress)
  | slept (blocks : mayBlock = true) (fits : t.channel.Fits c)
    (unready : t.channel.ready c.direction = false)
    (silent : t.channel.hasSignal c.slot = false) : Heard t c mayBlock (t.sleep c, .asleep)
  | cutShort (blocks : mayBlock = true) (fits : t.channel.Fits c)
    (unready : t.channel.ready c.direction = false)
    (pending : t.channel.hasSignal c.slot = true) :
    Heard t c mayBlock (t.cutShort c, .ended (.error .interrupted))

theorem progress_transfer (t : Turn) (c : Call) :
    (t.transfer c).2 ≠ .ended (.error .interrupted) := by
  obtain ⟨ticket, slot, request⟩ := c
  cases request <;> exact fun same => by cases same

theorem heard_arrive (t : Turn) (c : Call) (mayBlock : Bool) :
    Heard t c mayBlock (t.arrive c mayBlock) := by
  have answered (result : CallResult) (other : result ≠ .error .interrupted) :
      Heard t c mayBlock (t.finish c result) := by
    refine .aside (.record t ?_) (fun w waits => waits) fun same => other (Progress.ended.inj same)
    cases result with
    | ok moved => rfl
    | error e => cases e <;> first | rfl | exact absurd rfl other
  have verdict := verdict_arrive t c mayBlock
  generalize t.arrive c mayBlock = result at verdict
  cases verdict with
  | refused closed => exact .aside (.refl t) (fun w waits => waits) fun same => by cases same
  | denied s found forbidden => exact answered _ fun same => by cases same
  | answered s found permitted trivial => exact answered _ fun same => by cases same
  | moved fits ready =>
    exact .aside (.transfer t c) (fun w waits => mem_waiting_transfer waits) (progress_transfer t c)
  | turnedAway fits unready impatient => exact answered _ fun same => by cases same
  | cutShort fits unready blocks pending => exact .cutShort blocks fits unready pending
  | slept fits unready blocks silent => exact .slept blocks fits unready silent

/-- An operation leaves signals alone, or it is an interrupt, or a call that must sleep: that one
takes a pending signal, or finds none and falls asleep. -/
inductive Signalling (t : Turn) (op : Operation) : Turn × Outcome → Prop where
  | aside {u : Turn} {outcome : Outcome} (aside : Aside t u)
    (fewer : ∀ w ∈ u.waiting, w ∈ t.waiting) (other : outcome ≠ .failed .interrupted)
    (calm : ∀ slot, op ≠ .interrupt slot) : Signalling t op (u, outcome)
  | slept (c : Call) (made : op = .call c) (must : t.channel.MustSleep c)
    (silent : t.channel.hasSignal c.slot = false) : Signalling t op (t.sleep c, .asleep)
  | cutShort (c : Call) (made : op = .call c) (must : t.channel.MustSleep c)
    (pending : t.channel.hasSignal c.slot = true) :
    Signalling t op (t.cutShort c, .failed .interrupted)
  | raised (slot : Slot) (made : op = .interrupt slot) :
    Signalling t op (t.interrupt slot, .done)

theorem mustSleep_of_fits (fits : t.channel.Fits c)
    (blocks : (t.channel.openSession? c.slot).any (!·.nonBlocking) = true)
    (unready : t.channel.ready c.direction = false) : t.channel.MustSleep c := by
  obtain ⟨mode, listed, permits⟩ := fits.session
  obtain ⟨s, found, rfl⟩ := Channel.openSession?_of_roster listed
  rw [found, Option.any_some] at blocks
  exact ⟨⟨s, found, by simpa using blocks, permits⟩, fits.nontrivial, unready⟩

theorem aside_openSession (memory : Memory) (t : Turn) (mode : AccessMode) (nonBlocking : Bool) :
    Aside t (t.openSession memory mode nonBlocking).1 := by
  unfold openSession
  dsimp only
  split
  · exact .join t mode nonBlocking
  · split
    · exact .refl t
    · rename_i ring granted
      have allocated : Aside t ((t.mapChannel ({ · with ring })).record [.allocated]) :=
        (Aside.of_eq rfl rfl : Aside t (t.mapChannel _)).trans (.record _ rfl)
      exact allocated.trans (.join _ mode nonBlocking)

/-- An open can fail only for want of memory, and then leaves the turn as it was. -/
theorem openSession_error {mode : AccessMode} {nonBlocking : Bool} {e : ChannelError}
    (failed : t.openSession memory mode nonBlocking = (u, .error e)) :
    u = t ∧ e = .outOfMemory t.channel.ring.capacity := by
  unfold openSession Ring.allocate at failed
  dsimp only at failed
  split at failed
  · cases failed
  · split at failed
    · rename_i refused
      split at refused
      · cases refused
      · cases refused
        cases failed
        exact ⟨rfl, rfl⟩
    · cases failed

theorem aside_dropSession (t : Turn) (slot : Slot) : Aside t (t.dropSession slot).1 := by
  unfold dropSession letGo
  split
  · exact .refl t
  · dsimp only
    split
    · exact .refl t
    · exact .ended t slot _

theorem aside_poll (t : Turn) (waker : Option Waker) : Aside t (t.poll waker).1 := by
  cases waker <;> exact .of_eq rfl rfl

theorem aside_receive (t : Turn) (feed : Nat) : Aside t (t.receive feed).1 := by
  unfold receive
  split <;> exact .of_eq rfl rfl

theorem ofProgress_ne_interrupted {progress : Progress}
    (other : progress ≠ .ended (.error .interrupted)) :
    Outcome.ofProgress progress ≠ .failed .interrupted := by
  intro same
  cases progress with
  | ended result =>
    cases result with
    | ok moved => cases same
    | error e =>
      obtain rfl := Outcome.failed.inj same
      exact other rfl
  | asleep => cases same
  | refused => cases same

/-- What is neither a call nor an interrupt leaves the signals alone and is not interrupted. -/
theorem aside_apply (memory : Memory) (t : Turn) {op : Operation} (silent : op.call? = none)
    (calm : ∀ slot, op ≠ .interrupt slot) :
    Aside t (op.apply memory t).1 ∧ (op.apply memory t).2 ≠ .failed .interrupted := by
  cases op with
  | call c => contradiction
  | tryCall c => contradiction
  | interrupt slot => exact absurd rfl (calm slot)
  | openSession mode nonBlocking =>
    have opened := aside_openSession memory t mode nonBlocking
    simp only [Operation.apply]
    split <;> rename_i done <;> rw [done] at opened
    · exact ⟨opened, by simp⟩
    · obtain ⟨-, rfl⟩ := openSession_error done
      exact ⟨opened, by simp⟩
  | closeSession slot =>
    constructor
    · rw [Operation.apply, closeSession_eq_dropSession]
      exact aside_dropSession t slot
    · simp only [Operation.apply]
      split <;> simp
  | dropSession slot =>
    refine ⟨aside_dropSession t slot, ?_⟩
    simp only [Operation.apply]
    split <;> simp
  | setNonBlocking slot nonBlocking =>
    exact ⟨⟨fun other => t.channel.hasSignal_modify slot other fun _ => rfl, rfl⟩,
      by simp [Operation.apply]⟩
  | poll slot waker =>
    simp only [Operation.apply]
    split
    · exact ⟨aside_poll t waker, by simp⟩
    · exact ⟨.refl t, by simp⟩
  | subscribe => exact ⟨.of_eq rfl rfl, by simp [Operation.apply]⟩
  | unsubscribe feed => exact ⟨.of_eq rfl rfl, by simp [Operation.apply]⟩
  | receive feed => exact ⟨aside_receive t feed, by simp [Operation.apply]⟩

theorem signalling_apply (memory : Memory) (t : Turn) (op : Operation) :
    Signalling t op (op.apply memory t) := by
  cases called : op.call? with
  | none =>
    by_cases raises : ∃ slot, op = .interrupt slot
    · obtain ⟨slot, rfl⟩ := raises
      exact .raised slot rfl
    · have calm : ∀ slot, op ≠ .interrupt slot := fun slot same => raises ⟨slot, same⟩
      obtain ⟨aside, other⟩ := aside_apply memory t called calm
      exact .aside aside (fun _ => mem_waiting_applied (applied_apply memory t op) called) other
        calm
  | some c =>
    cases op with
    | call c =>
      change Signalling t _ ((t.arrive c _).1, .ofProgress (t.arrive c _).2)
      have heard := heard_arrive t c ((t.channel.openSession? c.slot).any (!·.nonBlocking))
      generalize t.arrive c _ = result at heard
      cases heard with
      | aside aside fewer other =>
        exact .aside aside fewer (ofProgress_ne_interrupted other) nofun
      | slept blocks fits unready silent =>
        exact .slept c rfl (mustSleep_of_fits fits blocks unready) silent
      | cutShort blocks fits unready pending =>
        exact .cutShort c rfl (mustSleep_of_fits fits blocks unready) pending
    | tryCall c =>
      change Signalling t _ ((t.arrive c _).1, .ofProgress (t.arrive c _).2)
      have heard := heard_arrive t c false
      generalize t.arrive c _ = result at heard
      cases heard with
      | aside aside fewer other =>
        exact .aside aside fewer (ofProgress_ne_interrupted other) nofun
      | slept blocks fits unready silent => contradiction
      | cutShort blocks fits unready pending => contradiction
    | _ => contradiction

/-! ## Woken calls -/

theorem mem_sleepers_wakeOne {d e : Direction} (asleep : w ∈ (t.wakeOne d).channel.sleepers e) :
    w ∈ t.channel.sleepers e := by
  rw [sleepers_wakeOne] at asleep
  split at asleep
  · rename_i same
    exact same ▸ List.mem_of_mem_tail asleep
  · exact asleep

/-- A woken call whose session has no signal leaves the signals alone. -/
theorem aside_resume (silent : t.channel.hasSignal c.slot = false) : Aside t (t.resume c) := by
  rw [resume, silent, if_neg Bool.false_ne_true]
  split
  · exact .transfer t c
  · exact .sleep t c

/-- A woken call whose session has a signal takes it and comes back. -/
theorem resume_takes (pending : t.channel.hasSignal c.slot = true) :
    (∀ slot, (t.resume c).channel.hasSignal slot = (t.channel.hasSignal slot && slot != c.slot)) ∧
      interruptedCalls (t.resume c).account = interruptedCalls t.account ++ [c] := by
  have taken : Aside (t.cutShort c) (t.resume c) := by
    rw [resume_of_signal pending]
    split
    · exact .wakeOne _ _
    · exact .refl _
  refine ⟨fun slot => ?_, ?_⟩
  · rw [taken.signals, hasSignal_cutShort]
  · rw [taken.interrupted, interruptedCalls_cutShort]

/-- Whoever waits after a woken call has run has waited before, or is that call and has found no
signal. -/
theorem mem_waiting_resume (waits : w ∈ (t.resume c).waiting) :
    w ∈ t.waiting ∨ (w = c ∧ t.channel.hasSignal c.slot = false) := by
  cases signal : t.channel.hasSignal c.slot with
  | true =>
    have short : (t.cutShort c).waiting = t.waiting := (alike_setSignal t c.slot false).waiting
    rw [resume_of_signal signal] at waits
    split at waits
    · exact .inl (short ▸ (waiting_wakeOne (t.cutShort c) _).mem_iff.mp waits)
    · exact .inl (short ▸ waits)
  | false =>
    rw [resume, signal, if_neg Bool.false_ne_true] at waits
    split at waits
    · exact .inl (mem_waiting_transfer waits)
    · rcases List.mem_cons.mp ((waiting_sleep t c).mem_iff.mp waits) with rfl | before
      · exact .inr ⟨rfl, rfl⟩
      · exact .inl before

/-- Whoever is asleep after a woken call has run was asleep before, or is that call and has found no
signal. -/
theorem mem_sleepers_resume {d : Direction} (asleep : w ∈ (t.resume c).channel.sleepers d) :
    w ∈ t.channel.sleepers d ∨ (w = c ∧ t.channel.hasSignal c.slot = false) := by
  cases signal : t.channel.hasSignal c.slot with
  | true =>
    rw [resume_of_signal signal] at asleep
    split at asleep
    · exact .inl (sleepers_cutShort t c d ▸ mem_sleepers_wakeOne asleep)
    · exact .inl (sleepers_cutShort t c d ▸ asleep)
  | false =>
    rw [resume, signal, if_neg Bool.false_ne_true] at asleep
    split at asleep
    · rw [(alike_transfer t c).sleepers] at asleep
      exact .inl (sleepers_served t c d ▸ mem_sleepers_wakeOne asleep)
    · rw [sleepers_sleep] at asleep
      split at asleep
      · rename_i same
        rcases List.mem_append.mp asleep with before | last
        · exact .inl (same ▸ before)
        · exact .inr ⟨List.mem_singleton.mp last, rfl⟩
      · exact .inl asleep

/-- A woken call that runs leaves the others woken. -/
theorem mem_woken_resume (woke : w ∈ t.woken) : w ∈ (t.resume c).woken := by
  unfold resume finish
  dsimp only
  split
  · split
    · exact List.mem_append_left _ woke
    · exact woke
  · split
    · rw [(alike_transfer t c).woken]
      exact List.mem_append_left _ woke
    · exact woke

/-- A call that is taken out of line was woken, and the calls left were waiting too. -/
theorem mem_waiting_take {earlier later : List Call} (woken : t.woken = earlier ++ c :: later) :
    c ∈ t.waiting ∧ ∀ w ∈ waiting { t with woken := earlier ++ later }, w ∈ t.waiting := by
  refine ⟨mem_waiting.mpr (.inr (by rw [woken]; simp)), fun w waits => ?_⟩
  rcases mem_waiting.mp waits with asleep | woke
  · exact mem_waiting.mpr (.inl asleep)
  · refine mem_waiting.mpr (.inr ?_)
    rw [woken]
    exact List.perm_middle.mem_iff.mpr (List.mem_cons_of_mem c woke)

end Turn

end BytePipe
