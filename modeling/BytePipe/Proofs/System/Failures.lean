import BytePipe.Proofs.Channel.Failures
import BytePipe.Proofs.System.Sessions

/-!
A failed call changes nothing. In every state that can be reached, an operation that fails or
transfers no byte leaves the system as it was and wakes nobody; only a call that comes back
interrupted has taken its session's signal, and has passed a wake-up on that it could not use
(`System.failed_call_changes_nothing`).
-/
namespace BytePipe.System

variable {memory : Memory} {most : Nat} {s : System} {history : History}

/-- How an operation leaves a system that fails, transfers no byte or makes its call sleep. What it
tells is about its own call. -/
inductive Vain (s : System) (via : ChannelId) (op : Operation) :
    System × Outcome × List Notice → Prop where
  | unchanged (outcome : Outcome) (account : List Notice) (other : outcome ≠ .failed .interrupted)
    (told : account = [] ∨ ∃ c result, op.call? = some c ∧ account = [.ended c result]) :
    Vain s via op (s, outcome, account)
  | interrupted (ch : Channel) (c : Call) (found : s.channels[via]? = some ch) (made : op = .call c)
    (pending : ch.hasSignal c.slot = true) :
    Vain s via op ({ s with channels := s.channels.set via (ch.setSignal c.slot false) },
      .failed .interrupted, [.ended c (.error .interrupted)])
  | slept (ch : Channel) (c : Call) (found : s.channels[via]? = some ch) (made : op = .call c)
    (silent : ch.hasSignal c.slot = false) :
    Vain s via op ({ s with channels := s.channels.set via ((Turn.start ch).sleep c).channel },
      .asleep, [.slept c])

theorem vain_perform {via : ChannelId} {op : Operation}
    (inside : ∀ ch, s.channels[via]? = some ch → ch.ring.Inside)
    (vain : (s.perform via op).2.1.isVain = true) : Vain s via op (s.perform via op) := by
  cases found : s.channels[via]? with
  | none =>
    rw [perform, found] at vain
    contradiction
  | some ch =>
    rw [perform_eq found] at vain ⊢
    obtain ⟨u, still, same⟩ := Turn.perform_vain (inside ch found) vain
    rw [same]
    generalize (ch.perform s.memory op).2.1 = outcome at still
    cases still with
    | unopened e other =>
      rw [Turn.start, set_same found]
      exact .unchanged _ _ (fun same => other (Outcome.failed.inj same)) (.inl rfl)
    | told c made result other =>
      simp only [Turn.channel_record, Turn.start, set_same found]
      refine .unchanged _ _ (fun same => other ?_) (.inr ⟨c, result, made, rfl⟩)
      cases result with
      | ok moved => cases same
      | error e => rw [Outcome.failed.inj same]
    | cutShort c made must pending => exact .interrupted ch c found made pending
    | slept c made must silent => exact .slept ch c found made silent

theorem vain_performVia {via : ChannelId} {id : SessionId} {op : Operation}
    (inside : ∀ ch, s.channels[via]? = some ch → ch.ring.Inside)
    (vain : (s.performVia via id op).2.1.isVain = true) :
    Vain s via op (s.performVia via id op) := by
  by_cases own : via = id.channel
  · rw [performVia, if_pos own] at vain ⊢
    exact vain_perform inside vain
  · rw [performVia_foreign s own]
    exact .unchanged _ _ (fun same => by cases same) (.inl rfl)

/-- A read or write transfers no byte exactly if it was asked for none, through its session's own
channel and within the session's mode. -/
theorem transfers_none_iff {via : ChannelId} {id : SessionId} {op : Operation} {c : Call}
    (inside : ∀ ch, s.channels[via]? = some ch → ch.ring.Inside)
    (called : op.call? = some c) (own : c.slot = id.slot) :
    (∃ moved, (s.performVia via id op).2.1 = .transferred moved ∧ moved.size = 0) ↔
      via = id.channel ∧ c.request.isTrivial = true ∧ ∃ ch session, s.channels[via]? = some ch ∧
        ch.openSession? id.slot = some session ∧ session.mode.permits c.direction = true := by
  by_cases foreign : via = id.channel
  · rw [performVia, if_pos foreign, ← own]
    cases found : s.channels[via]? with
    | none =>
      rw [perform, found]
      constructor
      · rintro ⟨moved, transferred, -⟩
        cases transferred
      · rintro ⟨-, -, ch, session, is, -⟩
        cases is
    | some ch =>
      rw [perform_eq found]
      refine (Turn.transfers_none_iff (inside ch found) called).trans ⟨?_, ?_⟩
      · rintro ⟨trivial, session, held⟩
        exact ⟨foreign, trivial, ch, session, rfl, held⟩
      · rintro ⟨-, trivial, other, session, is, held⟩
        cases is
        exact ⟨trivial, session, held⟩
  · rw [performVia_foreign s foreign]
    constructor
    · rintro ⟨moved, transferred, -⟩
      cases transferred
    · rintro ⟨same, -⟩
      exact absurd same foreign

/-- An open that fails on the device it reaches has left the system as it was. -/
theorem unchanged_of_openDevice {devices : DeviceSet} {minor : Nat} {mode : AccessMode}
    {nonBlocking : Bool} {e : ChannelError} {c : ChannelId}
    (failed : devices.openDevice s minor mode nonBlocking = .error e)
    (reaches : devices.channel minor = .ok c) :
    (s.perform c (.openSession mode nonBlocking)).1 = s ∧
      (s.perform c (.openSession mode nonBlocking)).2.2 = [] := by
  rw [DeviceSet.openDevice, reaches] at failed
  simp only [bind, Except.bind] at failed
  cases found : s.channels[c]? with
  | none =>
    rw [perform, found]
    exact ⟨rfl, rfl⟩
  | some ch =>
    rw [perform_eq found] at failed ⊢
    cases allocated : ch.ring.isAllocated with
    | true =>
      rw [Channel.perform_openSession_of_allocated s.memory mode nonBlocking allocated] at failed
      cases failed
    | false =>
      cases granted : ch.ring.allocate s.memory with
      | ok ring =>
        rw [Channel.perform_openSession_of_granted mode nonBlocking allocated granted] at failed
        cases failed
      | error e =>
        rw [Channel.perform_openSession_of_refused mode nonBlocking allocated granted]
        exact ⟨set_same found, rfl⟩

/-- The channels of a system that can be reached keep their positions inside. -/
theorem Living.inside (living : Living memory most s history) {c : ChannelId} {ch : Channel}
    (found : s.channels[c]? = some ch) : ch.ring.Inside := by
  obtain ⟨peak, t, life, -, -, rfl, -⟩ := living.lived c ch found
  exact life.inside

/-- In the middle of an operation each woken call is about to move bytes, or does no more than to
take its session's signal, to pass a wake-up on, or to go back to sleep. -/
theorem Living.moves_or_fruitless (living : Living memory most s history) {id : ChannelId}
    {ch : Channel} {op : Operation} {t : Turn} {earlier later : List Call} {c : Call}
    (found : s.channels[id]? = some ch) (fresh : op.Fresh ch)
    (runs : (op.apply s.memory (.start ch)).1.Runs t) (woken : t.woken = earlier ++ c :: later) :
    (∃ moved told, moved.size ≠ 0 ∧
      (Turn.resume { t with woken := earlier ++ later } c).account
        = t.account ++ .ended c (.ok moved) :: told) ∨
    Turn.Fruitless { t with woken := earlier ++ later } c
      (Turn.resume { t with woken := earlier ++ later } c) := by
  obtain ⟨peak, before, life, -, settled, rfl, -⟩ := living.lived id ch found
  have applied := life.operated op settled fresh
  rw [Turn.apply_of_settled memory op settled] at applied
  rw [living.grants] at runs
  have here := applied.runs (runs.following before.account)
  obtain ⟨-, fits, -⟩ := here.orderly.take (t := t.following before.account) woken
  exact Turn.moves_or_fruitless (t := { t with woken := earlier ++ later }) here.inside fits

/-- A failed call changes nothing. An operation that fails or transfers no byte leaves all channels
as they were and wakes nobody, but for the signal that an interrupted call takes; one whose call has
to sleep only queues it. While woken calls run, in any order, each of them moves bytes or leaves the
ring, the counts and the subscriptions alone and registers nobody: it sleeps again, or takes its
session's signal, and wakes the first of its own queue only if it is interrupted while its direction
is ready. A transfer of no byte is one that was asked for none, with the right channel and mode. An
open that fails on a device has done nothing there. -/
theorem failed_call_changes_nothing (reached : Reached memory most s history) :
    (∀ via id op, (s.performVia via id op).2.1.isVain = true →
      Vain s via op (s.performVia via id op)) ∧
    (∀ (id : ChannelId) (ch : Channel) (op : Operation) (t : Turn) (earlier : List Call) (c : Call)
      (later : List Call), s.channels[id]? = some ch → op.Fresh ch →
      (op.apply s.memory (.start ch)).1.Runs t → t.woken = earlier ++ c :: later →
      (∃ moved told, moved.size ≠ 0 ∧
        (Turn.resume { t with woken := earlier ++ later } c).account
          = t.account ++ .ended c (.ok moved) :: told) ∨
      (t.channel.Spared (Turn.resume { t with woken := earlier ++ later } c).channel ∧
        Turn.Fruitless { t with woken := earlier ++ later } c
          (Turn.resume { t with woken := earlier ++ later } c))) ∧
    (∀ (via : ChannelId) (id : SessionId) (op : Operation) (c : Call), op.call? = some c →
      c.slot = id.slot →
      ((∃ moved, (s.performVia via id op).2.1 = .transferred moved ∧ moved.size = 0) ↔
        via = id.channel ∧ c.request.isTrivial = true ∧ ∃ ch session, s.channels[via]? = some ch ∧
          ch.openSession? id.slot = some session ∧ session.mode.permits c.direction = true)) ∧
    (∀ (devices : DeviceSet) (minor : Nat) (mode : AccessMode) (nonBlocking : Bool)
      (e : ChannelError) (c : ChannelId), devices.openDevice s minor mode nonBlocking = .error e →
      devices.channel minor = .ok c →
      (s.perform c (.openSession mode nonBlocking)).1 = s ∧
        (s.perform c (.openSession mode nonBlocking)).2.2 = []) ∧
    (∀ (devices : DeviceSet) (minor : Nat) (flags : OpenFlags) (mode : AccessMode)
      (e : ChannelError) (c : ChannelId), devices.openWithFlags s minor flags = .error e →
      DeviceSet.modeOfFlags flags = .ok mode → devices.channel minor = .ok c →
      (s.perform c (.openSession mode flags.isNonBlocking)).1 = s ∧
        (s.perform c (.openSession mode flags.isNonBlocking)).2.2 = []) := by
  have living := reached.living
  refine ⟨fun via id op vain => ?_, fun id ch op t earlier c later found fresh runs woken => ?_,
    fun via id op c called own => ?_, fun devices minor mode nonBlocking e c failed reaches => ?_,
    fun devices minor flags mode e c failed asked reaches => ?_⟩
  · exact vain_performVia (fun ch found => living.inside found) vain
  · rcases living.moves_or_fruitless found fresh runs woken with moves | fruitless
    · exact .inl moves
    · exact .inr ⟨fruitless.spared, fruitless⟩
  · exact transfers_none_iff (fun ch found => living.inside found) called own
  · exact unchanged_of_openDevice failed reaches
  · rw [DeviceSet.openWithFlags, asked] at failed
    exact unchanged_of_openDevice failed reaches

/-- While a reader sleeps, its session is used for a write, which it does not permit. -/
theorem failed_call_changes_nothing_write_on_reader :
    ∃ s history, Reached ⟨16, by decide⟩ 1 s history ∧
      (∃ ch, s.channels[0]? = some ch ∧ (ch.sleepers .reading).length = 1) ∧
      (s.performVia 0 ⟨0, 0⟩ (.tryCall ⟨1, 0, .write [7]⟩)).2.1 = .failed .badAccess ∧
      Vain s 0 (.tryCall ⟨1, 0, .write [7]⟩)
        (s.performVia 0 ⟨0, 0⟩ (.tryCall ⟨1, 0, .write [7]⟩)) := by
  have created := (@Reached.empty ⟨16, by decide⟩ 1).created
    (show Channel.create? "pipe" 4 = .ok _ from rfl)
  have opened := created.performed 0 (.openSession .readOnly false)
    (fun ch found => .of_idle _ fun d => by cases found; cases d <;> rfl) (by decide)
  have sleeping := opened.performed 0 (.call ⟨0, 0, .read 1⟩)
    (fun ch found => .of_idle _ fun d => by cases found; cases d <;> rfl) (by decide)
  refine ⟨_, _, sleeping, ⟨_, rfl, rfl⟩, rfl, ?_⟩
  exact (failed_call_changes_nothing sleeping).1 0 ⟨0, 0⟩ _ rfl

end BytePipe.System
