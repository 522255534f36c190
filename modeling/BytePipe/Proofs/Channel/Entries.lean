import BytePipe.Proofs.Channel.Failures
import BytePipe.Proofs.Channel.Modes

/-!
One transfer, however it is asked for. A call that may sleep and one that never does part only where
the latter would block (`Turn.arrive_of_not_blocked`); there the former is turned away as well if its
session is non-blocking, takes a signal, or falls asleep (`Channel.putOff`). A call that has slept
and completes does what a call that never sleeps would do in its place (`Turn.Resumed`).
-/
namespace BytePipe

namespace Turn

variable {t u : Turn} {c : Call}

/-- Whether a call may sleep makes a difference only if it would block. -/
theorem arrive_of_not_blocked (mayBlock : Bool)
    (other : (t.arrive c false).2 ≠ .ended (.error .wouldBlock)) :
    t.arrive c mayBlock = t.arrive c false := by
  unfold arrive at other ⊢
  split at other
  · rfl
  · split at other <;> rename_i permitted
    · rw [if_pos permitted, if_pos permitted]
    · split at other <;> rename_i trivial
      · rw [if_neg permitted, if_pos trivial, if_neg permitted, if_pos trivial]
      · split at other <;> rename_i ready
        · simp only [if_neg permitted, if_neg trivial, if_pos ready]
        · exact absurd rfl other

/-- A call would block if its session is open and permits it, there is something to move, and its
direction is not ready. -/
theorem blocked_of_arrive (blocked : (t.arrive c false).2 = .ended (.error .wouldBlock)) :
    t.channel.Fits c ∧ t.channel.ready c.direction = false := by
  have verdict := verdict_arrive t c false
  generalize t.arrive c false = result at verdict blocked
  cases verdict with
  | refused closed => cases blocked
  | denied s found forbidden => cases blocked
  | answered s found permitted trivial => cases blocked
  | moved fits ready =>
    rw [progress_transfer_eq] at blocked
    cases blocked
  | turnedAway fits unready impatient => exact ⟨fits, unready⟩
  | cutShort fits unready blocks pending => cases blocked
  | slept fits unready blocks silent => cases blocked

theorem arrive_of_fits {s : Session} (fits : t.channel.Fits c)
    (found : t.channel.openSession? c.slot = some s) (mayBlock : Bool) :
    t.arrive c mayBlock = if t.channel.ready c.direction then t.transfer c
      else if !mayBlock then t.finish c (.error .wouldBlock)
      else if s.signal then (t.cutShort c, .ended (.error .interrupted))
      else (t.sleep c, .asleep) := by
  obtain ⟨mode, listed, permits⟩ := fits.session
  obtain ⟨held, isOpen, rfl⟩ := Channel.openSession?_of_roster listed
  obtain rfl := Option.some.inj (found.symm.trans isOpen)
  rw [arrive, found]
  simp only [permits, fits.nontrivial, Bool.not_true, if_neg Bool.false_ne_true]
  rfl

/-- What a woken call comes to: it is interrupted, or goes back to sleep where a call that never
sleeps would block, or completes just as such a call would. -/
inductive Resumed (t : Turn) (c : Call) : Turn → Prop where
  | interrupted {u : Turn} (pending : t.channel.hasSignal c.slot = true) (wakers : List Waker)
    (account : u.account = t.account ++ .ended c (.error .interrupted) :: wakers.map .woke) :
    Resumed t c u
  | slept (blocked : t.tryCall c = (t.record [.ended c (.error .wouldBlock)],
      .ended (.error .wouldBlock))) : Resumed t c (t.sleep c)
  | moved {u : Turn} (moved : Transferred) (same : t.tryCall c = (u, .ended (.ok moved))) :
    Resumed t c u

theorem resumed_resume (fits : t.channel.Fits c) : Resumed t c (t.resume c) := by
  obtain ⟨mode, listed, permits⟩ := fits.session
  obtain ⟨s, found, rfl⟩ := Channel.openSession?_of_roster listed
  have arrives := arrive_of_fits fits found false
  cases signal : t.channel.hasSignal c.slot with
  | true =>
    rw [resume_of_signal signal]
    split
    · obtain ⟨wakers, account⟩ := account_passedOn t c
      exact .interrupted signal wakers account
    · exact .interrupted signal [] (account_cutShort t c)
  | false =>
    rw [resume, signal, if_neg Bool.false_ne_true]
    cases ready : t.channel.ready c.direction with
    | true =>
      rw [ready, if_pos rfl] at arrives
      exact .moved _ (arrives.trans (Prod.ext rfl (progress_transfer_eq t c)))
    | false =>
      rw [ready, if_neg Bool.false_ne_true] at arrives
      exact .slept arrives

end Turn

namespace Channel

variable {memory : Memory} {ch : Channel} {c : Call} {s : Session}

/-- What becomes of a call that finds nothing to move yet: turned away if its session is
non-blocking, interrupted if there is a signal, and put to sleep otherwise. -/
def putOff (ch : Channel) (s : Session) (c : Call) : Channel × Outcome × List Notice :=
  if s.nonBlocking then (ch, .failed .wouldBlock, [.ended c (.error .wouldBlock)])
  else if s.signal then
    (ch.setSignal c.slot false, .failed .interrupted, [.ended c (.error .interrupted)])
  else (ch.setQueue ((ch.queue c.direction).enqueue c) c.direction, .asleep, [.slept c])

theorem apply_tryCall (memory : Memory) (t : Turn) (c : Call) :
    (Operation.tryCall c).apply memory t
      = ((t.arrive c false).1, .ofProgress (t.arrive c false).2) := rfl

/-- A call that never sleeps comes back. -/
theorem perform_tryCall_ends (memory : Memory) (found : ch.openSession? c.slot = some s) :
    ∃ result, (ch.perform memory (.tryCall c)).2.1 = .ofProgress (.ended result) ∧
      ((Turn.start ch).arrive c false).2 = .ended result := by
  obtain ⟨result, ended⟩ : ∃ result, ((Turn.start ch).arrive c false).2 = .ended result := by
    have verdict := Turn.verdict_arrive (.start ch) c false
    generalize (Turn.start ch).arrive c false = outcome at verdict
    cases verdict with
    | refused closed =>
      rw [Turn.start, found] at closed
      cases closed
    | denied s found forbidden => exact ⟨_, rfl⟩
    | answered s found permitted trivial => exact ⟨_, rfl⟩
    | moved fits ready => exact ⟨_, Turn.progress_transfer_eq _ c⟩
    | turnedAway fits unready impatient => exact ⟨_, rfl⟩
    | cutShort fits unready blocks pending => exact ⟨_, rfl⟩
    | slept fits unready blocks silent => cases blocks
  exact ⟨result, congrArg Outcome.ofProgress ended, ended⟩

theorem perform_call_of_not_blocked
    (other : ((Turn.start ch).arrive c false).2 ≠ .ended (.error .wouldBlock)) :
    ch.perform memory (.call c) = ch.perform memory (.tryCall c) := by
  have same := Turn.arrive_of_not_blocked
    ((ch.openSession? c.slot).any (!·.nonBlocking)) other
  have applied : (Operation.call c).apply memory (.start ch)
      = (Operation.tryCall c).apply memory (.start ch) :=
    congrArg (fun r => (r.1, Outcome.ofProgress r.2)) same
  rw [perform, perform, applied]

/-- Where a call that never sleeps would block, it leaves the channel as it is, and any other call
is put off. -/
theorem perform_of_blocked (memory : Memory) (found : ch.openSession? c.slot = some s)
    (blocked : ((Turn.start ch).arrive c false).2 = .ended (.error .wouldBlock)) :
    ch.perform memory (.tryCall c)
        = (ch, .failed .wouldBlock, [.ended c (.error .wouldBlock)]) ∧
      ch.perform memory (.call c) = ch.putOff s c := by
  obtain ⟨fits, unready⟩ := Turn.blocked_of_arrive blocked
  have arrives (mayBlock : Bool) := Turn.arrive_of_fits (t := .start ch) fits found mayBlock
  simp only [unready, if_neg Bool.false_ne_true] at arrives
  have tried : (Operation.tryCall c).apply memory (.start ch)
      = ((Turn.start ch).record [.ended c (.error .wouldBlock)], .failed .wouldBlock) := by
    rw [apply_tryCall, arrives false]
    rfl
  have called : (Operation.call c).apply memory (.start ch)
      = (fun r => (r.1, Outcome.ofProgress r.2)) ((Turn.start ch).arrive c !s.nonBlocking) := by
    rw [Operation.apply, Turn.call, Turn.start, found]
    rfl
  refine ⟨?_, ?_⟩
  · rw [perform_of_settled (by rw [tried]; rfl), tried]
    rfl
  · obtain ⟨mode, nonBlocking, signal, isOpen⟩ := s
    rw [arrives] at called
    cases nonBlocking <;> cases signal <;>
      · rw [perform_of_settled (by rw [called]; rfl), called]
        rfl

end Channel

end BytePipe
