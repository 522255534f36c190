import BytePipe.Proofs.Channel.Entries
import BytePipe.Proofs.Channel.Relief
import BytePipe.Proofs.System.Reached

/-!
What a whole call that never sleeps comes to. It is answered first, and all that is told after it
concerns calls that had been asleep, and wakers (`Channel.Replied`).
-/
namespace BytePipe

namespace Turn

variable {t u : Turn} {c : Call}

/-- A call that runs tells of nobody else. -/
theorem told_ran (ran : Ran t c u) :
    ∃ told, u.account = t.account ++ told ∧ ∀ n ∈ told, ∀ w, n.call? = some w → w = c := by
  obtain ⟨first, own, wakers, account⟩ := ran.told
  refine ⟨_, account, fun n member w called => ?_⟩
  rcases List.mem_cons.mp member with rfl | woke
  · exact (Option.some.inj (own.symm.trans called)).symm
  · rw [call?_woke wakers n woke] at called
    contradiction

/-- While woken calls run, nothing is told of calls but of those that were waiting. -/
theorem Orderly.told_settle (orderly : t.Orderly) :
    ∃ told, t.settle.account = t.account ++ told ∧
      ∀ n ∈ told, ∀ w, n.call? = some w → w ∈ t.waiting := by
  have settles := settle_induction (t := t)
    (P := fun u => u.Orderly ∧ (∀ w ∈ u.waiting, w ∈ t.waiting) ∧
      ∃ told, u.account = t.account ++ told ∧ ∀ n ∈ told, ∀ w, n.call? = some w → w ∈ t.waiting)
    ⟨orderly, fun _ waits => waits, [], (List.append_nil _).symm, nofun⟩ ?_
  · exact settles.2.2
  · rintro u ⟨orderly, waits, told, account, known⟩ some
    obtain ⟨c, rest, woken⟩ := List.exists_cons_of_ne_nil some
    have first : u.woken = [] ++ c :: rest := woken
    obtain ⟨left, fits, fresh⟩ := orderly.take first
    obtain ⟨chosen, inside⟩ := mem_waiting_take first
    have next : u.runNext = resume { u with woken := rest } c := by
      rw [runNext, woken]
    have ran := ran_resume (t := { u with woken := rest }) fits
    obtain ⟨more, grown, own⟩ := told_ran ran
    rw [next]
    refine ⟨left.ran fresh ran, fun w member => ?_, told ++ more, ?_, fun n member w called => ?_⟩
    · rcases mem_waiting_ran ran member with rfl | before
      · exact waits w chosen
      · exact waits w (inside w before)
    · rw [grown, ← List.append_assoc, ← account]
    · rcases List.mem_append.mp member with before | now
      · exact known n before w called
      · exact own n now w called ▸ waits c chosen

end Turn

namespace Channel

variable {memory : Memory} {most : Nat} {ch : Channel} {account : List Notice} {s : Session}
  {c : Call}

/-- What a call of an open session comes to that never sleeps. -/
inductive Replied (ch : Channel) (s : Session) (c : Call) :
    Channel × Outcome × List Notice → Prop where
  | denied (forbidden : s.mode.permits c.direction = false) :
    Replied ch s c (ch, .failed .badAccess, [.ended c (.error .badAccess)])
  | answered (permitted : s.mode.permits c.direction = true) (trivial : c.request.isTrivial = true) :
    Replied ch s c
      (ch, .transferred c.request.trivialAnswer, [.ended c (.ok c.request.trivialAnswer)])
  | blocked (permitted : s.mode.permits c.direction = true)
    (unready : ch.ready c.direction = false) :
    Replied ch s c (ch, .failed .wouldBlock, [.ended c (.error .wouldBlock)])
  | moved (permitted : s.mode.permits c.direction = true) (after : Channel) (others : List Notice)
    (some : (ch.ring.serve c.request).1.size ≠ 0)
    (apart : ∀ n ∈ others, ∀ w, n.call? = .some w → ∃ d, w ∈ ch.sleepers d) :
    Replied ch s c (after, .transferred (ch.ring.serve c.request).1,
      .ended c (.ok (ch.ring.serve c.request).1) :: others)

theorem Lived.replied (lived : ch.Lived memory most account)
    (found : ch.openSession? c.slot = some s) :
    Replied ch s c (ch.perform memory (.tryCall c)) := by
  obtain ⟨peak, t, life, -, settled, same, -⟩ := lived
  have orderly : (Turn.start ch).Orderly := same ▸ life.orderly.start settled
  have inside : ch.ring.Inside := same ▸ life.inside
  have permitted (fits : ch.Fits c) : s.mode.permits c.direction = true := by
    obtain ⟨mode, listed, permits⟩ := fits.session
    rw [roster_of_openSession? found] at listed
    cases listed
    exact permits
  have verdict := Turn.verdict_arrive (.start ch) c false
  have applied := apply_tryCall memory (.start ch) c
  generalize (Turn.start ch).arrive c false = result at verdict applied
  have performed : ch.perform memory (.tryCall c)
      = (result.1.settle.channel, .ofProgress result.2, result.1.settle.account) := by
    simp only [Channel.perform, applied]
  rw [performed]
  cases verdict with
  | refused closed =>
    rw [Turn.start, found] at closed
    cases closed
  | denied held isOpen forbidden =>
    obtain rfl := Option.some.inj (found.symm.trans isOpen)
    rw [Turn.settle_of_settled rfl]
    exact .denied forbidden
  | answered held isOpen permitted trivial =>
    obtain rfl := Option.some.inj (found.symm.trans isOpen)
    rw [Turn.settle_of_settled rfl]
    exact .answered permitted trivial
  | moved fits ready =>
    obtain ⟨wakers, woke⟩ := Turn.account_transfer (.start ch) c
    obtain ⟨told, grown, known⟩ := (orderly.transfer c).told_settle
    have none : (Turn.start ch).account = [] := rfl
    rw [woke, none, List.nil_append, List.cons_append] at grown
    rw [Turn.progress_transfer_eq, grown]
    refine .moved (permitted fits) _ _ (size_serve inside fits.nontrivial ready)
      fun n member w called => ?_
    rcases List.mem_append.mp member with before | later
    · rw [call?_woke wakers n before] at called
      cases called
    · rcases Turn.mem_waiting.mp (Turn.mem_waiting_transfer (known n later w called)) with
        asleep | woken
      · exact asleep
      · exact absurd woken List.not_mem_nil
  | turnedAway fits unready impatient =>
    rw [Turn.settle_of_settled rfl]
    exact .blocked (permitted fits) unready
  | cutShort fits unready blocks pending => cases blocks
  | slept fits unready blocks silent => cases blocks

end Channel

end BytePipe
