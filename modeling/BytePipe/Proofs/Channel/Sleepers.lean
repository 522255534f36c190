import BytePipe.Proofs.Channel.Sessions

/-!
What a whole operation can add to a channel. Only a call that may block can be a new sleeper, and
only an open brings a further session.
-/
namespace BytePipe

namespace Turn

variable {memory : Memory} {op : Operation} {t u : Turn} {c w : Call}

/-- An operation that makes a call lets it arrive; only a call in blocking mode may sleep. -/
theorem apply_of_call? (memory : Memory) (t : Turn) (called : op.call? = some c) :
    ∃ mayBlock, op.apply memory t
        = ((t.arrive c mayBlock).1, .ofProgress (t.arrive c mayBlock).2) ∧
      (mayBlock = true → op = .call c ∧
        (t.channel.openSession? c.slot).any (!·.nonBlocking) = true) := by
  cases op with
  | call made =>
    cases called
    exact ⟨_, rfl, fun blocks => ⟨rfl, blocks⟩⟩
  | tryCall made =>
    cases called
    exact ⟨false, rfl, fun never => by contradiction⟩
  | _ => contradiction

theorem mem_waiting_transfer (waits : w ∈ (t.transfer c).1.waiting) : w ∈ t.waiting := by
  rw [(alike_transfer t c).waiting, moving] at waits
  exact (waiting_wakeOne (t.served c) _).mem_iff.mp waits

/-- A call that runs may go back to sleep; nobody else starts to wait. -/
theorem mem_waiting_ran (ran : Ran t c u) (waits : w ∈ u.waiting) : w = c ∨ w ∈ t.waiting := by
  have short : (t.cutShort c).waiting = t.waiting := (alike_setSignal t c.slot false).waiting
  cases ran with
  | interrupted unready => exact .inr (short ▸ waits)
  | passedOn ready => exact .inr (short ▸ (waiting_wakeOne (t.cutShort c) _).mem_iff.mp waits)
  | moved fits ready => exact .inr (mem_waiting_transfer waits)
  | slept fits unready => exact List.mem_cons.mp ((waiting_sleep t c).mem_iff.mp waits)

theorem mem_waiting_arrive {mayBlock : Bool} (waits : w ∈ (t.arrive c mayBlock).1.waiting) :
    w ∈ t.waiting ∨ (w = c ∧ mayBlock = true) := by
  have verdict := verdict_arrive t c mayBlock
  generalize t.arrive c mayBlock = result at verdict waits
  cases verdict with
  | refused closed => exact .inl waits
  | denied s found forbidden => exact .inl waits
  | answered s found permitted trivial => exact .inl waits
  | moved fits ready => exact .inl (mem_waiting_transfer waits)
  | turnedAway fits unready impatient => exact .inl waits
  | cutShort fits unready blocks pending =>
    exact .inl ((alike_setSignal t c.slot false).waiting ▸ waits)
  | slept fits unready blocks silent =>
    rcases List.mem_cons.mp ((waiting_sleep t c).mem_iff.mp waits) with rfl | before
    · exact .inr ⟨rfl, blocks⟩
    · exact .inl before

theorem mem_waiting_applied (applied : Applied memory t op u) (silent : op.call? = none)
    (waits : w ∈ u.waiting) : w ∈ t.waiting := by
  cases applied with
  | alike alike => exact alike.waiting ▸ waits
  | joined mode nonBlocking opens allocated => exact waits
  | allocated mode nonBlocking ring opens unallocated granted => exact waits
  | ended slot s found idle =>
    rw [Orderly.waiting_releaseCounts] at waits
    exact waits
  | arrived c called arrived =>
    rw [silent] at called
    contradiction
  | signalled slot =>
    have woken := (waiting_wakeAll _ .writing).mem_iff.mp waits
    have signalled := (waiting_wakeAll _ .reading).mem_iff.mp woken
    exact (alike_setSignal t slot true).waiting ▸ signalled

/-- Who waits after an operation has waited before, or has come with it and may block. -/
theorem mem_waiting_apply (waits : w ∈ (op.apply memory t).1.waiting) :
    w ∈ t.waiting ∨ op = .call w := by
  have applied := applied_apply memory t op
  cases op with
  | call c =>
    rcases mem_waiting_arrive waits with before | ⟨rfl, -⟩
    · exact .inl before
    · exact .inr rfl
  | tryCall c =>
    rcases mem_waiting_arrive waits with before | ⟨-, never⟩
    · exact .inl before
    · contradiction
  | _ => exact .inl (mem_waiting_applied applied rfl waits)

theorem openSessions_applied_le (applied : Applied memory t op u)
    (shut : ∀ mode nonBlocking, op ≠ .openSession mode nonBlocking) :
    u.channel.openSessions ≤ t.channel.openSessions := by
  have kept (same : u.channel.roster = t.channel.roster) :
      u.channel.openSessions ≤ t.channel.openSessions := by
    refine Nat.le_of_eq ?_
    rw [Channel.openSessions_eq, same, ← Channel.openSessions_eq]
  cases applied with
  | alike alike => exact kept alike.roster
  | joined mode nonBlocking opens allocated => exact absurd opens (shut mode nonBlocking)
  | allocated mode nonBlocking ring opens unallocated granted =>
    exact absurd opens (shut mode nonBlocking)
  | ended slot s found idle =>
    have fewer := openSessions_markClosed found
    rw [Channel.openSessions_eq, roster_releaseCounts, ← Channel.openSessions_eq]
    omega
  | arrived c called arrived =>
    cases arrived with
    | refused => exact kept rfl
    | failed e => exact kept rfl
    | answered trivial => exact kept rfl
    | ran ran => exact kept (roster_ran ran)
  | signalled slot =>
    refine kept ?_
    rw [interrupt, roster_wakeAll, roster_wakeAll]
    exact (alike_setSignal t slot true).roster

end Turn

namespace Life

variable {memory : Memory} {peak : Nat} {op : Operation} {t : Turn} {w : Call}

/-- Nobody starts to wait while woken calls run. -/
theorem mem_waiting_settle (life : Life memory peak t) (waits : w ∈ t.settle.waiting) :
    w ∈ t.waiting := by
  have settles := Turn.settle_induction (t := t)
    (P := fun u => Life memory peak u ∧ ∀ w ∈ u.waiting, w ∈ t.waiting) ⟨life, fun _ => id⟩ ?_
  · exact settles.2 w waits
  · intro u ⟨alive, fewer⟩ _
    refine ⟨alive.runNext, fun w waits => ?_⟩
    unfold Turn.runNext at waits
    split at waits
    · exact fewer w waits
    · rename_i c rest woken
      have first : u.woken = [] ++ c :: rest := woken
      obtain ⟨-, fits, -⟩ := alive.orderly.take first
      refine fewer w (Turn.mem_waiting.mpr ?_)
      rcases Turn.mem_waiting_ran (t := { u with woken := rest }) (Turn.ran_resume fits) waits
        with rfl | before
      · exact .inr (by rw [woken]; exact List.mem_cons_self)
      · rcases Turn.mem_waiting.mp before with asleep | later
        · exact .inl asleep
        · exact .inr (by rw [woken]; exact List.mem_cons_of_mem c later)

/-- Who is asleep after an operation was asleep before, or has come with it and may block. -/
theorem sleepers_perform (life : Life memory peak t) (settled : t.woken = [])
    (fresh : op.Fresh t.channel) {d : Direction}
    (asleep : w ∈ (t.channel.perform memory op).1.sleepers d) :
    (∃ e, w ∈ t.channel.sleepers e) ∨ op = .call w := by
  have after : w ∈ (op.apply memory t).1.settle.waiting := by
    rw [Turn.settle_apply_of_settled memory op settled]
    exact Turn.mem_waiting.mpr (.inl ⟨d, asleep⟩)
  rcases Turn.mem_waiting_apply ((life.operated op settled fresh).mem_waiting_settle after)
    with before | came
  · rcases Turn.mem_waiting.mp before with slept | woken
    · exact .inl slept
    · rw [settled] at woken
      contradiction
  · exact .inr came

theorem openSessions_perform_le (life : Life memory peak t) (settled : t.woken = [])
    (fresh : op.Fresh t.channel)
    (shut : ∀ mode nonBlocking, op ≠ .openSession mode nonBlocking) :
    (t.channel.perform memory op).1.openSessions ≤ t.channel.openSessions := by
  have roster := (life.operated op settled fresh).settle.2
  rw [Turn.settle_apply_of_settled memory op settled] at roster
  have same : (t.channel.perform memory op).1.openSessions
      = (op.apply memory t).1.channel.openSessions := by
    rw [Channel.openSessions_eq, Channel.openSessions_eq, ← roster]
    rfl
  rw [same]
  exact Turn.openSessions_applied_le (Turn.applied_apply memory t op) shut

end Life

end BytePipe
