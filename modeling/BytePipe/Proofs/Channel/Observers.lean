import BytePipe.Proofs.Channel.Failures

/-!
Wakers that are registered on both queues of a channel. Every transfer wakes one queue's observers
and every interrupt those of both, so until such a waker is woken it stays where it is and no byte
moves: an operation that does not wake it leaves the ring as it was, as long as the storage stays
(`Channel.Observed.perform`). The storage does stay while a session is open, and a session that is
closed is never open again (`Life.roster_perform`).
-/
namespace BytePipe

/-- The waker is registered on both queues. -/
def Channel.Observed (ch : Channel) (w : Waker) : Prop :=
  ∀ d, w ∈ (ch.queue d).observers

namespace Turn

variable {memory : Memory} {op : Operation} {t u : Turn} {c : Call} {w : Waker}

theorem woke_wakeOne {d : Direction} (registered : w ∈ (t.channel.queue d).observers) :
    .woke w ∈ (t.wakeOne d).account :=
  List.mem_append_right _ (List.mem_map_of_mem registered)

theorem woke_wakeAll {d : Direction} (registered : w ∈ (t.channel.queue d).observers) :
    .woke w ∈ (t.wakeAll d).account :=
  List.mem_append_right _ (List.mem_map_of_mem registered)

/-- A transfer wakes the observers of the other queue. -/
theorem woke_transfer (observed : t.channel.Observed w) (c : Call) :
    .woke w ∈ (t.transfer c).1.account := by
  rw [(alike_transfer t c).account]
  refine woke_wakeOne ?_
  have same : (t.served c).channel.queue c.direction.opposite
      = t.channel.queue c.direction.opposite := by
    cases c.direction <;> rfl
  rw [same]
  exact observed _

theorem woke_interrupt (observed : t.channel.Observed w) (slot : Slot) :
    .woke w ∈ (t.interrupt slot).account := by
  have first : .woke w ∈ ((t.mapChannel (·.setSignal slot true)).wakeAll .reading).account :=
    woke_wakeAll (observed .reading)
  exact List.mem_append_left _ first

/-- A waker is left where it is, nobody else is woken, and the ring differs only if the storage
comes or goes. -/
structure Left (w : Waker) (t u : Turn) : Prop where
  woken : u.woken = t.woken
  observed : u.channel.Observed w
  ring : t.channel.ring.isAllocated = true → u.channel.ring.isAllocated = true →
    u.channel.ring = t.channel.ring

theorem Left.of_eq (observed : t.channel.Observed w) (woken : u.woken = t.woken)
    (queues : ∀ d, (u.channel.queue d).observers = (t.channel.queue d).observers)
    (ring : u.channel.ring = t.channel.ring) : Left w t u :=
  ⟨woken, fun d => queues d ▸ observed d, fun _ _ => ring⟩

theorem left_poll (observed : t.channel.Observed w) (waker : Option Waker) :
    Left w t (t.poll waker).1 := by
  cases waker with
  | none => exact .of_eq observed rfl (fun _ => rfl) rfl
  | some v =>
    refine ⟨rfl, fun d => ?_, fun _ _ => rfl⟩
    have registered := WaitQueue.mem_register_of_mem (observed d) v
    cases d <;> exact registered

theorem left_openSession (memory : Memory) (mode : AccessMode) (nonBlocking : Bool)
    (observed : t.channel.Observed w) : Left w t (t.openSession memory mode nonBlocking).1 := by
  unfold openSession
  dsimp only
  split
  · exact .of_eq observed rfl (fun d => by cases d <;> rfl) rfl
  · rename_i unallocated
    split
    · exact .of_eq observed rfl (fun _ => rfl) rfl
    · refine ⟨rfl, fun d => ?_, fun stored => absurd stored unallocated⟩
      have registered := observed d
      cases d <;> exact registered

theorem left_dropSession (slot : Slot) (observed : t.channel.Observed w) :
    Left w t (t.dropSession slot).1 := by
  unfold dropSession letGo
  split
  · exact .of_eq observed rfl (fun _ => rfl) rfl
  · dsimp only
    split
    · exact .of_eq observed rfl (fun _ => rfl) rfl
    · refine ⟨woken_releaseCounts _ slot _, fun d => ?_, fun _ stored => ?_⟩
      · have registered := observed d
        unfold releaseCounts
        dsimp only
        split <;> cases d <;> exact registered
      · exact (releaseCounts_of_allocated stored).1

theorem woke_or_left_of_call? (memory : Memory) (called : op.call? = some c)
    (observed : t.channel.Observed w) :
    .woke w ∈ (op.apply memory t).1.account ∨ Left w t (op.apply memory t).1 := by
  obtain ⟨mayBlock, same, -⟩ := apply_of_call? memory t called
  rw [same]
  have verdict := verdict_arrive t c mayBlock
  generalize t.arrive c mayBlock = result at verdict
  cases verdict with
  | moved fits ready => exact .inl (woke_transfer observed c)
  | cutShort fits unready blocks pending =>
    exact .inr (.of_eq observed rfl (fun d => by cases d <;> rfl) rfl)
  | slept fits unready blocks silent =>
    refine .inr (.of_eq observed rfl (fun d => ?_) (ring_sleep t c))
    simp only [sleep, channel_record, channel_mapChannel]
    cases c.direction <;> cases d <;> rfl
  | _ => exact .inr (.of_eq observed rfl (fun _ => rfl) rfl)

/-- An operation wakes a waker that is registered on both queues, or leaves it there. -/
theorem woke_or_left (memory : Memory) (op : Operation) (observed : t.channel.Observed w) :
    .woke w ∈ (op.apply memory t).1.account ∨ Left w t (op.apply memory t).1 := by
  cases op with
  | call c => exact woke_or_left_of_call? memory rfl observed
  | tryCall c => exact woke_or_left_of_call? memory rfl observed
  | openSession mode nonBlocking =>
    have left := left_openSession memory mode nonBlocking observed
    simp only [Operation.apply]
    split <;> rename_i done <;> rw [done] at left <;> exact .inr left
  | closeSession slot =>
    rw [Operation.apply, closeSession_eq_dropSession]
    exact .inr (left_dropSession slot observed)
  | dropSession slot => exact .inr (left_dropSession slot observed)
  | setNonBlocking slot nonBlocking =>
    exact .inr (.of_eq observed rfl (fun d => by cases d <;> rfl) rfl)
  | poll slot waker =>
    refine .inr ?_
    simp only [Operation.apply]
    split
    · exact left_poll observed waker
    · exact .of_eq observed rfl (fun d => rfl) rfl
  | interrupt slot => exact .inl (woke_interrupt observed slot)
  | subscribe => exact .inr (.of_eq observed rfl (fun d => by cases d <;> rfl) rfl)
  | unsubscribe feed => exact .inr (.of_eq observed rfl (fun d => by cases d <;> rfl) rfl)
  | receive feed =>
    refine .inr ?_
    simp only [Operation.apply, receive]
    split <;> exact .of_eq observed rfl (fun d => by cases d <;> rfl) rfl

/-- What has been told stays told while woken calls run. -/
theorem account_settle (t : Turn) : ∃ more, t.settle.account = t.account ++ more := by
  obtain ⟨ch, woken, account⟩ := t
  have same := following_settle ⟨ch, woken, []⟩ account
  rw [following, List.append_nil] at same
  exact ⟨_, congrArg Turn.account same⟩

/-! ## Sessions -/

/-- An operation keeps all sessions listed, and a closed one closed. -/
theorem roster_applied (applied : Applied memory t op u) {slot : Slot} {mode : AccessMode}
    {isOpen : Bool} (listed : t.channel.roster[slot]? = some (mode, isOpen)) :
    ∃ still, u.channel.roster[slot]? = some (mode, still) ∧ (still = true → isOpen = true) := by
  have inside : slot < t.channel.roster.length := (List.getElem?_eq_some_iff.mp listed).1
  have kept (same : u.channel.roster = t.channel.roster) :
      ∃ still, u.channel.roster[slot]? = some (mode, still) ∧ (still = true → isOpen = true) :=
    ⟨isOpen, same ▸ listed, id⟩
  have joined (more : AccessMode × Bool) (same : u.channel.roster = t.channel.roster ++ [more]) :
      ∃ still, u.channel.roster[slot]? = some (mode, still) ∧ (still = true → isOpen = true) :=
    ⟨isOpen, by rw [same, List.getElem?_append_left inside, listed], id⟩
  cases applied with
  | alike alike => exact kept alike.roster
  | joined mode nonBlocking opens allocated => exact joined _ List.map_append
  | allocated mode nonBlocking ring opens unallocated granted => exact joined _ List.map_append
  | ended target s found idle =>
    rw [roster_releaseCounts]
    by_cases own : target = slot
    · subst own
      rw [Channel.roster_of_openSession? found] at listed
      cases listed
      exact ⟨false, roster_markClosed found, fun never => by contradiction⟩
    · exact ⟨isOpen, (roster_markClosed_ne t own).trans listed, id⟩
  | arrived c called arrived => exact kept (roster_arrived arrived)
  | signalled slot =>
    refine kept ?_
    rw [interrupt, roster_wakeAll, roster_wakeAll]
    exact (alike_setSignal t slot true).roster

end Turn

/-- Until the waker is woken no byte moves, as long as the storage stays. -/
theorem Channel.Observed.perform {memory : Memory} {ch : Channel} {op : Operation} {w : Waker}
    (observed : ch.Observed w) (stored : ch.ring.isAllocated = true)
    (keeps : (ch.perform memory op).1.ring.isAllocated = true)
    (unwoken : .woke w ∉ (ch.perform memory op).2.2) :
    (ch.perform memory op).1.Observed w ∧ (ch.perform memory op).1.ring = ch.ring := by
  rcases Turn.woke_or_left memory op (t := .start ch) observed with woke | left
  · obtain ⟨more, told⟩ := (op.apply memory (.start ch)).1.account_settle
    refine absurd ?_ unwoken
    change _ ∈ (op.apply memory (.start ch)).1.settle.account
    rw [told]
    exact List.mem_append_left _ woke
  · rw [Channel.perform_of_settled left.woken] at keeps ⊢
    exact ⟨left.observed, left.ring stored keeps⟩

/-- What becomes of a session by a whole operation: it stays listed, and closed once it is. -/
theorem Life.roster_perform {memory : Memory} {peak : Nat} {op : Operation} {t : Turn}
    (life : Life memory peak t) (settled : t.woken = []) (fresh : op.Fresh t.channel)
    {slot : Slot} {mode : AccessMode} {isOpen : Bool}
    (listed : t.channel.roster[slot]? = some (mode, isOpen)) :
    ∃ still, (t.channel.perform memory op).1.roster[slot]? = some (mode, still) ∧
      (still = true → isOpen = true) := by
  have settles := (life.operated op settled fresh).settle.2
  rw [Turn.settle_apply_of_settled memory op settled] at settles
  have roster : (t.channel.perform memory op).1.roster
      = (op.apply memory t).1.channel.roster := settles
  rw [roster]
  exact Turn.roster_applied (Turn.applied_apply memory t op) listed

end BytePipe
