import BytePipe.Proofs.Channel.Fifo
import BytePipe.Proofs.Channel.Observers

/-!
What a single step of a life moves. A call that comes back with success and had something to move
was open for its direction, found it ready and was served from the ring as it was before the step;
a step that tells of no moved byte, nor of the storage going, leaves the ring alone (`Moves`).
-/
namespace BytePipe

/-- Storage that is there has the shape that its ring describes. -/
theorem Life.wellFormed_of_isAllocated {memory : Memory} {peak : Nat} {t : Turn}
    (life : Life memory peak t) (allocated : t.channel.ring.isAllocated = true) :
    t.channel.ring.WellFormed ∧ t.channel.ring.storage ≠ none := by
  have stored : t.channel.ring.storage ≠ none := Option.isSome_iff_ne_none.mp allocated
  cases since : lifetime t.account with
  | none => exact absurd (life.kept.away since) stored
  | some told => exact ⟨(life.kept.books told since).wellFormed, stored⟩

namespace Turn

variable {memory : Memory} {peak : Nat} {op : Operation} {t u : Turn} {c : Call}
  {told : List Notice} {moved : Transferred}

/-- The next moment: an operation is applied, or a woken call runs. -/
inductive Next (memory : Memory) (t : Turn) : Turn → Prop where
  | operated (op : Operation) (settled : t.woken = []) (fresh : op.Fresh t.channel) :
    Next memory t (op.apply memory t).1
  | ran (earlier : List Call) (c : Call) (later : List Call)
    (woken : t.woken = earlier ++ c :: later) :
    Next memory t (resume { t with woken := earlier ++ later } c)

/-- The next moment belongs to the same life. -/
theorem Next.life (next : Next memory t u) (life : Life memory peak t) :
    ∃ most, Life memory most u ∧ peak ≤ most := by
  cases next with
  | operated op settled fresh =>
    exact ⟨_, life.operated op settled fresh, Nat.le_max_left _ _⟩
  | ran earlier c later woken => exact ⟨_, life.ran earlier c later woken, Nat.le_refl peak⟩

/-- What a step tells, and what it does to the ring. -/
structure Moves (t u : Turn) (told : List Notice) : Prop where
  account : u.account = t.account ++ told
  served : ∀ c moved, .ended c (.ok moved) ∈ told → c.request.isTrivial = false →
    t.channel.Fits c ∧ t.channel.ready c.direction = true ∧
      t.channel.ring.serve c.request = (moved, u.channel.ring)
  still : t.channel.ring.isAllocated = true → (∀ n ∈ told, n.mover? = none) →
    .released ∉ told → u.channel.ring = t.channel.ring

namespace Moves

theorem of_ring (account : u.account = t.account ++ told)
    (quiet : ∀ c moved, .ended c (.ok moved) ∈ told → c.request.isTrivial = true)
    (ring : u.channel.ring = t.channel.ring) : Moves t u told where
  account := account
  served c moved tells nontrivial := by
    rw [quiet c moved tells] at nontrivial
    contradiction
  still _ _ _ := ring

/-- A step that tells nothing. -/
theorem of_alike (alike : Alike t u) : Moves t u [] :=
  .of_ring (by simp [alike.account]) (by simp) alike.ring

theorem of_transfer (inside : t.channel.ring.Inside) (fits : t.channel.Fits c)
    (ready : t.channel.ready c.direction = true) : ∃ told, Moves t (t.transfer c).1 told := by
  obtain ⟨wakers, account⟩ := account_transfer t c
  refine ⟨_, account, fun other moved tells _ => ?_, fun _ still => ?_⟩
  · simp only [List.mem_cons, Notice.ended.injEq, Except.ok.injEq, List.mem_map, reduceCtorEq,
      and_false, exists_false, or_false] at tells
    obtain ⟨rfl, rfl⟩ := tells
    exact ⟨fits, ready, by rw [ring_transfer]⟩
  · have none := still _ List.mem_cons_self
    rw [Notice.mover?, if_neg (Channel.size_serve inside fits.nontrivial ready)] at none
    contradiction

theorem of_ran (inside : t.channel.ring.Inside) (ran : Ran t c u) : ∃ told, Moves t u told := by
  cases ran with
  | interrupted unready => exact ⟨_, .of_ring (account_cutShort t c) (by simp) rfl⟩
  | passedOn ready =>
    obtain ⟨wakers, account⟩ := account_passedOn t c
    exact ⟨_, .of_ring account (by simp) (ring_wakeOne _ _)⟩
  | moved fits ready => exact of_transfer inside fits ready
  | slept fits unready => exact ⟨_, .of_ring (account_sleep t c) (by simp) (ring_sleep t c)⟩

theorem of_arrived (inside : t.channel.ring.Inside) (arrived : Arrived t c u) :
    ∃ told, Moves t u told := by
  cases arrived with
  | refused => exact ⟨_, .of_alike (.refl t)⟩
  | failed e => exact ⟨[.ended c (.error e)], .of_ring rfl (by simp) rfl⟩
  | answered trivial =>
    refine ⟨[.ended c (.ok c.request.trivialAnswer)], .of_ring rfl (fun other moved tells => ?_) rfl⟩
    simp only [List.mem_singleton, Notice.ended.injEq] at tells
    exact tells.1 ▸ trivial
  | ran ran => exact of_ran inside ran

/-- A session that ends moves nothing; if its storage goes, that is told. -/
theorem of_ended (t : Turn) (slot : Slot) (mode : AccessMode) :
    ∃ told, Moves t ((t.markClosed slot).releaseCounts slot mode) told := by
  unfold releaseCounts
  dsimp only
  split
  · refine ⟨[.countedOut slot, .released], ?_, by simp, fun _ _ kept => by simp at kept⟩
    simp [markClosed]
  · exact ⟨[.countedOut slot], .of_ring rfl (by simp) rfl⟩

theorem of_applied (inside : t.channel.ring.Inside) (applied : Applied memory t op u) :
    ∃ told, Moves t u told := by
  cases applied with
  | alike alike => exact ⟨_, .of_alike alike⟩
  | joined mode nonBlocking opens allocated => exact ⟨[], .of_ring (by simp [join]) (by simp) rfl⟩
  | allocated mode nonBlocking ring opens unallocated granted =>
    refine ⟨[.allocated], rfl, by simp, fun stored => ?_⟩
    rw [unallocated] at stored
    contradiction
  | ended slot s found idle => exact of_ended t slot s.mode
  | arrived c called arrived => exact of_arrived inside arrived
  | signalled slot =>
    obtain ⟨wakers, account⟩ := account_interrupt t slot
    exact ⟨_, .of_ring account (by simp) (ring_interrupt t slot)⟩

end Moves

/-- Every step of a life tells of all that it moves. -/
theorem Next.moves (next : Next memory t u) (life : Life memory peak t)
    (account : u.account = t.account ++ told) : Moves t u told := by
  have moves : ∃ told, Moves t u told := by
    cases next with
    | operated op settled fresh => exact Moves.of_applied life.inside (applied_apply memory t op)
    | ran earlier c later woken =>
      obtain ⟨-, fits, -⟩ := life.orderly.take woken
      obtain ⟨told, moves⟩ := Moves.of_ran (t := { t with woken := earlier ++ later })
        life.inside (ran_resume fits)
      exact ⟨told, moves.account, moves.served, moves.still⟩
  obtain ⟨same, moves⟩ := moves
  rwa [List.append_cancel_left (account.symm.trans moves.account)]

end Turn

end BytePipe
