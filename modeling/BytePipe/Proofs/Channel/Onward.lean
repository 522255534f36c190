import BytePipe.Proofs.Channel.Observers

/-!
How the life of a channel goes on from one moment to a later one. Accounts only grow, and a ring
whose storage has neither come nor gone has changed only if bytes are told to have moved
(`Turn.Continued`). The storage stays while a session is open, so between two transfers the ring is
the same as long as some session stays open (`Turn.Onward.kept`).
-/
namespace BytePipe.Turn

/-- The moments that may follow on a moment, with the operations applied meanwhile and what came of
each; from then on the open counts never added up to more than `most`. -/
inductive Onward (memory : Memory) (t : Turn) :
    (most : Nat) → List (Operation × Outcome) → Turn → Prop where
  | here : Onward memory t 0 [] t
  | operated {most : Nat} {asked : List (Operation × Outcome)} {u : Turn} (op : Operation)
    (before : Onward memory t most asked u) (settled : u.woken = [])
    (fresh : op.Fresh u.channel) :
    Onward memory t (max most (op.apply memory u).1.channel.openUses)
      (asked ++ [(op, (op.apply memory u).2)]) (op.apply memory u).1
  | ran {most : Nat} {asked : List (Operation × Outcome)} {u : Turn} (earlier : List Call)
    (c : Call) (later : List Call) (before : Onward memory t most asked u)
    (woken : u.woken = earlier ++ c :: later) :
    Onward memory t most asked (resume { u with woken := earlier ++ later } c)

variable {memory : Memory} {peak most : Nat} {op : Operation} {asked : List (Operation × Outcome)}
  {t u : Turn} {c : Call} {told : List Notice}

/-- What follows on a life belongs to it. -/
theorem Onward.life (onward : Onward memory t most asked u) (life : Life memory peak t) :
    Life memory (max peak most) u := by
  induction onward with
  | here =>
    rw [Nat.max_zero]
    exact life
  | operated op before settled fresh ih =>
    rw [← Nat.max_assoc]
    exact ih.operated op settled fresh
  | ran earlier c later before woken ih => exact ih.ran earlier c later woken

/-- The account goes on with what is told. If no byte is told to have moved, and there is storage
before and after, the ring is the same. -/
structure Continued (t u : Turn) (told : List Notice) : Prop where
  account : u.account = t.account ++ told
  still : (∀ n ∈ told, n.mover? = none) → t.channel.ring.isAllocated = true →
    u.channel.ring.isAllocated = true → u.channel.ring = t.channel.ring

theorem Continued.of_ring (account : u.account = t.account ++ told)
    (ring : u.channel.ring = t.channel.ring) : Continued t u told :=
  ⟨account, fun _ _ _ => ring⟩

theorem Continued.of_alike (alike : Alike t u) : Continued t u [] :=
  .of_ring (alike.account.trans (List.append_nil _).symm) alike.ring

theorem continued_ran (inside : t.channel.ring.Inside) (ran : Ran t c u) :
    ∃ told, Continued t u told := by
  cases ran with
  | interrupted unready => exact ⟨_, .of_ring (account_cutShort t c) rfl⟩
  | passedOn ready =>
    obtain ⟨wakers, account⟩ := account_passedOn t c
    exact ⟨_, .of_ring account (ring_wakeOne _ _)⟩
  | moved fits ready =>
    obtain ⟨wakers, account⟩ := account_transfer t c
    refine ⟨_, account, fun still => ?_⟩
    have none := still _ List.mem_cons_self
    rw [Notice.mover?, if_neg (Channel.size_serve inside fits.nontrivial ready)] at none
    contradiction
  | slept fits unready => exact ⟨_, .of_ring (account_sleep t c) (ring_sleep t c)⟩

theorem account_releaseCounts (t : Turn) (slot : Slot) (mode : AccessMode) :
    ∃ told, (t.releaseCounts slot mode).account = t.account ++ told := by
  unfold releaseCounts
  dsimp only
  split
  · exact ⟨[.countedOut slot, .released], by simp⟩
  · exact ⟨[.countedOut slot], rfl⟩

theorem continued_applied (inside : t.channel.ring.Inside) (applied : Applied memory t op u) :
    ∃ told, Continued t u told := by
  cases applied with
  | alike alike => exact ⟨_, .of_alike alike⟩
  | joined mode nonBlocking opens allocated =>
    exact ⟨[], .of_ring (List.append_nil _).symm rfl⟩
  | allocated mode nonBlocking ring opens unallocated granted =>
    refine ⟨[.allocated], rfl, fun _ stored => ?_⟩
    rw [unallocated] at stored
    contradiction
  | ended slot s found idle =>
    obtain ⟨told, account⟩ := account_releaseCounts (t.markClosed slot) slot s.mode
    exact ⟨told, account, fun _ _ stored => (releaseCounts_of_allocated stored).1⟩
  | arrived c called arrived =>
    cases arrived with
    | refused => exact ⟨_, .of_alike (.refl t)⟩
    | failed e => exact ⟨_, .of_ring rfl rfl⟩
    | answered trivial => exact ⟨_, .of_ring rfl rfl⟩
    | ran ran => exact continued_ran inside ran
  | signalled slot =>
    obtain ⟨wakers, account⟩ := account_interrupt t slot
    exact ⟨_, .of_ring account (ring_interrupt t slot)⟩

/-- A session open at some moment stays listed, and as long as it is open the ring changes only by
transfers. -/
theorem Onward.kept (onward : Onward memory t most asked u) (life : Life memory peak t)
    (few : max peak most < 2 ^ 32) {slot : Slot} {mode : AccessMode}
    (listed : t.channel.roster[slot]? = some (mode, true)) :
    ∃ told still, u.account = t.account ++ told ∧
      u.channel.roster[slot]? = some (mode, still) ∧
      (still = true → (∀ n ∈ told, n.mover? = none) → u.channel.ring = t.channel.ring) := by
  -- while the session is open, the counts are above zero and the storage is there
  have stored {most : Nat} {asked : List (Operation × Outcome)} {u : Turn}
      (onward : Onward memory t most asked u) (few : max peak most < 2 ^ 32)
      (listed : u.channel.roster[slot]? = some (mode, true)) :
      u.channel.ring.isAllocated = true :=
    ((onward.life life).counted few).storage.mpr (Channel.openSessions_pos listed)
  induction onward with
  | here => exact ⟨[], true, (List.append_nil _).symm, listed, fun _ _ => rfl⟩
  | @operated most asked u op before settled fresh ih =>
    have fewer : max peak most < 2 ^ 32 := by omega
    obtain ⟨told, still, account, found, same⟩ := ih fewer
    have applied := applied_apply memory u op
    obtain ⟨more, step⟩ := continued_applied (before.life life).inside applied
    obtain ⟨left, after, shut⟩ := roster_applied applied found
    refine ⟨told ++ more, left, ?_, after, fun isOpen quiet => ?_⟩
    · rw [step.account, account, List.append_assoc]
    · obtain rfl := shut isOpen
      subst isOpen
      have earlier := same rfl fun n tells => quiet n (List.mem_append_left _ tells)
      rw [← earlier]
      exact step.still (fun n tells => quiet n (List.mem_append_right _ tells))
        (stored before fewer found) (stored (before.operated op settled fresh) few after)
  | @ran most asked u first c rest before woken ih =>
    obtain ⟨told, still, account, found, same⟩ := ih few
    have alive := before.life life
    obtain ⟨-, fits, -⟩ := alive.orderly.take woken
    have ran := ran_resume (t := { u with woken := first ++ rest }) fits
    obtain ⟨more, step⟩ :=
      continued_ran (t := { u with woken := first ++ rest }) alive.inside ran
    have after : (resume { u with woken := first ++ rest } c).channel.roster[slot]?
        = some (mode, still) := (roster_ran ran).symm ▸ found
    refine ⟨told ++ more, still, ?_, after, fun isOpen quiet => ?_⟩
    · rw [step.account, ← List.append_assoc, ← account]
    · subst isOpen
      have earlier := same rfl fun n tells => quiet n (List.mem_append_left _ tells)
      have here : u.channel.ring.isAllocated = true := stored before few found
      rw [← earlier]
      exact step.still (fun n tells => quiet n (List.mem_append_right _ tells)) here
        (stored (before.ran first c rest woken) few after)

end BytePipe.Turn
