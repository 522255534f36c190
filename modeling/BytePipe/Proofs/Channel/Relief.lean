import BytePipe.Proofs.Channel.Interrupts
import BytePipe.Proofs.Channel.Failures

/-!
How far the wake-up of a transfer goes. It reaches the first sleeper of the other side, who moves at
least one byte in turn; that transfer wakes nobody, because no call sleeps on the side of the first
one (`Channel.Relief`). What is neither a transfer nor an interrupt wakes nobody (`Turn.Treated`,
`Turn.Apart`).
-/
namespace BytePipe

theorem Direction.eq_opposite_of_ne {d e : Direction} (ne : d ≠ e) : d = e.opposite := by
  revert ne
  cases d <;> cases e <;> decide

theorem Direction.opposite_ne (d : Direction) : d.opposite ≠ d := by
  cases d <;> decide

/-- The call that a notice tells of, if any. -/
def Notice.call? : Notice → Option Call
  | .ended c _ => some c
  | .slept c => some c
  | _ => none

theorem call?_woke (wakers : List Waker) : ∀ n ∈ wakers.map Notice.woke, n.call? = none := by
  intro n told
  obtain ⟨w, -, rfl⟩ := List.mem_map.mp told
  rfl

/-- A call that runs tells of itself, then of the wakers it wakes. -/
theorem Turn.Ran.told {t u : Turn} {c : Call} (ran : Ran t c u) :
    ∃ n, n.call? = some c ∧ ∃ wakers : List Waker, u.account = t.account ++ n :: wakers.map .woke := by
  cases ran with
  | interrupted unready => exact ⟨_, rfl, [], account_cutShort t c⟩
  | passedOn ready => exact ⟨_, rfl, account_passedOn t c⟩
  | moved fits ready => exact ⟨_, rfl, account_transfer t c⟩
  | slept fits unready => exact ⟨_, rfl, [], account_sleep t c⟩

namespace Channel

variable {ch after : Channel} {c : Call} {d : Direction}

/-- What a transfer leads to. It wakes nobody, or the first sleeper of the other side, who then moves
bytes too; no other call runs, and so none comes back and none goes to sleep. -/
inductive Relief (ch : Channel) (c : Call) (moved : Transferred) (after : Channel) :
    List Notice → Prop where
  | nobody (wakers : List Waker) (idle : ch.sleepers c.direction.opposite = [])
    (same : ∀ d, after.sleepers d = ch.sleepers d) :
    Relief ch c moved after (.ended c (.ok moved) :: wakers.map .woke)
  | next (wakers others : List Waker) (next : Call) (rest : List Call) (got : Transferred)
    (asleep : ch.sleepers c.direction.opposite = next :: rest)
    (left : after.sleepers c.direction.opposite = rest)
    (idle : ch.sleepers c.direction = [] ∧ after.sleepers c.direction = []) (some : got.size ≠ 0) :
    Relief ch c moved after
      (.ended c (.ok moved) :: wakers.map .woke ++ .ended next (.ok got) :: others.map .woke)

/-- Where a byte can be moved, a byte can be held. -/
theorem capacity_of_ready (wellFormed : ch.ring.WellFormed) (ready : ch.ready d = true) :
    2 ≤ ch.ring.capacity := by
  have balance := Ring.used_add_free wellFormed
  cases d with
  | reading =>
    have empty := Ring.isEmpty_iff_used wellFormed
    rw [isEmpty_of_ready ready] at empty
    have some : ch.ring.used ≠ 0 := by simpa using empty
    omega
  | writing =>
    have room : 0 < ch.ring.free := of_decide_eq_true ready
    omega

end Channel

namespace Turn

variable {memory : Memory} {peak : Nat} {op : Operation} {t u : Turn} {c : Call} {d : Direction}

theorem runWoken_of_settled (settled : t.woken = []) (fuel : Nat) : t.runWoken fuel = t := by
  cases fuel with
  | zero => rfl
  | succ fuel => rw [runWoken, settled]; rfl

/-- A single woken call that wakes nobody is all that runs. -/
theorem settle_of_one (woken : t.woken = [c])
    (last : (resume { t with woken := [] } c).woken = []) :
    t.settle = resume { t with woken := [] } c := by
  have some : t.woken.isEmpty = false := by rw [woken]; rfl
  have step : t.runNext = resume { t with woken := [] } c := by rw [runNext, woken]
  have count : t.woken.length = 1 := by rw [woken]; rfl
  obtain ⟨fuel, runs⟩ : ∃ fuel, t.pendingRuns = fuel + 1 :=
    ⟨t.pendingRuns - 1, by simp only [pendingRuns, count]; omega⟩
  rw [settle, runs, runWoken, some, if_neg Bool.false_ne_true, step, runWoken_of_settled last]

/-- A single woken call that can go on and finds nobody asleep on the other side is served, and
nothing else runs. -/
theorem settle_served (woken : t.woken = [c]) (silent : t.channel.hasSignal c.slot = false)
    (ready : t.channel.ready c.direction = true)
    (idle : t.channel.sleepers c.direction.opposite = []) :
    (∃ wakers : List Waker, t.settle.account
      = t.account ++ .ended c (.ok (t.channel.ring.serve c.request).1) :: wakers.map .woke) ∧
    ∀ d, t.settle.channel.sleepers d = t.channel.sleepers d := by
  have served : resume { t with woken := [] } c = (transfer { t with woken := [] } c).1 := by
    rw [resume]
    simp only
    rw [silent, if_neg Bool.false_ne_true, if_pos ready]
  have last := woken_transfer { t with woken := [] } c
  simp only [idle, List.take_nil, List.append_nil] at last
  rw [settle_of_one woken (by rw [served]; exact last), served]
  refine ⟨account_transfer { t with woken := [] } c, fun d => ?_⟩
  rw [sleepers_transfer]
  simp only [idle, List.tail_nil]
  split
  · rename_i same
    rw [same, idle]
  · rfl

/-! ## What wakes nobody -/

/-- The same calls sleep and are woken. -/
structure Unstirred (t u : Turn) : Prop where
  capacity : u.channel.ring.capacity = t.channel.ring.capacity
  sleepers : ∀ d, u.channel.sleepers d = t.channel.sleepers d
  woken : u.woken = t.woken

/-- Nothing happens to any call, and nothing is told of one. -/
structure Apart (t u : Turn) : Prop extends Unstirred t u where
  told : ∃ told, u.account = t.account ++ told ∧ ∀ n ∈ told, n.call? = none

theorem Apart.of_eq (ring : u.channel.ring = t.channel.ring)
    (sleepers : ∀ d, u.channel.sleepers d = t.channel.sleepers d) (woken : u.woken = t.woken)
    (account : u.account = t.account) : Apart t u :=
  ⟨⟨by rw [ring], sleepers, woken⟩, [], by rw [account, List.append_nil], nofun⟩

theorem apart_ended (t : Turn) (slot : Slot) (mode : AccessMode) :
    Apart t ((t.markClosed slot).releaseCounts slot mode) := by
  refine ⟨⟨?_, fun d => ?_, woken_releaseCounts _ slot mode⟩, ?_⟩
  · unfold releaseCounts
    dsimp only
    split <;> rfl
  · rw [sleepers_releaseCounts]
    cases d <;> rfl
  · unfold releaseCounts
    dsimp only
    split
    · exact ⟨[.countedOut slot, .released], List.append_assoc _ _ _, by simp [Notice.call?]⟩
    · exact ⟨[.countedOut slot], rfl, by simp [Notice.call?]⟩

/-- What neither makes a call nor is an interrupt has nothing to do with calls. -/
theorem apart_apply (memory : Memory) (t : Turn) (silent : op.call? = none)
    (quiet : ∀ slot, op ≠ .interrupt slot) : Apart t (op.apply memory t).1 := by
  have applied := applied_apply memory t op
  generalize (op.apply memory t).1 = u at applied
  cases applied with
  | alike alike => exact .of_eq alike.ring alike.sleepers alike.woken alike.account
  | joined mode nonBlocking opens allocated =>
    exact .of_eq rfl (fun d => by cases d <;> rfl) rfl rfl
  | allocated mode nonBlocking ring opens unallocated granted =>
    refine ⟨⟨?_, fun d => by cases d <;> rfl, rfl⟩, [.allocated], rfl, by simp [Notice.call?]⟩
    rw [Ring.allocate_eq_ok granted]
    rfl
  | ended slot s found idle => exact apart_ended t slot s.mode
  | arrived c called arrived =>
    rw [silent] at called
    contradiction
  | signalled slot made => exact absurd made (quiet slot)

/-- What becomes of a call that arrives, as far as the other calls are concerned: unless it moves
bytes or falls asleep, nothing has happened but that it comes back at once. -/
inductive Treated (t : Turn) (c : Call) : Turn × Outcome → Prop where
  | refused : Treated t c (t, .refused)
  | answered {u : Turn} (result : CallResult)
    (vain : ∀ moved, result = .ok moved → moved.size = 0 ∧ c.request.isTrivial = true)
    (same : Unstirred t u) (account : u.account = t.account ++ [.ended c result]) :
    Treated t c (u, .ofProgress (.ended result))
  | slept (fits : t.channel.Fits c) (unready : t.channel.ready c.direction = false) :
    Treated t c (t.sleep c, .asleep)
  | moved (fits : t.channel.Fits c) (ready : t.channel.ready c.direction = true) :
    Treated t c ((t.transfer c).1, .transferred (t.channel.ring.serve c.request).1)

theorem treated_apply (memory : Memory) (t : Turn) (called : op.call? = some c) :
    Treated t c (op.apply memory t) := by
  obtain ⟨mayBlock, same, -⟩ := apply_of_call? memory t called
  rw [same]
  have verdict := verdict_arrive t c mayBlock
  generalize t.arrive c mayBlock = result at verdict
  have told {result : CallResult}
      (vain : ∀ moved, result = .ok moved → moved.size = 0 ∧ c.request.isTrivial = true) :
      Treated t c (t.record [.ended c result], .ofProgress (.ended result)) :=
    .answered result vain ⟨rfl, fun _ => rfl, rfl⟩ rfl
  cases verdict with
  | refused closed => exact .refused
  | denied s found forbidden => exact told nofun
  | answered s found permitted trivial =>
    refine told fun moved same => ⟨?_, trivial⟩
    cases same
    cases c.request <;> rfl
  | moved fits ready =>
    rw [progress_transfer_eq]
    exact .moved fits ready
  | turnedAway fits unready impatient => exact told nofun
  | cutShort fits unready blocks pending =>
    exact .answered _ nofun ⟨rfl, sleepers_cutShort t c, rfl⟩ (account_cutShort t c)
  | slept fits unready blocks silent => exact .slept fits unready

end Turn

namespace Life

open Turn

variable {memory : Memory} {peak : Nat} {op : Operation} {t : Turn} {c w : Call} {d : Direction}

theorem calm (life : Life memory peak t) (settled : t.woken = []) : t.Calm := by
  obtain ⟨deeds, course⟩ := life.course
  exact course.delivered.calm settled

/-- While one side has a sleeper, the other side has none. -/
theorem idle_opposite (life : Life memory peak t) (few : peak < 2 ^ 32) (settled : t.woken = [])
    (capacity : 2 ≤ t.channel.ring.capacity) (asleep : w ∈ t.channel.sleepers d) :
    t.channel.sleepers d.opposite = [] := by
  have attended := life.attended few
  have wellFormed := (life.counted few).wellFormed
  refine List.eq_nil_iff_forall_not_mem.mpr fun other also => ?_
  cases d with
  | reading => exact attended.not_both life.orderly settled wellFormed capacity asleep also
  | writing => exact attended.not_both life.orderly settled wellFormed capacity also asleep

/-- A transfer lets at most one sleeping call finish: the next of the other side finds no signal, and
its direction is ready. -/
theorem relief_transfer (life : Life memory peak t) (few : peak < 2 ^ 32) (settled : t.woken = [])
    (fits : t.channel.Fits c) (ready : t.channel.ready c.direction = true) :
    ∃ told, (t.transfer c).1.settle.account = t.account ++ told ∧
      t.channel.Relief c (t.channel.ring.serve c.request).1 (t.transfer c).1.settle.channel told := by
  obtain ⟨wakers, account⟩ := account_transfer t c
  have woken := woken_transfer t c
  have sleepers := sleepers_transfer t c
  cases asleep : t.channel.sleepers c.direction.opposite with
  | nil =>
    rw [asleep, settled] at woken
    rw [settle_of_settled woken]
    refine ⟨_, account, .nobody wakers asleep fun d => ?_⟩
    rw [sleepers, asleep]
    split
    · rename_i same
      rw [same, asleep, List.tail_nil]
    · rfl
  | cons next rest =>
    rw [asleep, settled] at woken
    rw [asleep] at sleepers
    have member : next ∈ t.channel.sleepers c.direction.opposite := asleep ▸ List.mem_cons_self
    have waits : next ∈ t.waiting := mem_waiting.mpr (.inl ⟨_, member⟩)
    have placed := life.orderly.placed _ next member
    have capacity := Channel.capacity_of_ready (life.counted few).wellFormed ready
    have own := c.direction.opposite_ne.symm
    have idle : t.channel.sleepers c.direction = [] := by
      have none := life.idle_opposite few settled capacity member
      rw [Direction.opposite_opposite] at none
      exact none
    have silent : (t.transfer c).1.channel.hasSignal next.slot = false := by
      rw [Channel.hasSignal_congr (sessions_transfer t c)]
      exact life.calm settled next waits
    have goesOn : (t.transfer c).1.channel.ready next.direction = true := by
      rw [placed, ← ((life.counted few).serve_moves fits ready).2]
      exact Channel.ready_congr (ring_transfer t c) _
    have nobody : (t.transfer c).1.channel.sleepers next.direction.opposite = [] := by
      rw [placed, Direction.opposite_opposite, sleepers, if_neg own, idle]
    obtain ⟨⟨others, told⟩, same⟩ := settle_served woken silent goesOn nobody
    have inside := inside_ran life.inside (.moved fits ready)
    have some := Channel.size_serve inside (life.orderly.fits next waits).nontrivial goesOn
    refine ⟨_, ?_, .next wakers others next rest _ asleep ?_ ⟨idle, ?_⟩ some⟩
    · rw [told, account, List.append_assoc]
    · rw [same, sleepers, if_pos rfl, List.tail_cons]
    · rw [same, sleepers, if_neg own, idle]

/-- What a transfer of a whole operation leads to. -/
theorem relief (life : Life memory peak t) (few : peak < 2 ^ 32) (settled : t.woken = [])
    (called : op.call? = some c) {moved : Transferred}
    (transferred : (op.apply memory t).2 = .transferred moved) (some : moved.size ≠ 0) :
    ∃ told, (op.apply memory t).1.settle.account = t.account ++ told ∧
      t.channel.Relief c moved (op.apply memory t).1.settle.channel told := by
  have treated := treated_apply memory t called
  generalize op.apply memory t = result at treated transferred
  cases treated with
  | refused => cases transferred
  | answered result vain same account =>
    cases result with
    | error e => cases transferred
    | ok answer =>
      cases transferred
      exact absurd (vain _ rfl).1 some
  | slept fits unready => cases transferred
  | moved fits ready =>
    cases transferred
    exact life.relief_transfer few settled fits ready

end Life

end BytePipe
