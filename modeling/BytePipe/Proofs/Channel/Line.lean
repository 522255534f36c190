import BytePipe.Proofs.Channel.Relief

/-!
The line of the sleeping calls. A call joins it when it first goes to sleep, keeps its place when it
is woken in vain, and leaves it when it comes back; so its place tells how long it has waited, while
that in the queue tells when it last went to sleep. The two agree: the calls of a direction that come
back with success do so in the order of the line (`InOrder`).

Between operations the line is the queue of one side, for the other one is empty (`Turn.Rested`). A
transfer serves the first in line. An interrupt wakes the whole queue in its order; those that go to
sleep again do so in the same order, and only after the direction has ceased to be ready
(`Turn.Roused`).
-/
namespace BytePipe

/-- The line after a notice, the earliest in front. -/
def lineAfter (waits : List Call) : Notice → List Call
  | .slept c => if c ∈ waits then waits else waits ++ [c]
  | .ended c _ => waits.erase c
  | _ => waits

/-- The calls that have gone to sleep and not come back, in the order in which they first did so. -/
def line (account : List Notice) : List Call :=
  account.foldl lineAfter []

/-- If the call is in line, nobody of its direction is before it. -/
def IsNext (waits : List Call) (c : Call) : Prop :=
  c ∈ waits → waits.find? (·.direction == c.direction) = some c

/-- A call that has slept and comes back with success has been the next of its direction. -/
def InOrder (account : List Notice) : Prop :=
  ∀ before c moved after, account = before ++ .ended c (.ok moved) :: after →
    IsNext (line before) c

/-- An account that is in order, with the line it ends with. Nobody waits for nothing. -/
structure Lined (account : List Notice) (waits : List Call) : Prop where
  order : InOrder account
  line : line account = waits
  nontrivial : ∀ c ∈ waits, c.request.isTrivial = false

theorem isNext_of_not_mem {waits : List Call} {c : Call} (absent : c ∉ waits) : IsNext waits c :=
  fun member => absurd member absent

theorem isNext_head (c : Call) (rest : List Call) : IsNext (c :: rest) c := by
  intro
  rw [List.find?_cons, beq_self_eq_true]

/-- A call behind others leaves the line. -/
theorem erase_middle {earlier later : List Call} {c : Call} (absent : c ∉ earlier) :
    (earlier ++ c :: later).erase c = earlier ++ later := by
  rw [List.erase_append_right _ absent, List.erase_cons_head]

namespace Lined

variable {account told : List Notice} {waits : List Call} {c : Call}

theorem nil : Lined [] [] where
  order before c moved after split := by
    have some := congrArg List.length split
    simp at some
  line := rfl
  nontrivial := nofun

theorem concat (lined : Lined account waits) {n : Notice}
    (next : ∀ c moved, n = .ended c (.ok moved) → IsNext waits c)
    (nontrivial : ∀ c ∈ lineAfter waits n, c.request.isTrivial = false) :
    Lined (account ++ [n]) (lineAfter waits n) where
  order before c moved after split := by
    rcases List.eq_nil_or_concat after with rfl | ⟨earlier, last, rfl⟩
    · obtain ⟨rfl, same⟩ := List.append_inj' split rfl
      rw [lined.line]
      exact next c moved (List.cons.inj same).1
    · rw [List.concat_eq_append, ← List.cons_append, ← List.append_assoc] at split
      exact lined.order before c moved earlier (List.append_inj' split rfl).1
  line := by
    rw [BytePipe.line, List.foldl_append, ← lined.line]
    rfl
  nontrivial := nontrivial

/-- What is told of no call leaves the line alone. -/
theorem apart (lined : Lined account waits) (none : ∀ n ∈ told, n.call? = none) :
    Lined (account ++ told) waits := by
  induction told generalizing account with
  | nil =>
    rw [List.append_nil]
    exact lined
  | cons n rest ih =>
    have silent := none n List.mem_cons_self
    have same : lineAfter waits n = waits := by
      cases n with
      | ended c result => cases silent
      | slept c => cases silent
      | _ => rfl
    have next : Lined (account ++ [n]) (lineAfter waits n) :=
      lined.concat (fun c moved told => by rw [told] at silent; cases silent)
        (by rw [same]; exact lined.nontrivial)
    rw [same] at next
    rw [List.append_cons]
    exact ih next fun m told => none m (List.mem_cons_of_mem n told)

theorem woke (lined : Lined account waits) (wakers : List Waker) :
    Lined (account ++ wakers.map .woke) waits :=
  lined.apart (call?_woke wakers)

theorem failed (lined : Lined account waits) (c : Call) (e : ChannelError) :
    Lined (account ++ [.ended c (.error e)]) (waits.erase c) :=
  lined.concat nofun fun w member => lined.nontrivial w (List.mem_of_mem_erase member)

theorem succeeded (lined : Lined account waits) (next : IsNext waits c) (moved : Transferred) :
    Lined (account ++ [.ended c (.ok moved)]) (waits.erase c) :=
  lined.concat (fun _ _ told => (Notice.ended.inj told).1 ▸ next) fun w member =>
    lined.nontrivial w (List.mem_of_mem_erase member)

theorem served (lined : Lined account waits) (next : IsNext waits c) (moved : Transferred)
    (wakers : List Waker) :
    Lined (account ++ .ended c (.ok moved) :: wakers.map .woke) (waits.erase c) := by
  rw [List.append_cons]
  exact (lined.succeeded next moved).woke wakers

theorem slept (lined : Lined account waits) (nontrivial : c.request.isTrivial = false) :
    Lined (account ++ [.slept c]) (lineAfter waits (.slept c)) := by
  refine lined.concat nofun fun w member => ?_
  rw [lineAfter] at member
  split at member
  · exact lined.nontrivial w member
  · rcases List.mem_append.mp member with before | last
    · exact lined.nontrivial w before
    · rw [List.mem_singleton.mp last]
      exact nontrivial

end Lined

namespace Turn

variable {memory : Memory} {peak : Nat} {op : Operation} {t u : Turn} {waits : List Call} {c : Call}
  {d : Direction}

/-- The line is the queue of one side, before those of its calls that are woken. -/
structure Queued (t : Turn) (waits : List Call) (d : Direction) : Prop where
  idle : t.channel.sleepers d.opposite = []
  placed : ∀ c ∈ t.woken, c.direction = d
  waits : waits = t.channel.sleepers d ++ t.woken

/-- In order, and with one side's queue in line. With a capacity of one no byte ever moves, and then
both sides may be asleep together. -/
structure Rested (t : Turn) (waits : List Call) : Prop where
  lined : Lined t.account waits
  queued : 2 ≤ t.channel.ring.capacity → ∃ d, t.Queued waits d

/-- While the calls woken by an interrupt run, who has gone to sleep again has found its direction
not ready, and nothing has made it so since. -/
structure Roused (t : Turn) (waits : List Call) : Prop where
  lined : Lined t.account waits
  queued : 2 ≤ t.channel.ring.capacity → ∃ d, t.Queued waits d ∧
    (t.channel.ready d = true → t.channel.sleepers d = [])

/-! ## Operations that wake nobody -/

theorem Queued.unstirred (queued : Queued t waits d) (same : Unstirred t u) : Queued u waits d where
  idle := (same.sleepers _).trans queued.idle
  placed := same.woken ▸ queued.placed
  waits := by rw [same.sleepers, same.woken, queued.waits]

theorem Rested.unstirred (rested : Rested t waits) (same : Unstirred t u)
    (lined : Lined u.account waits) : Rested u waits := by
  refine ⟨lined, fun capacity => ?_⟩
  obtain ⟨d, queued⟩ := rested.queued (same.capacity ▸ capacity)
  exact ⟨d, queued.unstirred same⟩

theorem Rested.apart (rested : Rested t waits) (apart : Apart t u) : Rested u waits := by
  obtain ⟨told, account, none⟩ := apart.told
  exact rested.unstirred apart.toUnstirred (account ▸ rested.lined.apart none)

/-- At rest the calls in line are asleep, and a new call is none of them. -/
theorem Rested.absent (rested : Rested t waits) (settled : t.woken = [])
    (fresh : ∀ d, ∀ w ∈ t.channel.sleepers d, w.ticket ≠ c.ticket)
    (capacity : 2 ≤ t.channel.ring.capacity) : c ∉ waits := by
  obtain ⟨d, queued⟩ := rested.queued capacity
  rw [queued.waits, settled, List.append_nil]
  exact fun asleep => fresh d c asleep rfl

/-- A call that comes back at once has not been in line. -/
theorem Rested.answered (rested : Rested t waits) (settled : t.woken = [])
    (fresh : ∀ d, ∀ w ∈ t.channel.sleepers d, w.ticket ≠ c.ticket) {result : CallResult}
    (vain : ∀ moved, result = .ok moved → c.request.isTrivial = true) (same : Unstirred t u)
    (account : u.account = t.account ++ [.ended c result]) : Rested u (waits.erase c) where
  lined := by
    rw [account]
    cases result with
    | error e => exact rested.lined.failed c e
    | ok moved =>
      refine rested.lined.succeeded (isNext_of_not_mem fun member => ?_) moved
      have nontrivial := rested.lined.nontrivial c member
      rw [vain moved rfl] at nontrivial
      contradiction
  queued capacity := by
    have large := same.capacity ▸ capacity
    obtain ⟨d, queued⟩ := rested.queued large
    rw [List.erase_of_not_mem (rested.absent settled fresh large)]
    exact ⟨d, queued.unstirred same⟩

/-- A call falls asleep because its direction is not ready; then nobody of the other side sleeps. -/
theorem Rested.slept (rested : Rested t waits) (attended : Attended t) (orderly : Orderly t)
    (settled : t.woken = []) (wellFormed : t.channel.ring.WellFormed)
    (fresh : ∀ d, ∀ w ∈ t.channel.sleepers d, w.ticket ≠ c.ticket) (fits : t.channel.Fits c)
    (unready : t.channel.ready c.direction = false) :
    Rested (t.sleep c) (lineAfter waits (.slept c)) where
  lined := rested.lined.slept fits.nontrivial
  queued capacity := by
    rw [ring_sleep] at capacity
    have other := c.direction.opposite_ne
    have idle : t.channel.sleepers c.direction.opposite = [] := by
      refine List.eq_nil_iff_forall_not_mem.mpr fun w asleep => ?_
      have ready := attended.ready_opposite orderly settled wellFormed capacity asleep
      rw [Direction.opposite_opposite, unready] at ready
      contradiction
    have whole : waits = t.channel.sleepers c.direction := by
      obtain ⟨d, queued⟩ := rested.queued capacity
      rw [queued.waits, settled, List.append_nil]
      by_cases own : d = c.direction
      · rw [own]
      · have opposite := Direction.eq_opposite_of_ne own
        have none := queued.idle
        rw [opposite, Direction.opposite_opposite] at none
        rw [opposite, idle, none]
    refine ⟨c.direction, ?_, ?_, ?_⟩
    · rw [sleepers_sleep, if_neg other, idle]
    · rw [woken_sleep, settled]
      exact nofun
    · rw [lineAfter, if_neg (rested.absent settled fresh capacity), sleepers_sleep, if_pos rfl,
        woken_sleep, settled, List.append_nil, whole]

/-! ## Transfers -/

/-- A transfer serves the first in line, if anybody waits on the other side. -/
theorem Rested.relieved {moved : Transferred} {told : List Notice} (rested : Rested t waits)
    (settled : t.woken = []) (fresh : ∀ d, ∀ w ∈ t.channel.sleepers d, w.ticket ≠ c.ticket)
    (capacity : 2 ≤ t.channel.ring.capacity) (done : u.woken = [])
    (account : u.account = t.account ++ told) (relief : t.channel.Relief c moved u.channel told) :
    ∃ after, Rested u after := by
  have absent := rested.absent settled fresh capacity
  obtain ⟨d, idle, placed, whole⟩ := rested.queued capacity
  rw [settled, List.append_nil] at whole
  have nobody : ∀ c ∈ u.woken, c.direction = d := by
    rw [done]
    exact nofun
  cases relief with
  | nobody wakers none same =>
    have lined := rested.lined.served (isNext_of_not_mem absent) moved wakers
    rw [← account, List.erase_of_not_mem absent] at lined
    refine ⟨waits, lined, fun _ => ⟨d, ?_, nobody, ?_⟩⟩
    · rw [same, idle]
    · rw [same, done, List.append_nil, whole]
  | next wakers others next rest got asleep left empty some =>
    have side : d = c.direction.opposite := by
      refine Direction.eq_opposite_of_ne fun own => ?_
      rw [own, asleep] at idle
      contradiction
    subst side
    rw [asleep] at whole
    subst whole
    have first := rested.lined.served (isNext_of_not_mem absent) moved wakers
    rw [List.erase_of_not_mem absent] at first
    have second := first.served (isNext_head next rest) got others
    rw [List.append_assoc, ← account, List.erase_cons_head] at second
    refine ⟨rest, second, fun _ => ⟨c.direction.opposite, ?_, nobody, ?_⟩⟩
    · rw [Direction.opposite_opposite, empty.2]
    · rw [left, done, List.append_nil]

/-! ## Interrupts -/

theorem woken_interrupt (t : Turn) (slot : Slot) :
    (t.interrupt slot).woken
      = t.woken ++ t.channel.sleepers .reading ++ t.channel.sleepers .writing := by
  rw [interrupt, woken_wakeAll, sleepers_wakeAll, if_neg (by decide), woken_wakeAll]
  rfl

/-- An interrupt wakes all that are in line. -/
theorem Rested.interrupt (rested : Rested t waits) (orderly : Orderly t) (settled : t.woken = [])
    (slot : Slot) : Roused (t.interrupt slot) waits where
  lined := by
    obtain ⟨wakers, account⟩ := account_interrupt t slot
    exact account ▸ rested.lined.woke wakers
  queued capacity := by
    rw [ring_interrupt] at capacity
    obtain ⟨d, idle, -, whole⟩ := rested.queued capacity
    rw [settled, List.append_nil] at whole
    have woken : (t.interrupt slot).woken = t.channel.sleepers d := by
      rw [woken_interrupt, settled]
      cases d with
      | reading => rw [show t.channel.sleepers .writing = [] from idle, List.append_nil]; rfl
      | writing => rw [show t.channel.sleepers .reading = [] from idle]; rfl
    refine ⟨d, ⟨sleepers_interrupt t slot _, ?_, ?_⟩, fun _ => sleepers_interrupt t slot d⟩
    · rw [woken]
      exact orderly.placed d
    · rw [sleepers_interrupt, woken, List.nil_append, whole]

/-- The next of the woken calls, taken off them to run. -/
structure UpNext (t : Turn) (waits : List Call) (c : Call) : Prop where
  lined : Lined t.account waits
  absent : ∀ d, c ∉ t.channel.sleepers d
  idle : 2 ≤ t.channel.ring.capacity → t.channel.sleepers c.direction.opposite = []
  placed : 2 ≤ t.channel.ring.capacity → ∀ w ∈ t.woken, w.direction = c.direction
  waits : 2 ≤ t.channel.ring.capacity → waits = t.channel.sleepers c.direction ++ c :: t.woken
  unready : 2 ≤ t.channel.ring.capacity → t.channel.ready c.direction = true →
    t.channel.sleepers c.direction = []

theorem Roused.upNext (roused : Roused t waits) {rest : List Call} (woken : t.woken = c :: rest)
    (fresh : ∀ w ∈ waiting { t with woken := rest }, w.ticket ≠ c.ticket) :
    UpNext { t with woken := rest } waits c := by
  have side (capacity : 2 ≤ t.channel.ring.capacity) :
      Queued t waits c.direction ∧
        (t.channel.ready c.direction = true → t.channel.sleepers c.direction = []) := by
    obtain ⟨d, queued, unready⟩ := roused.queued capacity
    obtain rfl : c.direction = d := queued.placed c (woken ▸ List.mem_cons_self)
    exact ⟨queued, unready⟩
  refine ⟨roused.lined, fun d asleep => ?_, fun large => (side large).1.idle, fun large w later => ?_,
    fun large => ?_, fun large => (side large).2⟩
  · exact fresh c (mem_waiting.mpr (.inl ⟨d, asleep⟩)) rfl
  · exact (side large).1.placed w (woken ▸ List.mem_cons_of_mem c later)
  · rw [(side large).1.waits, woken]

theorem UpNext.cutShort (upNext : UpNext t waits c) : Roused (t.cutShort c) (waits.erase c) where
  lined := upNext.lined.failed c .interrupted
  queued large := by
    refine ⟨c.direction, ⟨?_, upNext.placed large, ?_⟩, fun ready => ?_⟩
    · rw [sleepers_cutShort, upNext.idle large]
    · rw [sleepers_cutShort, upNext.waits large, erase_middle (upNext.absent _)]
      rfl
    · rw [sleepers_cutShort, upNext.unready large ready]

/-- A wake-up for a direction that is ready finds nobody asleep. -/
theorem Roused.wakeOne (roused : Roused t waits) (ready : t.channel.ready d = true) :
    Roused (t.wakeOne d) waits where
  lined := by
    obtain ⟨wakers, account⟩ := account_wakeOne t d
    exact account ▸ roused.lined.woke wakers
  queued capacity := by
    rw [ring_wakeOne] at capacity
    obtain ⟨e, queued, unready⟩ := roused.queued capacity
    have none : t.channel.sleepers d = [] := by
      by_cases own : d = e
      · exact own ▸ unready (own ▸ ready)
      · exact Direction.eq_opposite_of_ne own ▸ queued.idle
    have same (e : Direction) : (t.wakeOne d).channel.sleepers e = t.channel.sleepers e := by
      rw [sleepers_wakeOne]
      split
      · rename_i own
        rw [own, none, List.tail_nil]
      · rfl
    have woken : (t.wakeOne d).woken = t.woken := by
      rw [woken_wakeOne, none, List.take_nil, List.append_nil]
    refine ⟨e, queued.unstirred ⟨by rw [ring_wakeOne], same, woken⟩, fun ready => ?_⟩
    rw [Channel.ready_congr (ring_wakeOne t d)] at ready
    rw [same, unready ready]

theorem UpNext.transfer (upNext : UpNext t waits c) (wellFormed : t.channel.ring.WellFormed)
    (ready : t.channel.ready c.direction = true) : Roused (t.transfer c).1 t.woken := by
  have large := Channel.capacity_of_ready wellFormed ready
  have none := upNext.unready large ready
  have idle := upNext.idle large
  have whole := upNext.waits large
  rw [none, List.nil_append] at whole
  have same (d : Direction) : (t.transfer c).1.channel.sleepers d = [] := by
    rw [sleepers_transfer, idle, List.tail_nil]
    split
    · rfl
    · rename_i other
      rw [Direction.eq_opposite_of_ne other, Direction.opposite_opposite, none]
  have woken : (t.transfer c).1.woken = t.woken := by
    rw [woken_transfer, idle, List.take_nil, List.append_nil]
  obtain ⟨wakers, account⟩ := account_transfer t c
  refine ⟨?_, fun _ => ⟨c.direction, ⟨same _, ?_, ?_⟩, fun _ => same _⟩⟩
  · have served := upNext.lined.served (whole ▸ isNext_head c t.woken)
      (t.channel.ring.serve c.request).1 wakers
    rw [← account, whole, List.erase_cons_head] at served
    exact served
  · rw [woken]
    exact upNext.placed large
  · rw [same, woken, List.nil_append]

theorem UpNext.sleep (upNext : UpNext t waits c) (nontrivial : c.request.isTrivial = false)
    (unready : t.channel.ready c.direction = false) :
    Roused (t.sleep c) (lineAfter waits (.slept c)) where
  lined := upNext.lined.slept nontrivial
  queued large := by
    rw [ring_sleep] at large
    have whole := upNext.waits large
    have member : c ∈ waits := by
      rw [whole]
      exact List.mem_append_right _ List.mem_cons_self
    refine ⟨c.direction, ⟨?_, upNext.placed large, ?_⟩, fun ready => ?_⟩
    · rw [sleepers_sleep, if_neg c.direction.opposite_ne, upNext.idle large]
    · rw [lineAfter, if_pos member, sleepers_sleep, if_pos rfl, woken_sleep, whole,
        List.append_assoc]
      rfl
    · rw [Channel.ready_congr (ring_sleep t c), unready] at ready
      contradiction

/-- The woken calls run one after the other, and the line goes on in its order. -/
theorem Roused.runNext (roused : Roused t waits) (orderly : Orderly t)
    (wellFormed : t.channel.ring.WellFormed) : ∃ after, Roused t.runNext after := by
  unfold Turn.runNext
  split
  · exact ⟨waits, roused⟩
  · rename_i c rest woken
    obtain ⟨-, fits, fresh⟩ := orderly.take (show t.woken = [] ++ c :: rest from woken)
    have upNext := roused.upNext woken fresh
    have ran := ran_resume (t := { t with woken := rest }) fits
    generalize resume { t with woken := rest } c = u at ran
    cases ran with
    | interrupted unready => exact ⟨_, upNext.cutShort⟩
    | passedOn ready => exact ⟨_, upNext.cutShort.wakeOne ready⟩
    | moved fits ready => exact ⟨_, upNext.transfer wellFormed ready⟩
    | slept fits unready => exact ⟨_, upNext.sleep fits.nontrivial unready⟩

end Turn

/-! ## Whole operations -/

namespace Life

open Turn

variable {memory : Memory} {peak : Nat} {op : Operation} {t : Turn} {waits : List Call}

theorem settle_roused (life : Life memory peak t) (few : peak < 2 ^ 32) (roused : Roused t waits) :
    ∃ after, Rested t.settle after := by
  have settles := settle_induction (t := t)
    (P := fun u => Life memory peak u ∧ ∃ after, Roused u after) ⟨life, waits, roused⟩ ?_
  · obtain ⟨-, after, settled⟩ := settles
    refine ⟨after, settled.lined, fun capacity => ?_⟩
    obtain ⟨d, queued, -⟩ := settled.queued capacity
    exact ⟨d, queued⟩
  · rintro u ⟨alive, between, roused⟩ -
    exact ⟨alive.runNext, roused.runNext alive.orderly (alive.counted few).wellFormed⟩

/-- Whatever operation comes, with all that it wakes, the calls in line are served in its order. -/
theorem rested_settle (life : Life memory peak t) (few : peak < 2 ^ 32)
    (later : (op.apply memory t).1.channel.openUses < 2 ^ 32) (settled : t.woken = [])
    (fresh : op.Fresh t.channel) (rested : Rested t waits) :
    ∃ after, Rested (op.apply memory t).1.settle after := by
  have orderly := life.orderly
  have wellFormed := (life.counted few).wellFormed
  have after := life.operated op settled fresh
  by_cases quiet : ∀ slot, op ≠ .interrupt slot
  · cases called : op.call? with
    | none =>
      have apart := apart_apply memory t called quiet
      rw [settle_of_settled (apart.woken.trans settled)]
      exact ⟨waits, rested.apart apart⟩
    | some c =>
      have new := fresh c called
      have treated := treated_apply memory t called
      have done := woken_settle (op.apply memory t).1
      generalize op.apply memory t = result at treated done
      cases treated with
      | refused =>
        rw [settle_of_settled settled]
        exact ⟨waits, rested⟩
      | answered result vain same account =>
        rw [settle_of_settled (same.woken.trans settled)]
        exact ⟨_, rested.answered settled new (fun moved told => (vain moved told).2) same account⟩
      | slept fits unready =>
        have nobody : (t.sleep c).woken = [] := settled
        rw [settle_of_settled nobody]
        exact ⟨_, rested.slept (life.attended few) orderly settled wellFormed new fits unready⟩
      | moved fits ready =>
        obtain ⟨told, account, relief⟩ := life.relief_transfer few settled fits ready
        have capacity := Channel.capacity_of_ready wellFormed ready
        exact rested.relieved settled new capacity done account relief
  · obtain ⟨slot, made⟩ := not_forall.mp quiet
    obtain rfl := not_not.mp made
    exact after.settle_roused (Nat.max_lt.mpr ⟨few, later⟩) (rested.interrupt orderly settled slot)

end Life

end BytePipe
