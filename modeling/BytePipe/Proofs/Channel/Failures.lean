import BytePipe.Proofs.Channel.Endings
import BytePipe.Proofs.Channel.Signals
import BytePipe.Proofs.Channel.Wakeups

/-!
What operations and calls leave behind that come to nothing: they fail, or transfer no byte. An
operation of that kind leaves its channel as it was, but for the signal that an interrupted call
takes (`Vain`). A woken call either moves bytes or only goes back to sleep or comes back interrupted
(`Fruitless`); then neither ring, counts nor subscriptions differ, and no waker has been registered
(`Channel.Spared`).

That a call moves bytes whenever its direction is ready rests on the positions of the ring being
inside its capacity, in every life and whatever the open counts are (`Life.inside`).
-/
namespace BytePipe

namespace Ring

variable {r : Ring} {request : Request}

/-- Both positions are inside the capacity, whether there is storage or not. -/
structure Inside (r : Ring) : Prop where
  readPos_lt : r.readPos < r.capacity
  writePos_lt : r.writePos < r.capacity

/-- With storage that is fully written the ring is well-formed; the lengths of its runs do not
depend on the storage. -/
theorem Inside.filled (inside : r.Inside) :
    WellFormed { r with storage := some (Array.replicate r.capacity 0) } where
  capacity_pos := Nat.lt_of_le_of_lt (Nat.zero_le _) inside.readPos_lt
  readPos_lt := inside.readPos_lt
  writePos_lt := inside.writePos_lt
  released gone := by contradiction
  written cells stored := by
    obtain rfl := Option.some.inj stored
    rw [Array.size_replicate]
    exact ⟨Nat.le_of_lt inside.writePos_lt, Nat.le_refl _⟩

theorem inside_empty {capacity : Nat} (positive : 0 < capacity) : (empty capacity).Inside :=
  ⟨positive, positive⟩

theorem Inside.allocate {memory : Memory} {after : Ring} (inside : r.Inside)
    (granted : r.allocate memory = .ok after) : after.Inside := by
  have positive := inside.filled.capacity_pos
  rw [allocate_eq_ok granted]
  exact ⟨positive, positive⟩

theorem Inside.serve (inside : r.Inside) (request : Request) : (r.serve request).2.Inside := by
  have positive := inside.filled.capacity_pos
  cases request with
  | read length => exact ⟨Nat.mod_lt _ positive, inside.writePos_lt⟩
  | write data => exact ⟨inside.readPos_lt, Nat.mod_lt _ positive⟩

end Ring

/-- A call that has something to move and a direction that is ready moves bytes. -/
theorem Channel.size_serve {ch : Channel} {c : Call} (inside : ch.ring.Inside)
    (nontrivial : c.request.isTrivial = false) (ready : ch.ready c.direction = true) :
    (ch.ring.serve c.request).1.size ≠ 0 := by
  obtain ⟨ticket, slot, request⟩ := c
  cases request with
  | read n =>
    have some : n ≠ 0 := by simpa [Request.isTrivial] using nontrivial
    have nonempty : ch.ring.isEmpty = false := Channel.isEmpty_of_ready ready
    obtain ⟨-, run, -⟩ := Ring.readableRun_le_used inside.filled nonempty
    change 0 < ch.ring.readableRun at run
    change (ch.ring.take n).1.length ≠ 0
    rw [Ring.take_count]
    omega
  | write data =>
    have some : data ≠ [] := by simpa [Request.isTrivial] using nontrivial
    have length : 0 < data.length := List.length_pos_iff.mpr some
    have room := Ring.room_pos inside.filled (of_decide_eq_true ready)
    change 0 < ch.ring.room at room
    change (ch.ring.put data).1 ≠ 0
    rw [Ring.put_count]
    omega

namespace Channel

/-- No difference in what is stored, counted, open or published, and no observer is new. -/
structure Spared (ch after : Channel) : Prop where
  ring : after.ring = ch.ring
  readers : after.readers = ch.readers
  writers : after.writers = ch.writers
  roster : after.roster = ch.roster
  feeds : after.feeds = ch.feeds
  observers : ∀ d, ∀ w ∈ (after.queue d).observers, w ∈ (ch.queue d).observers

theorem Spared.trans {ch between after : Channel} (first : ch.Spared between)
    (second : between.Spared after) : ch.Spared after where
  ring := second.ring.trans first.ring
  readers := second.readers.trans first.readers
  writers := second.writers.trans first.writers
  roster := second.roster.trans first.roster
  feeds := second.feeds.trans first.feeds
  observers d w registered := first.observers d w (second.observers d w registered)

theorem spared_setQueue (ch : Channel) {q : WaitQueue} {d : Direction}
    (fewer : ∀ w ∈ q.observers, w ∈ (ch.queue d).observers) : ch.Spared (ch.setQueue q d) where
  ring := ring_setQueue ch q d
  readers := readers_setQueue ch q d
  writers := writers_setQueue ch q d
  roster := roster_setQueue ch q d
  feeds := by cases d <;> rfl
  observers e w registered := by
    cases d <;> cases e <;> first | exact registered | exact fewer w registered

theorem spared_setSignal (ch : Channel) (slot : Slot) (signal : Bool) :
    ch.Spared (ch.setSignal slot signal) :=
  ⟨rfl, rfl, rfl, ch.roster_modify slot _ (fun _ => rfl) fun _ => rfl, rfl,
    fun d w registered => by cases d <;> exact registered⟩

end Channel

/-- Nothing has come of an operation, or not yet: it has failed or transferred no byte, or its call
sleeps. -/
def Outcome.isVain : Outcome → Bool
  | .failed _ => true
  | .transferred moved => moved.size == 0
  | .asleep => true
  | _ => false

namespace Turn

variable {memory : Memory} {op : Operation} {t u : Turn} {c : Call}

/-! ## Positions -/

theorem ring_transfer (t : Turn) (c : Call) :
    (t.transfer c).1.channel.ring = (t.channel.ring.serve c.request).2 := by
  rw [(alike_transfer t c).ring, moving, ring_wakeOne, ring_served]

/-- A call that runs leaves the ring as it is or is served from it. -/
theorem ring_ran (ran : Ran t c u) :
    u.channel.ring = t.channel.ring ∨ u.channel.ring = (t.channel.ring.serve c.request).2 := by
  cases ran with
  | interrupted unready => exact .inl rfl
  | passedOn ready => exact .inl (ring_wakeOne _ _)
  | moved fits ready => exact .inr (ring_transfer t c)
  | slept fits unready => exact .inl (ring_sleep t c)

theorem inside_ran (inside : t.channel.ring.Inside) (ran : Ran t c u) :
    u.channel.ring.Inside := by
  rcases ring_ran ran with same | served
  · exact same ▸ inside
  · exact served ▸ inside.serve c.request

theorem inside_applied (inside : t.channel.ring.Inside) (applied : Applied memory t op u) :
    u.channel.ring.Inside := by
  cases applied with
  | alike alike => exact alike.ring ▸ inside
  | joined mode nonBlocking opens allocated => exact inside
  | allocated mode nonBlocking ring opens unallocated granted => exact inside.allocate granted
  | ended slot s found idle =>
    unfold releaseCounts
    dsimp only
    split
    · exact Ring.inside_empty inside.filled.capacity_pos
    · exact inside
  | arrived c called arrived =>
    cases arrived with
    | refused => exact inside
    | failed e => exact inside
    | answered trivial => exact inside
    | ran ran => exact inside_ran inside ran
  | signalled slot =>
    rw [interrupt, ring_wakeAll, ring_wakeAll]
    exact inside

end Turn

theorem Life.inside {peak : Nat} {memory : Memory} {t : Turn} (life : Life memory peak t) :
    t.channel.ring.Inside := by
  induction life with
  | created name capacity positive => exact Ring.inside_empty positive
  | operated op before settled fresh ih =>
    exact Turn.inside_applied ih (Turn.applied_apply memory _ op)
  | @ran peak t earlier c later before woken ih =>
    obtain ⟨-, fits, -⟩ := before.orderly.take woken
    exact Turn.inside_ran (t := { t with woken := earlier ++ later }) ih (Turn.ran_resume fits)

namespace Turn

variable {memory : Memory} {op : Operation} {t u : Turn} {c : Call}

/-! ## Operations -/

/-- What an operation does that comes to nothing: at most it tells so. A call that must sleep takes
the signal that it comes back with, or goes to the end of its queue. -/
inductive Vain (t : Turn) (op : Operation) : Turn × Outcome → Prop where
  | unopened (e : ChannelError) (other : e ≠ .interrupted) : Vain t op (t, .failed e)
  | told (c : Call) (made : op.call? = some c) (result : CallResult)
    (other : result ≠ .error .interrupted) :
    Vain t op (t.record [.ended c result], .ofProgress (.ended result))
  | cutShort (c : Call) (made : op = .call c) (must : t.channel.MustSleep c)
    (pending : t.channel.hasSignal c.slot = true) :
    Vain t op (t.cutShort c, .failed .interrupted)
  | slept (c : Call) (made : op = .call c) (must : t.channel.MustSleep c)
    (silent : t.channel.hasSignal c.slot = false) : Vain t op (t.sleep c, .asleep)

theorem Vain.woken {outcome : Outcome} (vain : Vain t op (u, outcome)) : u.woken = t.woken := by
  cases vain <;> rfl

theorem progress_transfer_eq (t : Turn) (c : Call) :
    (t.transfer c).2 = .ended (.ok (t.channel.ring.serve c.request).1) := by
  obtain ⟨ticket, slot, request⟩ := c
  cases request <;> rfl

theorem vain_of_call? (inside : t.channel.ring.Inside) (called : op.call? = some c)
    (vain : (op.apply memory t).2.isVain = true) : Vain t op (op.apply memory t) := by
  obtain ⟨mayBlock, same, blocking⟩ := apply_of_call? memory t called
  rw [same] at vain ⊢
  have verdict := verdict_arrive t c mayBlock
  generalize t.arrive c mayBlock = result at verdict vain
  cases verdict with
  | refused closed => contradiction
  | denied s found forbidden => exact .told c called _ fun same => by cases same
  | answered s found permitted trivial => exact .told c called _ fun same => by cases same
  | moved fits ready =>
    rw [progress_transfer_eq] at vain
    exact absurd (eq_of_beq vain) (Channel.size_serve inside fits.nontrivial ready)
  | turnedAway fits unready impatient => exact .told c called _ fun same => by cases same
  | cutShort fits unready blocks pending =>
    obtain ⟨made, patient⟩ := blocking blocks
    exact .cutShort c made (mustSleep_of_fits fits patient unready) pending
  | slept fits unready blocks silent =>
    obtain ⟨made, patient⟩ := blocking blocks
    exact .slept c made (mustSleep_of_fits fits patient unready) silent

theorem vain_apply (inside : t.channel.ring.Inside)
    (vain : (op.apply memory t).2.isVain = true) : Vain t op (op.apply memory t) := by
  cases op with
  | call c => exact vain_of_call? inside rfl vain
  | tryCall c => exact vain_of_call? inside rfl vain
  | openSession mode nonBlocking =>
    simp only [Operation.apply] at *
    split at vain <;> rename_i done
    · contradiction
    · obtain ⟨rfl, rfl⟩ := openSession_error done
      exact .unopened _ fun same => by cases same
  | closeSession slot =>
    simp only [Operation.apply] at vain
    split at vain <;> contradiction
  | dropSession slot =>
    simp only [Operation.apply] at vain
    split at vain <;> contradiction
  | poll slot waker =>
    simp only [Operation.apply] at vain
    split at vain <;> contradiction
  | setNonBlocking slot nonBlocking => contradiction
  | interrupt slot => contradiction
  | subscribe => contradiction
  | unsubscribe feed => contradiction
  | receive feed => contradiction

/-- An operation that comes to nothing wakes nobody. -/
theorem perform_vain {ch : Channel} (inside : ch.ring.Inside)
    (vain : (ch.perform memory op).2.1.isVain = true) :
    ∃ u, Vain (start ch) op (u, (ch.perform memory op).2.1) ∧
      ch.perform memory op = (u.channel, (ch.perform memory op).2.1, u.account) := by
  have still := vain_apply (t := start ch) inside vain
  exact ⟨_, still, Channel.perform_of_settled still.woken⟩

/-- A transfer of no byte is one that was asked for none. -/
theorem transfers_none_iff {ch : Channel} (inside : ch.ring.Inside)
    (called : op.call? = some c) :
    (∃ moved, (ch.perform memory op).2.1 = .transferred moved ∧ moved.size = 0) ↔
      c.request.isTrivial = true ∧
        ∃ s, ch.openSession? c.slot = some s ∧ s.mode.permits c.direction = true := by
  obtain ⟨mayBlock, same, -⟩ := apply_of_call? memory (start ch) called
  have outcome : (ch.perform memory op).2.1 = .ofProgress ((start ch).arrive c mayBlock).2 :=
    congrArg Prod.snd same
  rw [outcome]
  have verdict := verdict_arrive (start ch) c mayBlock
  generalize (start ch).arrive c mayBlock = result at verdict
  have waits (fits : ch.Fits c) : ¬ (c.request.isTrivial = true ∧
      ∃ s, ch.openSession? c.slot = some s ∧ s.mode.permits c.direction = true) := by
    rintro ⟨trivial, -⟩
    rw [fits.nontrivial] at trivial
    contradiction
  constructor
  · rintro ⟨moved, transferred, none⟩
    cases verdict with
    | answered s found permitted trivial => exact ⟨trivial, s, found, permitted⟩
    | moved fits ready =>
      rw [progress_transfer_eq] at transferred
      cases transferred
      exact absurd none (Channel.size_serve inside fits.nontrivial ready)
    | _ => cases transferred
  · intro asked
    cases verdict with
    | refused closed =>
      obtain ⟨-, s, found, -⟩ := asked
      exact absurd (found.symm.trans closed) (Option.some_ne_none s)
    | denied s found forbidden =>
      obtain ⟨-, other, same, permits⟩ := asked
      cases found.symm.trans same
      rw [forbidden] at permits
      contradiction
    | answered s found permitted trivial =>
      refine ⟨c.request.trivialAnswer, rfl, ?_⟩
      cases c.request <;> rfl
    | moved fits ready => exact absurd asked (waits fits)
    | turnedAway fits unready impatient => exact absurd asked (waits fits)
    | cutShort fits unready blocks pending => exact absurd asked (waits fits)
    | slept fits unready blocks silent => exact absurd asked (waits fits)

/-! ## Woken calls -/

/-- What a woken call does that moves no byte. One that is interrupted though its direction is ready
passes its wake-up on to the next sleeper of its queue. -/
inductive Fruitless (t : Turn) (c : Call) : Turn → Prop where
  | slept (silent : t.channel.hasSignal c.slot = false)
    (unready : t.channel.ready c.direction = false) : Fruitless t c (t.sleep c)
  | interrupted (pending : t.channel.hasSignal c.slot = true)
    (unready : t.channel.ready c.direction = false) : Fruitless t c (t.cutShort c)
  | passedOn (pending : t.channel.hasSignal c.slot = true)
    (ready : t.channel.ready c.direction = true) :
    Fruitless t c ((t.cutShort c).wakeOne c.direction)

theorem Fruitless.spared (fruitless : Fruitless t c u) : t.channel.Spared u.channel := by
  have short : t.channel.Spared (t.cutShort c).channel := t.channel.spared_setSignal c.slot false
  cases fruitless with
  | slept silent unready => exact t.channel.spared_setQueue fun w registered => registered
  | interrupted pending unready => exact short
  | passedOn pending ready =>
    exact short.trans (Channel.spared_setQueue _ fun w none => absurd none List.not_mem_nil)

/-- A woken call that comes back with bytes has moved some. -/
theorem moves_or_fruitless (inside : t.channel.ring.Inside) (fits : t.channel.Fits c) :
    (∃ moved told, moved.size ≠ 0 ∧
      (t.resume c).account = t.account ++ .ended c (.ok moved) :: told) ∨
    Fruitless t c (t.resume c) := by
  cases signal : t.channel.hasSignal c.slot with
  | true =>
    rw [resume_of_signal signal]
    split
    · rename_i ready
      exact .inr (.passedOn signal ready)
    · rename_i unready
      exact .inr (.interrupted signal (by simpa using unready))
  | false =>
    rw [resume, signal, if_neg Bool.false_ne_true]
    split
    · rename_i ready
      obtain ⟨wakers, woke⟩ := account_wakeOne (t.served c) c.direction.opposite
      refine .inl ⟨_, wakers.map .woke, Channel.size_serve inside fits.nontrivial ready, ?_⟩
      rw [(alike_transfer t c).account, moving, woke, account_served, List.append_assoc]
      rfl
    · rename_i unready
      exact .inr (.slept signal (by simpa using unready))

end Turn

end BytePipe
