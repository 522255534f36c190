import BytePipe.Proofs.Channel.Line
import BytePipe.Proofs.Channel.Registrations

/-!
What an interrupt disturbs. It wakes everybody, and all but one of them go back to where they slept,
provided that none of them could go on anyway: the woken calls run in the order of their queues, and
each is either the first to find the signal or falls asleep again (`Turn.settle_lull`). So in the end
one call is gone, or none, and the observers are (`interrupt_disturbs_only_its_target`).
-/
namespace BytePipe

namespace Channel

/-- No sleeping call can go on: the ring is empty for a sleeping reader and full for a writer. -/
def Stuck (ch : Channel) : Prop :=
  ∀ d, ∀ c ∈ ch.sleepers d, ch.ready d = false

theorem Stuck.of_unready {ch : Channel}
    (unready : ∀ d, ch.sleepers d = [] ∨ ch.ready d = false) : ch.Stuck := fun d c asleep => by
  rcases unready d with none | never
  · rw [none] at asleep
    contradiction
  · exact never

/-- The sleeping calls, readers before writers. -/
def queued (ch : Channel) : List Call :=
  ch.sleepers .reading ++ ch.sleepers .writing

/-- The sleeping call that an interrupt of the session at the slot ends: the earliest of the
session's, readers before writers. -/
def target? (ch : Channel) (slot : Slot) : Option Call :=
  ch.queued.find? (·.slot == slot)

/-- The calls of a direction that are still asleep after an interrupt of the session at the slot. -/
def leftAsleep (ch : Channel) (slot : Slot) (d : Direction) : List Call :=
  match ch.target? slot with
  | none => ch.sleepers d
  | some c => (ch.sleepers d).erase c

/-- The channel that an interrupt of the session at the slot leaves behind. -/
def interrupted (ch : Channel) (slot : Slot) : Channel :=
  { ch with
    sessions := (ch.setSignal slot (ch.target? slot).isNone).sessions
    readQueue := ⟨ch.leftAsleep slot .reading, []⟩
    writeQueue := ⟨ch.leftAsleep slot .writing, []⟩ }

/-- What is told of a sleeping call when the session at the slot is interrupted. -/
def rousing (ch : Channel) (slot : Slot) (c : Call) : Notice :=
  if ch.target? slot = some c then .ended c (.error .interrupted) else .slept c

theorem isSome_target? (ch : Channel) (slot : Slot) :
    (ch.target? slot).isSome = ch.isWaiting slot :=
  List.isSome_find?

/-- While each call sleeps in the queue of its direction, the queues can be told from one list. -/
theorem filter_queued {ch : Channel} (placed : ∀ d, ∀ c ∈ ch.sleepers d, c.direction = d)
    (d : Direction) : ch.queued.filter (·.direction = d) = ch.sleepers d := by
  have own (e : Direction) (same : e = d) :
      (ch.sleepers e).filter (·.direction = d) = ch.sleepers e :=
    List.filter_eq_self.mpr fun c asleep => by simpa [same] using placed e c asleep
  have other (e : Direction) (ne : e ≠ d) : (ch.sleepers e).filter (·.direction = d) = [] :=
    List.filter_eq_nil_iff.mpr fun c asleep => by simpa [placed e c asleep] using ne
  rw [queued, List.filter_append]
  cases d with
  | reading => rw [own .reading rfl, other .writing (by decide), List.append_nil]
  | writing => rw [other .reading (by decide), own .writing rfl, List.nil_append]

/-- The channel with calls at the end of their queues. -/
def requeue (ch : Channel) (calls : List Call) : Channel :=
  { ch with
    readQueue := ⟨ch.readQueue.sleepers ++ calls.filter (·.direction = .reading),
      ch.readQueue.observers⟩
    writeQueue := ⟨ch.writeQueue.sleepers ++ calls.filter (·.direction = .writing),
      ch.writeQueue.observers⟩ }

theorem requeue_cons (ch : Channel) (c : Call) (calls : List Call) :
    (ch.setQueue ((ch.queue c.direction).enqueue c) c.direction).requeue calls
      = ch.requeue (c :: calls) := by
  cases side : c.direction <;>
    simp [requeue, setQueue, queue, WaitQueue.enqueue, side]

theorem requeue_nil (ch : Channel) : ch.requeue [] = ch := by
  simp [requeue]

end Channel

namespace Turn

variable {memory : Memory} {peak : Nat} {t : Turn} {c : Call} {slot : Slot} {calls later : List Call}

/-! ## Settling, one run at a time -/

/-- Settling comes out the same with any fuel that is enough. -/
theorem runWoken_of_enough {fuel more : Nat} (enough : t.pendingRuns ≤ fuel)
    (also : t.pendingRuns ≤ more) : t.runWoken fuel = t.runWoken more := by
  induction fuel generalizing t more with
  | zero =>
    have none : t.woken = [] := woken_runWoken 0 t enough
    rw [runWoken_of_settled none, runWoken_of_settled none]
  | succ fuel ih =>
    by_cases none : t.woken = []
    · rw [runWoken_of_settled none, runWoken_of_settled none]
    · have fewer := t.pendingRuns_runNext none
      obtain ⟨rest, rfl⟩ : ∃ rest, more = rest + 1 := ⟨more - 1, by omega⟩
      have some : t.woken.isEmpty = false := by simpa using none
      rw [runWoken, runWoken, some, if_neg Bool.false_ne_true, if_neg Bool.false_ne_true]
      exact ih (by omega) (by omega)

/-- To settle is to run the first woken call and then settle. -/
theorem settle_cons (woken : t.woken = c :: later) :
    t.settle = (resume { t with woken := later } c).settle := by
  have some : t.woken ≠ [] := by rw [woken]; exact List.cons_ne_nil _ _
  have fewer := t.pendingRuns_runNext some
  have next : t.runNext = resume { t with woken := later } c := by rw [runNext, woken]
  obtain ⟨fuel, runs⟩ : ∃ fuel, t.pendingRuns = fuel + 1 := ⟨t.pendingRuns - 1, by omega⟩
  have busy : t.woken.isEmpty = false := by simpa using some
  rw [settle, runs, runWoken, busy, if_neg Bool.false_ne_true, next, settle]
  rw [next] at fewer
  exact runWoken_of_enough (by omega) (Nat.le_refl _)

/-! ## Calls that go back to sleep -/

/-- Calls go back to sleep, one after the other. -/
def lull (t : Turn) (calls : List Call) : Turn :=
  { t with
    channel := t.channel.requeue calls
    account := t.account ++ calls.map .slept }

theorem lull_nil (t : Turn) : t.lull [] = t := by
  simp [lull, Channel.requeue_nil]

theorem lull_cons (t : Turn) (c : Call) (calls : List Call) :
    t.lull (c :: calls) = (t.sleep c).lull calls := by
  simp [lull, sleep, mapChannel, record, Channel.requeue_cons]

theorem resume_of_stuck (silent : t.channel.hasSignal c.slot = false)
    (unready : t.channel.ready c.direction = false) : t.resume c = t.sleep c := by
  rw [resume, silent, unready, if_neg Bool.false_ne_true, if_neg Bool.false_ne_true]

/-- Woken calls that find no signal and cannot go on fall asleep again in their order. -/
theorem settle_lull (woken : t.woken = calls ++ later)
    (silent : ∀ c ∈ calls, t.channel.hasSignal c.slot = false)
    (unready : ∀ c ∈ calls, t.channel.ready c.direction = false) :
    t.settle = (lull { t with woken := later } calls).settle := by
  induction calls generalizing t with
  | nil =>
    rw [lull_nil, ← List.nil_append later, ← woken]
  | cons c calls ih =>
    have slept : resume { t with woken := calls ++ later } c
        = sleep { t with woken := calls ++ later } c :=
      resume_of_stuck (silent c List.mem_cons_self) (unready c List.mem_cons_self)
    have signals := (Aside.sleep { t with woken := calls ++ later } c).signals
    have first : t.woken = c :: (calls ++ later) := woken
    rw [settle_cons first, slept, lull_cons]
    refine ih rfl (fun w member => ?_) fun w member => ?_
    · rw [signals]
      exact silent w (List.mem_cons_of_mem c member)
    · rw [Channel.ready_congr (ring_sleep _ c)]
      exact unready w (List.mem_cons_of_mem c member)

/-- If all woken calls fall asleep again, nothing else happens. -/
theorem settle_lull_all (silent : ∀ c ∈ t.woken, t.channel.hasSignal c.slot = false)
    (unready : ∀ c ∈ t.woken, t.channel.ready c.direction = false) :
    t.settle = lull { t with woken := [] } t.woken := by
  rw [settle_lull (List.append_nil t.woken).symm silent unready]
  exact settle_of_settled rfl

/-- Woken calls that cannot go on fall asleep again, but for the first that finds a signal. -/
theorem settle_cutShort {earlier : List Call} (woken : t.woken = earlier ++ c :: later)
    (silent : ∀ w ∈ earlier, t.channel.hasSignal w.slot = false)
    (pending : t.channel.hasSignal c.slot = true)
    (others : ∀ w ∈ later, w.slot ≠ c.slot → t.channel.hasSignal w.slot = false)
    (unready : ∀ w ∈ t.woken, t.channel.ready w.direction = false) :
    t.settle = ((lull { t with woken := [] } earlier).cutShort c).lull later := by
  have stuck (w : Call) (member : w ∈ earlier ++ c :: later) :
      t.channel.ready w.direction = false := unready w (woken ▸ member)
  let lulled := lull { t with woken := c :: later } earlier
  have found : lulled.channel.hasSignal c.slot = true := pending
  have own : lulled.channel.ready c.direction = false :=
    stuck c (List.mem_append_right _ List.mem_cons_self)
  have cut : resume { lulled with woken := later } c = cutShort { lulled with woken := later } c := by
    rw [resume_of_signal (t := { lulled with woken := later }) found]
    simp only [own, if_neg Bool.false_ne_true]
  rw [settle_lull woken silent fun w member => stuck w (List.mem_append_left _ member),
    settle_cons (t := lulled) rfl, cut]
  refine settle_lull_all (fun w member => ?_) fun w member => ?_
  · rw [hasSignal_cutShort]
    by_cases same : w.slot = c.slot
    · simp [same]
    · have none : lulled.channel.hasSignal w.slot = false := others w member same
      rw [none, Bool.false_and]
  · exact stuck w (List.mem_append_right _ (List.mem_cons_of_mem c member))

/-! ## Settling after an interrupt -/

theorem account_interrupt_eq (t : Turn) (slot : Slot) :
    (t.interrupt slot).account = t.account ++ t.channel.readQueue.observers.map .woke
      ++ t.channel.writeQueue.observers.map .woke := rfl

theorem channel_interrupt (t : Turn) (slot : Slot) :
    (t.interrupt slot).channel = { t.channel with
      sessions := (t.channel.setSignal slot true).sessions
      readQueue := .empty
      writeQueue := .empty } := rfl

theorem woken_interrupt_of_settled (settled : t.woken = []) (slot : Slot) :
    (t.interrupt slot).woken = t.channel.queued := by
  rw [woken_interrupt, settled]
  rfl

theorem mem_queued (settled : t.woken = []) : c ∈ t.channel.queued ↔ c ∈ t.waiting := by
  rw [waiting, settled, List.append_nil]
  rfl

/-- Of the waiting calls, those of the session that is interrupted find a signal. -/
theorem hasSignal_interrupt (orderly : Orderly t) (calm : Calm t) (waits : c ∈ t.waiting)
    (slot : Slot) : (t.interrupt slot).channel.hasSignal c.slot = (c.slot == slot) := by
  rw [(aside_interrupt t slot).signals, channel_mapChannel]
  by_cases own : slot = c.slot
  · rw [own, Channel.hasSignal_setSignal_self, (orderly.fits c waits).listed, beq_self_eq_true]
    rfl
  · rw [Channel.hasSignal_setSignal_ne _ _ own, calm c waits]
    simpa using Ne.symm own

theorem Orderly.stuck_interrupt (orderly : Orderly t) (stuck : t.channel.Stuck)
    (queued : c ∈ t.channel.queued) (slot : Slot) :
    (t.interrupt slot).channel.ready c.direction = false := by
  rw [Channel.ready_congr (ring_interrupt t slot)]
  rcases List.mem_append.mp queued with reads | writes
  · exact orderly.placed _ c reads ▸ stuck _ c reads
  · exact orderly.placed _ c writes ▸ stuck _ c writes

/-- An interrupt of a session without sleeping calls only sends everybody back to sleep. -/
theorem settle_interrupt_of_idle (orderly : Orderly t) (settled : t.woken = []) (calm : Calm t)
    (stuck : t.channel.Stuck) (idle : t.channel.target? slot = none) :
    (t.interrupt slot).settle = lull { t.interrupt slot with woken := [] } t.channel.queued := by
  have woken := woken_interrupt_of_settled settled slot
  rw [settle_lull_all, woken]
  · intro c woke
    rw [woken] at woke
    rw [hasSignal_interrupt orderly calm ((mem_queued settled).mp woke)]
    simpa using List.find?_eq_none.mp idle c woke
  · intro c woke
    rw [woken] at woke
    exact orderly.stuck_interrupt stuck woke slot

/-- An interrupt sends everybody back to sleep but the earliest call of its session. -/
theorem settle_interrupt_of_target (orderly : Orderly t) (settled : t.woken = []) (calm : Calm t)
    (stuck : t.channel.Stuck) {earlier : List Call} (own : c.slot = slot)
    (queued : t.channel.queued = earlier ++ c :: later) (foreign : ∀ w ∈ earlier, w.slot ≠ slot) :
    (t.interrupt slot).settle
      = ((lull { t.interrupt slot with woken := [] } earlier).cutShort c).lull later := by
  have woken := woken_interrupt_of_settled settled slot
  have signals (w : Call) (member : w ∈ earlier ++ c :: later) :
      (t.interrupt slot).channel.hasSignal w.slot = (w.slot == slot) :=
    hasSignal_interrupt orderly calm ((mem_queued settled).mp (queued ▸ member)) slot
  refine settle_cutShort (woken.trans queued) (fun w member => ?_) ?_ (fun w member ne => ?_)
    fun w woke => ?_
  · rw [signals w (List.mem_append_left _ member)]
    simpa using foreign w member
  · rw [signals c (List.mem_append_right _ List.mem_cons_self)]
    simpa using own
  · rw [signals w (List.mem_append_right _ (List.mem_cons_of_mem c member))]
    simpa [own] using ne
  · exact orderly.stuck_interrupt stuck (woken ▸ woke) slot

/-! ## What is left behind -/

/-- The earliest call of a session splits the sleeping calls in two. -/
theorem target?_eq_some {ch : Channel} (found : ch.target? slot = some c) :
    c.slot = slot ∧ ∃ earlier later, ch.queued = earlier ++ c :: later ∧
      ∀ w ∈ earlier, w.slot ≠ slot := by
  obtain ⟨own, earlier, later, queued, foreign⟩ := List.find?_eq_some_iff_append.mp found
  exact ⟨by simpa using own, earlier, later, queued, fun w member => by simpa using foreign w member⟩

theorem erase_filter {earlier : List Call} (absent : c ∉ earlier) (d : Direction) :
    ((earlier ++ c :: later).filter (·.direction = d)).erase c
      = (earlier ++ later).filter (·.direction = d) := by
  have gone : c ∉ earlier.filter (·.direction = d) := fun kept =>
    absent (List.mem_filter.mp kept).1
  rw [List.filter_append, List.erase_append_right _ gone, List.filter_append, List.filter_cons]
  by_cases side : c.direction = d
  · simp [side]
  · have none : c ∉ later.filter (·.direction = d) := fun kept => by
      simp [side] at kept
    simp [side, List.erase_of_not_mem none]

theorem Orderly.nodup_queued (orderly : Orderly t) (settled : t.woken = []) :
    t.channel.queued.Nodup := by
  have distinct := orderly.distinct
  rw [waiting, settled, List.append_nil] at distinct
  exact List.Pairwise.of_map _ (fun a b other same => other (congrArg _ same)) distinct

theorem channel_settle_interrupt (orderly : Orderly t) (settled : t.woken = []) (calm : Calm t)
    (stuck : t.channel.Stuck) (slot : Slot) :
    (t.interrupt slot).settle.channel = t.channel.interrupted slot := by
  have filtered := Channel.filter_queued orderly.placed
  cases found : t.channel.target? slot with
  | none =>
    rw [settle_interrupt_of_idle orderly settled calm stuck found]
    simp only [lull, channel_interrupt, Channel.requeue, filtered, WaitQueue.empty, List.nil_append,
      Channel.interrupted, Channel.leftAsleep, found, Option.isNone_none]
  | some c =>
    obtain ⟨own, earlier, later, queued, foreign⟩ := target?_eq_some found
    have absent : c ∉ earlier := fun member => foreign c member own
    have left (d : Direction) : t.channel.leftAsleep slot d
        = (earlier ++ later).filter (·.direction = d) := by
      rw [Channel.leftAsleep, found, ← erase_filter absent d, ← queued, filtered]
    rw [settle_interrupt_of_target orderly settled calm stuck own queued foreign]
    simp only [lull, cutShort, channel_interrupt, channel_record, channel_mapChannel,
      Channel.requeue, Channel.setSignal, List.modify_modify_eq, WaitQueue.empty, List.nil_append,
      Channel.interrupted, left, found, own, Option.isNone_some, List.filter_append]
    rfl

theorem account_settle_interrupt (orderly : Orderly t) (settled : t.woken = []) (calm : Calm t)
    (stuck : t.channel.Stuck) (slot : Slot) :
    (t.interrupt slot).settle.account = t.account ++ t.channel.readQueue.observers.map .woke
      ++ t.channel.writeQueue.observers.map .woke ++ t.channel.queued.map (t.channel.rousing slot) := by
  rw [← account_interrupt_eq t slot]
  cases found : t.channel.target? slot with
  | none =>
    have lulled : t.channel.rousing slot = .slept := by
      funext c
      simp [Channel.rousing, found]
    rw [settle_interrupt_of_idle orderly settled calm stuck found, lulled]
    rfl
  | some c =>
    obtain ⟨own, earlier, later, queued, foreign⟩ := target?_eq_some found
    have cut : t.channel.rousing slot c = .ended c (.error .interrupted) := by
      rw [Channel.rousing, found, if_pos rfl]
    have others (calls : List Call) (absent : c ∉ calls) :
        calls.map (t.channel.rousing slot) = calls.map .slept := by
      refine List.map_congr_left fun w member => ?_
      rw [Channel.rousing, found, if_neg]
      rintro ⟨⟩
      exact absent member
    rw [settle_interrupt_of_target orderly settled calm stuck own queued foreign, queued,
      List.map_append, List.map_cons, cut, others earlier, others later]
    · simp only [lull, account_cutShort, List.append_assoc, List.singleton_append]
    · have nodup := orderly.nodup_queued settled
      rw [queued] at nodup
      exact (List.nodup_cons.mp (List.nodup_append.mp nodup).2.1).1
    · exact fun member => foreign c member own

end Turn

/-! ## The theorem -/

/-- The calls that have come back, and how. -/
def endings (account : List Notice) : List (Call × CallResult) :=
  account.filterMap fun
    | .ended c result => some (c, result)
    | _ => none

theorem endings_append (account notices : List Notice) :
    endings (account ++ notices) = endings account ++ endings notices :=
  List.filterMap_append

theorem endings_woke (wakers : List Waker) : endings (wakers.map .woke) = [] := by
  rw [endings, List.filterMap_eq_nil_iff]
  intro n told
  obtain ⟨w, -, rfl⟩ := List.mem_map.mp told
  rfl

namespace Channel

variable {ch : Channel} {slot : Slot}

theorem timesWoken_rousing (w : Waker) (calls : List Call) :
    timesWoken w (calls.map (ch.rousing slot)) = 0 := by
  refine List.countP_eq_zero.mpr fun n told => ?_
  obtain ⟨c, -, rfl⟩ := List.mem_map.mp told
  by_cases chosen : ch.target? slot = some c <;> simp [rousing, chosen]

theorem endings_rousing_of_ne {calls : List Call} (others : ∀ c ∈ calls, ch.target? slot ≠ some c) :
    endings (calls.map (ch.rousing slot)) = [] := by
  rw [endings, List.filterMap_eq_nil_iff]
  intro n told
  obtain ⟨c, member, rfl⟩ := List.mem_map.mp told
  rw [rousing, if_neg (others c member)]

/-- Of calls that are all different, none comes back but the target. -/
theorem endings_rousing (nodup : ch.queued.Nodup) :
    endings (ch.queued.map (ch.rousing slot))
      = ((ch.target? slot).map fun c => (c, .error .interrupted)).toList := by
  cases found : ch.target? slot with
  | none => exact endings_rousing_of_ne fun c _ => by simp [found]
  | some c =>
    obtain ⟨-, earlier, later, queued, -⟩ := Turn.target?_eq_some found
    rw [queued] at nodup
    obtain ⟨-, tail, apart⟩ := List.nodup_append.mp nodup
    have before : ∀ w ∈ earlier, ch.target? slot ≠ some w := fun w member same => by
      rw [found] at same
      exact apart w member c List.mem_cons_self (Option.some.inj same).symm
    have after : ∀ w ∈ later, ch.target? slot ≠ some w := fun w member same => by
      rw [found] at same
      exact (List.nodup_cons.mp tail).1 (Option.some.inj same ▸ member)
    have chosen : ch.rousing slot c = .ended c (.error .interrupted) := if_pos found
    rw [queued, List.map_append, List.map_cons, endings_append, endings_rousing_of_ne before, chosen]
    exact congrArg (_ :: ·) (endings_rousing_of_ne after)

end Channel

/-- An interrupt disturbs only its target. While no sleeping call can go on, an interrupt of a
session, open or closed, brings back the earliest of the session's sleeping calls and takes the
signal; without such a call the signal stays pending. All others are asleep again in the order they
had, every registered waker has been woken once for each queue that it was on, and nothing else of
the channel is changed. -/
theorem interrupt_disturbs_only_its_target {memory : Memory} {peak : Nat} {t : Turn} {slot : Slot}
    (life : Life memory peak t) (settled : t.woken = []) (stuck : t.channel.Stuck)
    (listed : slot < t.channel.sessions.length) :
    t.channel.perform memory (.interrupt slot) = (t.channel.interrupted slot, .done,
      t.channel.readQueue.observers.map .woke ++ t.channel.writeQueue.observers.map .woke ++
        t.channel.queued.map (t.channel.rousing slot)) ∧
    endings (t.channel.perform memory (.interrupt slot)).2.2
      = ((t.channel.target? slot).map fun c => (c, .error .interrupted)).toList ∧
    (t.channel.target? slot).isSome = t.channel.isWaiting slot ∧
    (∀ other, (t.channel.interrupted slot).hasSignal other
      = if other = slot then !t.channel.isWaiting slot else t.channel.hasSignal other) ∧
    (∀ w, timesWoken w (t.channel.perform memory (.interrupt slot)).2.2
      = (if w ∈ t.channel.readQueue.observers then 1 else 0)
        + (if w ∈ t.channel.writeQueue.observers then 1 else 0)) := by
  have orderly := life.orderly.start settled
  have calm : Turn.Calm (.start t.channel) := fun c waits =>
    life.calm settled c (by rw [Turn.waiting, settled]; exact waits)
  have performed : t.channel.perform memory (.interrupt slot) = (t.channel.interrupted slot, .done,
      t.channel.readQueue.observers.map .woke ++ t.channel.writeQueue.observers.map .woke ++
        t.channel.queued.map (t.channel.rousing slot)) := by
    have after := Turn.channel_settle_interrupt orderly rfl calm stuck slot
    have told := Turn.account_settle_interrupt orderly rfl calm stuck slot
    exact Prod.ext after (Prod.ext rfl told)
  refine ⟨performed, ?_, t.channel.isSome_target? slot, fun other => ?_, fun w => ?_⟩
  · rw [performed, endings_append, endings_append, endings_woke, endings_woke]
    exact Channel.endings_rousing (life.orderly.nodup_queued settled)
  · rw [← t.channel.isSome_target? slot, Option.not_isSome,
      Channel.hasSignal_congr (show (t.channel.interrupted slot).sessions
        = (t.channel.setSignal slot (t.channel.target? slot).isNone).sessions from rfl)]
    split
    · rename_i own
      rw [own, Channel.hasSignal_setSignal_self, List.getElem?_eq_getElem listed]
      rfl
    · rename_i foreign
      exact Channel.hasSignal_setSignal_ne _ _ (Ne.symm foreign)
  · have readers := timesWoken_woke_of_nodup w (life.nodup_observers .reading)
    have writers := timesWoken_woke_of_nodup w (life.nodup_observers .writing)
    rw [performed, timesWoken_append, timesWoken_append, Channel.timesWoken_rousing, Nat.add_zero]
    exact congrArg₂ (· + ·) readers writers

/-- Three readers of two sessions sleep, and a waker waits beside them. An interrupt of the second
session ends the call in the middle. -/
theorem interrupt_disturbs_only_its_target_three_readers :
    ∃ t, Life ⟨16, by decide⟩ 2 t ∧ t.woken = [] ∧ t.channel.Stuck ∧
      1 < t.channel.sessions.length ∧
      t.channel.sleepers .reading = [⟨0, 0, .read 4⟩, ⟨1, 1, .read 4⟩, ⟨2, 1, .read 4⟩] ∧
      (t.channel.interrupted 1).sleepers .reading = [⟨0, 0, .read 4⟩, ⟨2, 1, .read 4⟩] ∧
      endings (t.channel.perform ⟨16, by decide⟩ (.interrupt 1)).2.2
        = [(⟨1, 1, .read 4⟩, .error .interrupted)] ∧
      (t.channel.interrupted 1).hasSignal 1 = false ∧
      timesWoken (.named "poller") (t.channel.perform ⟨16, by decide⟩ (.interrupt 1)).2.2 = 2 := by
  have created := @Life.created ⟨16, by decide⟩ "pipe" 4 (by decide)
  have opened := created.operated (.openSession .readOnly false) rfl
    (.of_idle _ fun d => by cases d <;> rfl)
  have both := opened.operated (.openSession .readOnly false) rfl
    (.of_idle _ fun d => by cases d <;> rfl)
  have first := both.operated (.call ⟨0, 0, .read 4⟩) rfl (.of_idle _ fun d => by cases d <;> rfl)
  have second := first.operated (.call ⟨1, 1, .read 4⟩) rfl
    (fun c called d s asleep => by cases called; cases d <;> revert s <;> decide)
  have third := second.operated (.call ⟨2, 1, .read 4⟩) rfl
    (fun c called d s asleep => by cases called; cases d <;> revert s <;> decide)
  have life := third.operated (.poll 0 (some (.named "poller"))) rfl
    (fun c called d s asleep => by cases called)
  have stuck {ch : Channel} (empty : ch.ready .reading = false) (idle : ch.sleepers .writing = []) :
      ch.Stuck := .of_unready fun d => by cases d with
    | reading => exact .inr empty
    | writing => exact .inl idle
  obtain ⟨-, ended, -, signals, woken⟩ :=
    interrupt_disturbs_only_its_target life rfl (stuck rfl rfl) (show 1 < 2 by decide)
  exact ⟨_, life, rfl, stuck rfl rfl, by decide, rfl, rfl, ended, signals 1, woken (.named "poller")⟩

end BytePipe
