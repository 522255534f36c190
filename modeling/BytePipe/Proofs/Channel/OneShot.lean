import BytePipe.Proofs.Channel.Wakings
import Mathlib.Data.List.Count

/-!
Wakers on the two queues of a channel, along any run of it (`Turn.Unfolds`). What a step tells of
wakers is what it takes off the queues (`Turn.Rung`), and only a poll puts a waker on them. So from
a poll to the next one with the same waker, for each queue, the waker is there or has been woken from
it, and never both (`Turn.Unfolds.spent`).
-/
namespace BytePipe

namespace Turn

variable {memory : Memory} {op : Operation} {t u v : Turn} {c : Call} {d : Direction} {w : Waker}
  {sides : List Direction} {told : List Notice} {asked : List (Operation × Outcome)}
  {gone : List (Direction × Waker)}

/-- The wakers that are no longer on a queue where they were, each with the queue. -/
def dropped (t u : Turn) : List (Direction × Waker) :=
  [Direction.reading, .writing].flatMap fun d =>
    ((t.channel.observers d).filter (· ∉ u.channel.observers d)).map (d, ·)

/-- What can happen on a channel. Any operation may be applied at any time, also before the calls
that have been woken have run, and any one of these may run next. The lists tell what has been asked
and what came of it, and which wakers have gone from which queue. -/
inductive Unfolds (memory : Memory) (t : Turn) :
    List (Operation × Outcome) → List (Direction × Waker) → Turn → Prop where
  | here : Unfolds memory t [] [] t
  | operated {asked : List (Operation × Outcome)} {gone : List (Direction × Waker)} {u : Turn}
    (before : Unfolds memory t asked gone u) (op : Operation) :
    Unfolds memory t (asked ++ [(op, (op.apply memory u).2)])
      (gone ++ u.dropped (op.apply memory u).1) (op.apply memory u).1
  | ran {asked : List (Operation × Outcome)} {gone : List (Direction × Waker)} {u : Turn}
    (before : Unfolds memory t asked gone u) (earlier : List Call) (c : Call) (later : List Call)
    (woken : u.woken = earlier ++ c :: later) :
    Unfolds memory t asked (gone ++ u.dropped (resume { u with woken := earlier ++ later } c))
      (resume { u with woken := earlier ++ later } c)

/-! ## One step -/

/-- A step as far as wakers are concerned: those that have been woken are those that have gone, and
of a queue whose other side has moved bytes nobody is left. -/
structure Rung (t u : Turn) (told : List Notice) : Prop where
  account : u.account = t.account ++ told
  woken : wakings told = (dropped t u).map (·.2)
  moved : ∀ c moved, .ended c (.ok moved) ∈ told → moved.size ≠ 0 →
    u.channel.observers c.direction.opposite = []

theorem Notified.dropped_eq (notified : Notified t u sides told)
    (order : sides ∈ [[], [.reading], [.writing], [Direction.reading, .writing]]) :
    dropped t u = sides.flatMap fun d => (t.channel.observers d).map (d, ·) := by
  have gone (d : Direction) : (t.channel.observers d).filter (· ∉ u.channel.observers d)
      = if d ∈ sides then t.channel.observers d else [] := by
    rw [notified.observers d]
    split
    · exact List.filter_eq_self.mpr fun w _ => by simp
    · exact List.filter_eq_nil_iff.mpr fun w registered => by simpa using registered
  simp only [dropped, gone]
  simp only [List.mem_cons, List.not_mem_nil, or_false] at order
  rcases order with rfl | rfl | rfl | rfl <;> simp

/-- Who is notified has gone from his queue. -/
theorem Notified.rung (notified : Notified t u sides told)
    (order : sides ∈ [[], [.reading], [.writing], [Direction.reading, .writing]])
    (moved : ∀ c moved, .ended c (.ok moved) ∈ told → moved.size ≠ 0 →
      c.direction.opposite ∈ sides) : Rung t u told where
  account := notified.account
  woken := by
    have each (d : Direction) : ((t.channel.observers d).map (d, ·)).map (·.2)
        = t.channel.observers d := by
      rw [List.map_map]
      exact List.map_id _
    rw [notified.woken, notified.dropped_eq order, List.map_flatMap]
    simp only [each]
  moved c m told size := by
    rw [notified.observers, if_pos (moved c m told size)]

theorem Idle.rung (idle : Idle t u) : ∃ told, Rung t u told := by
  obtain ⟨told, notified, apart⟩ := idle.notified
  exact ⟨told, notified.rung (by simp) fun c moved ended => by cases apart _ ended⟩

theorem rung_transfer (t : Turn) (c : Call) : ∃ told, Rung t (t.transfer c).1 told := by
  obtain ⟨wakers, notified⟩ := Notified.transfer t c
  refine ⟨_, notified.rung (by cases c.direction <;> simp [Direction.opposite]) ?_⟩
  intro w moved ended size
  rcases List.mem_cons.mp ended with same | woke
  · cases same
    exact List.mem_singleton_self _
  · cases call?_woke wakers _ woke

theorem rung_apply (memory : Memory) (t : Turn) (op : Operation) :
    ∃ told, Rung t (op.apply memory t).1 told := by
  have stirred := stirred_apply memory t op
  generalize op.apply memory t = result at stirred
  cases stirred with
  | idle idle answer => exact idle.rung
  | vain c called n own woken notified none answer =>
    refine ⟨[n], notified.rung (by simp) fun w moved ended size => absurd (none moved ?_) size⟩
    obtain rfl := List.mem_singleton.mp ended
    cases own
    rfl
  | registered slot w made =>
    refine ⟨[], (List.append_nil _).symm, ?_, nofun⟩
    have kept (d : Direction) : (t.channel.observers d).filter
        (· ∉ (t.poll (some w)).1.channel.observers d) = [] :=
      List.filter_eq_nil_iff.mpr fun v registered => by
        simpa using (hushed_poll t w).observers d registered
    simp only [dropped, kept, List.map_nil, List.flatMap_cons, List.flatMap_nil, List.append_nil]
    rfl
  | moved c called fits ready => exact rung_transfer t c
  | signalled slot made =>
    obtain ⟨wakers, notified⟩ := Notified.interrupt t slot
    exact ⟨_, notified.rung (by simp) fun c moved ended => by cases call?_woke wakers _ ended⟩

theorem rung_resume (t : Turn) (c : Call) : ∃ told, Rung t (t.resume c) told := by
  rcases resume_cases t c with slept | cut | passed | served
  · rw [slept]
    exact ⟨_, (Notified.sleep t c).rung (by simp) (by simp)⟩
  · rw [cut]
    exact ⟨_, (Notified.cutShort t c).rung (by simp) (by simp)⟩
  · rw [passed]
    exact ⟨_, (Notified.passedOn t c).rung (by cases c.direction <;> simp) (by simp)⟩
  · rw [served]
    exact rung_transfer t c

theorem sheds_resume (t : Turn) (c : Call) : Sheds t (t.resume c) := by
  rcases resume_cases t c with slept | cut | passed | served
  · exact slept ▸ .sleep t c
  · exact cut ▸ .cutShort t c
  · exact passed ▸ (Sheds.cutShort t c).trans (.wakeOne _ c.direction)
  · exact served ▸ .transfer t c

theorem Sheds.observers (sheds : Sheds t u) (d : Direction) :
    u.channel.observers d ⊆ t.channel.observers d := by
  intro w registered
  rcases sheds d with same | none
  · rw [Channel.observers, same] at registered
    exact registered
  · rw [Channel.observers, none] at registered
    contradiction

/-- Only a poll that succeeds registers its waker. -/
theorem observers_apply (memory : Memory) (t : Turn) (op : Operation)
    (other : ∀ slot r, (op, (op.apply memory t).2) ≠ (.poll slot (some w), .ready r))
    (registered : w ∈ (op.apply memory t).1.channel.observers d) : w ∈ t.channel.observers d := by
  cases op with
  | poll slot waker =>
    simp only [Operation.apply] at other registered
    split at registered
    · rename_i isOpen
      cases waker with
      | none => exact registered
      | some v =>
        have ne : w ≠ v := by
          rintro rfl
          exact other slot _ (by rw [if_pos isOpen])
        have kept (q : WaitQueue) (listed : w ∈ (q.register v).observers) : w ∈ q.observers := by
          unfold WaitQueue.register at listed
          split at listed
          · exact listed
          · exact (List.mem_append.mp listed).resolve_right fun single =>
              ne (List.mem_singleton.mp single)
        cases d <;> exact kept _ registered
    · exact registered
  | _ => exact (sheds_apply memory t fun slot waker => by simp).observers d registered

/-! ## Runs -/

theorem Rung.of_take {woken : List Call} (rung : Rung { t with woken := woken } u told) :
    Rung t u told :=
  ⟨rung.account, rung.woken, rung.moved⟩

namespace Unfolds

theorem trans {more : List (Operation × Outcome)} {also : List (Direction × Waker)}
    (first : Unfolds memory t asked gone u) (second : Unfolds memory u more also v) :
    Unfolds memory t (asked ++ more) (gone ++ also) v := by
  induction second with
  | here =>
    rw [List.append_nil, List.append_nil]
    exact first
  | operated before op ih =>
    rw [← List.append_assoc, ← List.append_assoc]
    exact ih.operated op
  | ran before earlier c later woken ih =>
    rw [← List.append_assoc]
    exact ih.ran earlier c later woken

theorem enrolled (unfolds : Unfolds memory t asked gone u) (enrolled : Enrolled t) : Enrolled u := by
  induction unfolds with
  | here => exact enrolled
  | operated before op ih => exact ih.applied memory op
  | @ran asked gone u before earlier c later woken ih =>
    exact Enrolled.sheds (t := { u with woken := earlier ++ later }) ih (sheds_resume _ c)

theorem inside (unfolds : Unfolds memory t asked gone u) (inside : t.channel.ring.Inside) :
    u.channel.ring.Inside := by
  induction unfolds with
  | here => exact inside
  | operated before op ih => exact inside_applied ih (applied_apply memory _ op)
  | @ran asked gone u before earlier c later woken ih =>
    rcases resume_cases { u with woken := earlier ++ later } c with slept | cut | passed | served
    · rw [slept, ring_sleep]
      exact ih
    · rw [cut]
      exact ih
    · rw [passed, ring_wakeOne]
      exact ih
    · rw [served, ring_transfer]
      exact ih.serve c.request

end Unfolds

/-! ## One waker -/

theorem count_dropped (t u : Turn) (d : Direction) (w : Waker) :
    (dropped t u).count (d, w)
      = ((t.channel.observers d).filter (· ∉ u.channel.observers d)).count w := by
  have own (e : Direction) (wakers : List Waker) : (wakers.map (e, ·)).count (e, w)
      = wakers.count w := List.count_map_of_injective _ _ (fun _ _ same => congrArg Prod.snd same) w
  have other {e : Direction} (ne : e ≠ d) (wakers : List Waker) :
      (wakers.map (e, ·)).count (d, w) = 0 := by
    refine List.count_eq_zero.mpr fun listed => ?_
    obtain ⟨v, -, same⟩ := List.mem_map.mp listed
    exact ne (congrArg Prod.fst same)
  rw [dropped, List.flatMap_cons, List.flatMap_cons, List.flatMap_nil, List.append_nil,
    List.count_append]
  cases d with
  | reading => rw [own, other (by decide), Nat.add_zero]
  | writing => rw [own, other (by decide), Nat.zero_add]

/-- A waker that no step registers is on a queue before a step if it is there afterwards or has gone
from it, once. -/
theorem count_dropped_add (enrolled : Enrolled t) (after : Enrolled u)
    (stays : w ∈ u.channel.observers d → w ∈ t.channel.observers d) :
    (dropped t u).count (d, w) + (u.channel.observers d).count w
      = (t.channel.observers d).count w := by
  rw [count_dropped]
  by_cases registered : w ∈ u.channel.observers d
  · have gone : ((t.channel.observers d).filter (· ∉ u.channel.observers d)).count w = 0 :=
      List.count_eq_zero.mpr fun listed => by simpa [registered] using (List.mem_filter.mp listed).2
    rw [gone, (after d).count, (enrolled d).count, if_pos registered, if_pos (stays registered)]
  · rw [List.count_filter (by simpa using registered), List.count_eq_zero.mpr registered,
      Nat.add_zero]

/-- A waker along a run in which it is not registered anew. -/
structure Spent (w : Waker) (t u : Turn) (asked : List (Operation × Outcome))
    (gone : List (Direction × Waker)) (told : List Notice) : Prop where
  account : u.account = t.account ++ told
  woken : wakings told = gone.map (·.2)
  balance : ∀ d, gone.count (d, w) + (u.channel.observers d).count w
    = (t.channel.observers d).count w
  moved : ∀ c moved, .ended c (.ok moved) ∈ told → moved.size ≠ 0 →
    w ∉ u.channel.observers c.direction.opposite
  interrupted : ∀ slot outcome, (.interrupt slot, outcome) ∈ asked →
    ∀ d, w ∉ u.channel.observers d

/-- One more step. -/
theorem Spent.step {more : List Notice} (spent : Spent w t u asked gone told)
    (now : List (Operation × Outcome)) (rung : Rung u v more) (enrolled : Enrolled u)
    (after : Enrolled v) (stays : ∀ d, w ∈ v.channel.observers d → w ∈ u.channel.observers d)
    (interrupts : ∀ slot outcome, (.interrupt slot, outcome) ∈ now →
      ∀ d, w ∉ v.channel.observers d) :
    Spent w t v (asked ++ now) (gone ++ dropped u v) (told ++ more) where
  account := by rw [rung.account, spent.account, List.append_assoc]
  woken := by rw [wakings_append, spent.woken, rung.woken, List.map_append]
  balance d := by
    rw [List.count_append, Nat.add_assoc, count_dropped_add enrolled after (stays d)]
    exact spent.balance d
  moved c moved ended size registered := by
    rcases List.mem_append.mp ended with before | last
    · exact spent.moved c moved before size (stays _ registered)
    · rw [rung.moved c moved last size] at registered
      contradiction
  interrupted slot outcome made d registered := by
    rcases List.mem_append.mp made with before | last
    · exact spent.interrupted slot outcome before d (stays d registered)
    · exact interrupts slot outcome last d registered

theorem observers_interrupt (t : Turn) (slot : Slot) (d : Direction) :
    (t.interrupt slot).channel.observers d = [] := by
  obtain ⟨wakers, notified⟩ := Notified.interrupt t slot
  rw [notified.observers, if_pos (by cases d <;> simp)]

theorem Unfolds.spent (unfolds : Unfolds memory t asked gone u) (enrolled : Enrolled t)
    (last : ∀ slot r, (.poll slot (some w), .ready r) ∉ asked) :
    ∃ told, Spent w t u asked gone told := by
  induction unfolds with
  | here => exact ⟨[], (List.append_nil _).symm, rfl, by simp, by simp, by simp⟩
  | @operated asked gone u before op ih =>
    obtain ⟨told, spent⟩ := ih fun slot r polled => last slot r (List.mem_append_left _ polled)
    obtain ⟨more, step⟩ := rung_apply memory u op
    have here := before.enrolled enrolled
    refine ⟨told ++ more, spent.step _ step here (here.applied memory op) (fun d => ?_) ?_⟩
    · refine observers_apply memory u op fun slot r polled => last slot r ?_
      rw [← polled]
      exact List.mem_append_right _ (List.mem_singleton_self _)
    · intro slot outcome made d
      cases List.mem_singleton.mp made
      rw [Operation.apply, observers_interrupt]
      exact List.not_mem_nil
  | @ran asked gone u before earlier c later woken ih =>
    obtain ⟨told, spent⟩ := ih last
    obtain ⟨more, step⟩ := rung_resume { u with woken := earlier ++ later } c
    have here := before.enrolled enrolled
    have sheds := sheds_resume { u with woken := earlier ++ later } c
    have after := Enrolled.sheds (t := { u with woken := earlier ++ later }) here sheds
    have spent := spent.step [] step.of_take here after
      (fun d registered => sheds.observers d registered) (by simp)
    rw [List.append_nil] at spent
    exact ⟨told ++ more, spent⟩

/-- Each time that a waker has been woken, it has gone from one of the two queues. -/
theorem Spent.timesWoken_eq (spent : Spent w t u asked gone told) :
    timesWoken w told = gone.count (.reading, w) + gone.count (.writing, w) := by
  rw [timesWoken_eq_count, spent.woken]
  generalize gone = wakings
  induction wakings with
  | nil => rfl
  | cons first rest ih =>
    obtain ⟨d, v⟩ := first
    rw [List.map_cons, List.count_cons, List.count_cons, List.count_cons, ih]
    cases d <;> by_cases same : v = w <;> simp [same] <;> omega

/-- An operation that moves no byte and interrupts nobody wakes nobody. -/
theorem hushed_apply (inside : t.channel.ring.Inside) (op : Operation)
    (quiet : ∀ slot, op ≠ .interrupt slot)
    (vain : ∀ moved, (op.apply memory t).2 = .transferred moved → moved.size = 0) :
    Hushed t (op.apply memory t).1 := by
  have stirred := stirred_apply memory t op
  generalize op.apply memory t = result at stirred vain
  cases stirred with
  | idle idle answer =>
    obtain ⟨told, notified, -⟩ := idle.notified
    exact notified.hushed idle.woken
  | vain c called n own woken notified none answer => exact notified.hushed woken
  | registered slot w made => exact hushed_poll t w
  | moved c called fits ready =>
    exact absurd (vain _ rfl) (Channel.size_serve inside fits.nontrivial ready)
  | signalled slot made => exact absurd made (quiet slot)

/-- A poll that succeeds leaves its waker on both queues. -/
theorem observers_of_polled {slot : Slot} {r : Readiness}
    (polled : (Operation.poll slot (some w)).apply memory t = (u, .ready r)) (d : Direction) :
    w ∈ u.channel.observers d := by
  simp only [Operation.apply] at polled
  split at polled
  · cases polled
    cases d <;> exact WaitQueue.mem_register _ w
  · cases polled

end Turn

end BytePipe
