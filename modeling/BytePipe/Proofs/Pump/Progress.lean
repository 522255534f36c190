import BytePipe.Proofs.Pump.Ledger

/-!
Pumps do not get stuck. While a reader sleeps, every byte in the ring is matched by a wake-up that a
writer still owes or by a reader that is up and about; with a single reader one such wake-up is
enough, and with single-byte pieces there is one for each byte. While a writer sleeps, there is a
byte in the ring, a wake-up that a reader owes or a writer that is up (`Alert`). So when everybody
is asleep or gone, nobody is asleep (`exists_enabled`). And every step brings the end closer
(`measure_lt`).
-/
namespace BytePipe

namespace Worker

/-- One for a worker of a direction. -/
def works (d : Direction) (w : Worker) : Nat :=
  if w.work.direction = d then 1 else 0

/-- One for a worker of a direction in a phase. -/
def tally (d : Direction) (phase : Phase) (w : Worker) : Nat :=
  if w.work.direction = d ∧ w.phase = phase then 1 else 0

/-- One for a worker of a direction that runs and has work left. -/
def busy (d : Direction) (w : Worker) : Nat :=
  if w.work.direction = d ∧ w.phase = .running ∧ w.work.isDone = false then 1 else 0

end Worker

namespace Pump

variable {memory : Memory} {p q : Pump} {i : Nat} {w : Worker}

theorem sum_pos {f : Worker → Nat} (found : p.workers[i]? = some w) (some : 0 < f w) :
    0 < p.sum f :=
  List.sum_pos_iff_exists_pos_nat.mpr
    ⟨f w, List.mem_map_of_mem (List.mem_of_getElem? found), some⟩

theorem exists_of_sum_pos {f : Worker → Nat} (some : 0 < p.sum f) : ∃ w ∈ p.workers, 0 < f w := by
  obtain ⟨n, listed, positive⟩ := List.sum_pos_iff_exists_pos_nat.mp some
  obtain ⟨w, here, rfl⟩ := List.mem_map.mp listed
  exact ⟨w, here, positive⟩

theorem sum_eq_zero {f : Worker → Nat} (none : ∀ w ∈ p.workers, f w = 0) : p.sum f = 0 := by
  rw [sum, List.sum_eq_zero_iff_forall_eq_nat]
  intro n listed
  obtain ⟨w, here, rfl⟩ := List.mem_map.mp listed
  exact none w here

theorem sum_le_sum (p : Pump) {f g : Worker → Nat} (le : ∀ w, f w ≤ g w) : p.sum f ≤ p.sum g := by
  unfold sum
  induction p.workers with
  | nil => exact Nat.le_refl 0
  | cons w rest ih =>
    have first := le w
    simp only [List.map_cons, List.sum_cons]
    omega

/-- A wake-up for every byte: there is one reader only, or a write moves one byte at a time. -/
def Paced (p : Pump) : Prop :=
  p.sum (Worker.works .reading) = 1 ∨
    ∀ w ∈ p.workers, ∀ pieces, w.work = .produce pieces → ∀ piece ∈ pieces, piece.length ≤ 1

structure Alert (p : Pump) : Prop where
  paced : p.Paced
  readers : 0 < p.sum (Worker.tally .reading .asleep) →
    p.channel.ring.used ≤ p.sum (Worker.tally .writing .notifying) + p.sum (Worker.busy .reading) ∨
      (p.sum (Worker.works .reading) = 1 ∧ 0 < p.sum (Worker.tally .writing .notifying))
  writers : 0 < p.sum (Worker.tally .writing .asleep) →
    0 < p.channel.ring.used ∨ 0 < p.sum (Worker.tally .reading .notifying) ∨
      0 < p.sum (Worker.busy .writing)

namespace Alert

variable {old new : Worker}

/-- The pieces that are left are no longer than before. -/
theorem paced_set (paced : p.Paced) (found : p.workers[i]? = some old)
    (workers : q.workers = p.workers.set i new) (direction : new.work.direction = old.work.direction)
    (shorter : ∀ pieces, new.work = .produce pieces → ∃ before, old.work = .produce before ∧
      ∀ piece ∈ pieces, ∃ whole ∈ before, piece.length ≤ whole.length) : q.Paced := by
  rcases paced with single | tight
  · refine .inl ?_
    have works : new.works .reading = old.works .reading := by
      rw [Worker.works, Worker.works, direction]
    rw [sum, workers, map_set_of_eq _ found works]
    exact single
  · refine .inr fun w listed pieces made piece left => ?_
    rw [workers] at listed
    rcases List.mem_or_eq_of_mem_set listed with before | rfl
    · exact tight w before pieces made piece left
    · obtain ⟨before, work, parts⟩ := shorter pieces made
      obtain ⟨whole, inside, le⟩ := parts piece left
      exact Nat.le_trans le (tight old (List.mem_of_getElem? found) before work whole inside)

theorem paced_same (paced : p.Paced) (found : p.workers[i]? = some old)
    (workers : q.workers = p.workers.set i new) (work : new.work = old.work) : q.Paced := by
  refine paced_set paced found workers (by rw [work]) fun pieces made => ?_
  exact ⟨pieces, work ▸ made, fun piece left => ⟨piece, left, Nat.le_refl _⟩⟩

theorem sum_change (found : p.workers[i]? = some old) (workers : q.workers = p.workers.set i new)
    (f : Worker → Nat) : q.sum f + f old = p.sum f + f new := by
  have change := sum_set f found new
  rw [← workers] at change
  exact change

/-- A read takes at least one byte, and the reader owes a wake-up for it. -/
theorem took (alert : Alert p) {slot owed left count : Nat}
    (found : p.workers[i]? = some ⟨slot, .consume (owed + 1), .running⟩)
    (workers : q.workers = p.workers.set i ⟨slot, .consume left, .notifying⟩)
    (used : q.channel.ring.used + count = p.channel.ring.used) (moves : 0 < count) : Alert q := by
  have change := sum_change found workers
  have asleepReaders := change (Worker.tally .reading .asleep)
  have toldReaders := change (Worker.tally .reading .notifying)
  have busyReaders := change (Worker.busy .reading)
  have readers := change (Worker.works .reading)
  have toldWriters := change (Worker.tally .writing .notifying)
  simp [Worker.tally, Worker.busy, Worker.works, Work.direction, Work.isDone]
    at asleepReaders toldReaders busyReaders readers toldWriters
  have served := alert.readers
  refine ⟨paced_set alert.paced found workers rfl ?_, fun sleeps => ?_, fun _ => ?_⟩
  · intro pieces made
    cases made
  · omega
  · omega

/-- A write puts in at least one byte, and the writer owes a wake-up for it. -/
theorem put (alert : Alert p) {slot count : Nat} {piece : List UInt8}
    {later rest : List (List UInt8)}
    (found : p.workers[i]? = some ⟨slot, .produce (piece :: later), .running⟩)
    (workers : q.workers = p.workers.set i ⟨slot, .produce rest, .notifying⟩)
    (shorter : ∀ part ∈ rest, ∃ whole ∈ piece :: later, part.length ≤ whole.length)
    (used : q.channel.ring.used = p.channel.ring.used + count) (moves : 0 < count)
    (inside : count ≤ piece.length) : Alert q := by
  have change := sum_change found workers
  have asleepReaders := change (Worker.tally .reading .asleep)
  have busyReaders := change (Worker.busy .reading)
  have readers := change (Worker.works .reading)
  have toldWriters := change (Worker.tally .writing .notifying)
  simp [Worker.tally, Worker.busy, Worker.works, Work.direction]
    at asleepReaders busyReaders readers toldWriters
  have served := alert.readers
  refine ⟨paced_set alert.paced found workers rfl ?_, fun sleeps => ?_, fun _ => ?_⟩
  · intro pieces made
    obtain rfl := Work.produce.inj made
    exact ⟨piece :: later, rfl, shorter⟩
  · rcases alert.paced with single | tight
    · omega
    · have one := tight _ (List.mem_of_getElem? found) _ rfl piece List.mem_cons_self
      omega
  · omega

/-- A reader falls asleep on an empty ring and a writer on a full one. -/
theorem slept (alert : Alert p) (found : p.workers[i]? = some w) (running : w.phase = .running)
    (workers : q.workers = p.workers.set i { w with phase := .asleep })
    (used : q.channel.ring.used = p.channel.ring.used)
    (empty : w.work.direction = .reading → p.channel.ring.used = 0)
    (full : w.work.direction = .writing → 0 < p.channel.ring.used) : Alert q := by
  have change := sum_change found workers
  have asleepReaders := change (Worker.tally .reading .asleep)
  have toldReaders := change (Worker.tally .reading .notifying)
  have busyReaders := change (Worker.busy .reading)
  have readers := change (Worker.works .reading)
  have asleepWriters := change (Worker.tally .writing .asleep)
  have toldWriters := change (Worker.tally .writing .notifying)
  have busyWriters := change (Worker.busy .writing)
  have served := alert.readers
  have waited := alert.writers
  refine ⟨paced_same alert.paced found workers rfl, ?_, ?_⟩
  · cases direction : w.work.direction with
    | reading =>
      have none := empty direction
      omega
    | writing =>
      simp [Worker.tally, Worker.busy, Worker.works, direction, running]
        at asleepReaders busyReaders readers toldWriters
      omega
  · cases direction : w.work.direction with
    | reading =>
      simp [Worker.tally, Worker.busy, direction, running]
        at asleepWriters toldReaders busyWriters
      omega
    | writing =>
      have some := full direction
      omega

/-- A wake-up that reaches nobody was not needed. -/
theorem told (alert : Alert p) (found : p.workers[i]? = some w) (notifying : w.phase = .notifying)
    (workers : q.workers = p.workers.set i { w with phase := .running })
    (used : q.channel.ring.used = p.channel.ring.used)
    (nobody : p.sum (Worker.tally w.work.direction.opposite .asleep) = 0) : Alert q := by
  have change := sum_change found workers
  have asleepReaders := change (Worker.tally .reading .asleep)
  have toldReaders := change (Worker.tally .reading .notifying)
  have busyReaders := change (Worker.busy .reading)
  have readers := change (Worker.works .reading)
  have asleepWriters := change (Worker.tally .writing .asleep)
  have toldWriters := change (Worker.tally .writing .notifying)
  have busyWriters := change (Worker.busy .writing)
  have served := alert.readers
  have waited := alert.writers
  refine ⟨paced_same alert.paced found workers rfl, ?_, ?_⟩
  · cases direction : w.work.direction with
    | reading =>
      simp [Worker.tally, Worker.busy, Worker.works, direction, notifying]
        at asleepReaders busyReaders readers toldWriters
      omega
    | writing =>
      simp [Worker.tally, direction, notifying] at asleepReaders
      rw [direction] at nobody
      simp only [Direction.opposite] at nobody
      omega
  · cases direction : w.work.direction with
    | reading =>
      simp [Worker.tally, direction, notifying] at asleepWriters
      rw [direction] at nobody
      simp only [Direction.opposite] at nobody
      omega
    | writing =>
      simp [Worker.tally, Worker.busy, direction, notifying]
        at asleepWriters toldReaders busyWriters
      omega

/-- A sleeper that is woken stands in for the wake-up. -/
theorem woke (alert : Alert p) {j : Nat} {u v : Pump} {sleeper : Worker}
    (found : p.workers[i]? = some w) (notifying : w.phase = .notifying)
    (workers : u.workers = p.workers.set i { w with phase := .running })
    (reached : u.workers[j]? = some sleeper) (asleep : sleeper.phase = .asleep)
    (direction : sleeper.work.direction = w.work.direction.opposite)
    (unfinished : sleeper.work.isDone = false)
    (after : v.workers = u.workers.set j { sleeper with phase := .running })
    (used : v.channel.ring.used = p.channel.ring.used) : Alert v := by
  have change (f : Worker → Nat) : v.sum f + f sleeper + f w
      = p.sum f + f { w with phase := .running } + f { sleeper with phase := .running } := by
    have first := sum_change found workers f
    have second := sum_change reached after f
    omega
  have asleepReaders := change (Worker.tally .reading .asleep)
  have toldReaders := change (Worker.tally .reading .notifying)
  have busyReaders := change (Worker.busy .reading)
  have readers := change (Worker.works .reading)
  have asleepWriters := change (Worker.tally .writing .asleep)
  have toldWriters := change (Worker.tally .writing .notifying)
  have busyWriters := change (Worker.busy .writing)
  have served := alert.readers
  have waited := alert.writers
  -- With one reader asleep and awakened, no reader is left asleep.
  have few : p.sum (Worker.tally .reading .asleep) ≤ p.sum (Worker.works .reading) := by
    refine sum_le_sum p fun w => ?_
    rw [Worker.tally, Worker.works]
    by_cases reads : w.work.direction = .reading <;> by_cases naps : w.phase = .asleep <;>
      simp [reads, naps]
  refine ⟨paced_same (paced_same alert.paced found workers rfl) reached after rfl, ?_, ?_⟩
  · cases side : w.work.direction with
    | reading =>
      rw [side] at direction
      simp [Worker.tally, Worker.busy, Worker.works, side, direction, notifying, asleep,
        Direction.opposite] at asleepReaders busyReaders readers toldWriters
      omega
    | writing =>
      rw [side] at direction
      simp [Worker.tally, Worker.busy, Worker.works, side, direction, notifying, asleep,
        unfinished, Direction.opposite] at asleepReaders busyReaders readers toldWriters
      omega
  · cases side : w.work.direction with
    | reading =>
      rw [side] at direction
      simp [Worker.busy, side, direction, notifying, asleep, unfinished,
        Direction.opposite] at busyWriters
      omega
    | writing =>
      rw [side] at direction
      simp [Worker.tally, Worker.busy, side, direction, notifying, asleep,
        Direction.opposite] at asleepWriters toldReaders busyWriters
      omega

/-- Whoever leaves was not needed either. -/
theorem left (alert : Alert p) (found : p.workers[i]? = some w) (running : w.phase = .running)
    (done : w.work.isDone = true) (workers : q.workers = p.workers.set i { w with phase := .gone })
    (used : q.channel.ring.used = p.channel.ring.used) : Alert q := by
  have same (f : Worker → Nat) (equal : f { w with phase := .gone } = f w) : q.sum f = p.sum f := by
    rw [sum, sum, workers, map_set_of_eq f found equal]
  have tally (d : Direction) (phase : Phase) (ne : phase ≠ .running) (ne' : phase ≠ .gone) :
      q.sum (Worker.tally d phase) = p.sum (Worker.tally d phase) := by
    refine same _ ?_
    simp [Worker.tally, running, ne.symm, ne'.symm]
  have busy (d : Direction) : q.sum (Worker.busy d) = p.sum (Worker.busy d) := by
    refine same _ ?_
    simp [Worker.busy, done]
  refine ⟨paced_same alert.paced found workers rfl, fun sleeps => ?_, fun sleeps => ?_⟩
  · rw [tally _ _ Phase.noConfusion Phase.noConfusion] at sleeps
    rw [used, busy, same (Worker.works .reading) rfl, tally _ _ Phase.noConfusion Phase.noConfusion]
    exact alert.readers sleeps
  · rw [tally _ _ Phase.noConfusion Phase.noConfusion] at sleeps
    rw [used, busy, tally _ _ Phase.noConfusion Phase.noConfusion]
    exact alert.writers sleeps

/-- An empty queue is that of a side of which nobody sleeps. -/
theorem nobody_asleep (staffed : Staffed p) {d : Direction} (none : p.channel.sleepers d = []) :
    p.sum (Worker.tally d .asleep) = 0 := by
  refine sum_eq_zero fun w listed => if_neg fun ⟨direction, asleep⟩ => ?_
  obtain ⟨i, found⟩ := List.mem_iff_getElem?.mp listed
  obtain ⟨c, queued, -⟩ := staffed.queued i w found asleep
  rw [direction, none] at queued
  contradiction

theorem step (alert : Alert p) (staffed : Staffed p) (capacity : 2 ≤ p.channel.ring.capacity)
    (readSize : 0 < p.readSize) (stepped : Stepped memory p q) : Alert q := by
  have wellFormed := staffed.counted.wellFormed
  cases stepped with
  | @took i slot owed found nonempty =>
    have positive : 0 < min p.readSize (owed + 1) := by omega
    have moves := (Ring.take_moves wellFormed nonempty positive).1
    have used := Ring.used_take wellFormed nonempty (min p.readSize (owed + 1))
    have run := Ring.readableRun_le_used wellFormed nonempty
    have count := Ring.take_count (r := p.channel.ring) (min p.readSize (owed + 1))
    refine alert.took found rfl ?_ moves
    rw [transfer_read]
    simp only [used]
    omega
  | @put i slot piece later found room =>
    have nonempty := (staffed.proper _ (List.mem_of_getElem? found)).whole _ rfl piece
      List.mem_cons_self
    have moves := (Ring.put_moves wellFormed staffed.stored room nonempty).1
    have used := Ring.used_put wellFormed staffed.stored piece
    refine alert.put found rfl (fun part listed => ?_) used moves (Nat.min_le_left _ _)
    split at listed
    · rcases List.mem_cons.mp listed with rfl | rest
      · exact ⟨piece, List.mem_cons_self, by simp⟩
      · exact ⟨part, List.mem_cons_of_mem _ rest, Nat.le_refl _⟩
    · exact ⟨part, List.mem_cons_of_mem _ listed, Nat.le_refl _⟩
  | @slept i w r found running asks unready =>
    have direction := Work.direction_of_request? asks
    have ring : (p.sleep i w r).channel.ring = p.channel.ring := Channel.ring_setQueue _ _ _
    have balance := Ring.used_add_free wellFormed
    refine alert.slept found running rfl (congrArg Ring.used ring) (fun reads => ?_) fun writes => ?_
    · rw [direction, reads] at unready
      exact (Ring.isEmpty_iff_used wellFormed).mp (Channel.isEmpty_of_ready unready)
    · rw [direction, writes] at unready
      have none := of_decide_eq_false unready
      omega
  | told found notifying nobody =>
    exact alert.told found notifying rfl rfl (nobody_asleep staffed nobody)
  | @woke i w c found notifying asleep =>
    have told := staffed.told found notifying
    obtain ⟨-, sleeper, reached, naps, direction⟩ := told.asleep _ c asleep
    have unfinished := (told.proper _ (List.mem_of_getElem? reached)).waiting naps
    exact alert.woke found notifying rfl reached naps direction unfinished
      (Staffed.workers_wake _ _ reached) (congrArg Ring.used (Channel.ring_setQueue _ _ _))
  | @left i w found running done =>
    have ring : (p.channel.perform memory (.closeSession w.slot)).1.ring = p.channel.ring :=
      staffed.ring_left found running
    exact alert.left found running done rfl (congrArg Ring.used ring)

end Alert

/-! ## The end comes closer -/

/-- A phase that has a transfer behind it weighs more than the wake-up it owes will cost. -/
def weight : Phase → Nat
  | .running => 1
  | .notifying => 3
  | .asleep => 0
  | .gone => 0

/-- How far a pump is from its end. -/
def measure (p : Pump) : Nat :=
  p.sum fun w => 3 * bytesToSend w.work + weight w.phase

theorem measure_change {old new : Worker} (found : p.workers[i]? = some old)
    (workers : q.workers = p.workers.set i new) :
    q.measure + (3 * bytesToSend old.work + weight old.phase)
      = p.measure + (3 * bytesToSend new.work + weight new.phase) :=
  Alert.sum_change found workers fun w => 3 * bytesToSend w.work + weight w.phase

/-- Every step moves bytes, of which there are only so many, or lets a worker rest. -/
theorem measure_lt (staffed : Staffed p) (readSize : 0 < p.readSize)
    (stepped : Stepped memory p q) : q.measure < p.measure := by
  have wellFormed := staffed.counted.wellFormed
  cases stepped with
  | @took i slot owed found nonempty =>
    have positive : 0 < min p.readSize (owed + 1) := by omega
    have moves := (Ring.take_moves wellFormed nonempty positive).1
    have workers := congrArg Pump.workers (p.transfer_read i ⟨slot, .consume (owed + 1), .running⟩
      (min p.readSize (owed + 1)))
    have change := measure_change found workers
    simp only [Work.after, bytesToSend, weight] at change
    omega
  | @put i slot piece later found room =>
    have nonempty := (staffed.proper _ (List.mem_of_getElem? found)).whole _ rfl piece
      List.mem_cons_self
    have moves := (Ring.put_moves wellFormed staffed.stored room nonempty).1
    have inside : (p.channel.ring.put piece).1 ≤ piece.length := Nat.min_le_left _ _
    have workers := congrArg Pump.workers
      (p.transfer_write i ⟨slot, .produce (piece :: later), .running⟩ piece)
    have change := measure_change found workers
    simp only [Work.after, bytesToSend, weight, flatten_rest inside,
      List.flatten_cons, List.length_append, List.length_drop] at change
    omega
  | @slept i w r found running asks unready =>
    have change := measure_change (q := p.sleep i w r) found rfl
    simp only [running, weight] at change
    omega
  | @told i w found notifying nobody =>
    have change := measure_change (q := p.setWorker i { w with phase := .running }) found rfl
    simp only [notifying, weight] at change
    omega
  | @woke i w c found notifying asleep =>
    obtain ⟨-, sleeper, reached, naps, -⟩ := (staffed.told found notifying).asleep _ c asleep
    have change := measure_change (q := p.setWorker i { w with phase := .running }) found rfl
    have again := measure_change reached (Staffed.workers_wake _ w.work.direction.opposite reached)
    simp only [notifying, weight] at change
    simp only [naps, weight] at again
    omega
  | @left i w found running done =>
    have change := measure_change (q := setWorker
      { p with channel := (p.channel.perform memory (.closeSession w.slot)).1 } i
      { w with phase := .gone }) found rfl
    simp only [running, weight] at change
    omega

/-! ## Nobody is left behind -/

/-- A worker that is up can go on. -/
theorem exists_enabled_of_up (found : p.workers[i]? = some w)
    (up : w.phase = .running ∨ w.phase = .notifying) : ∃ action, p.enabled action = true := by
  rcases up with running | notifying
  · have some := w.work.request?_isSome p.readSize
    cases done : w.work.isDone with
    | true =>
      refine ⟨.leave i, ?_⟩
      rw [done] at some
      simpa [Pump.enabled, found, running] using some
    | false =>
      refine ⟨.enter i, ?_⟩
      rw [done] at some
      simpa [Pump.enabled, found, running] using some
  · cases asleep : p.sleepersFor w with
    | nil => exact ⟨.notify i none, by simp [Pump.enabled, found, notifying, asleep]⟩
    | cons c rest => exact ⟨.notify i (some c.ticket), by simp [Pump.enabled, found, notifying, asleep]⟩

theorem bytesToSend_pos (proper : w.Proper) (unfinished : w.work.isDone = false) :
    0 < bytesToSend w.work := by
  obtain ⟨slot, work, phase⟩ := w
  cases work with
  | consume owed => exact Nat.pos_of_ne_zero (by simpa [Work.isDone, bytesToSend] using unfinished)
  | produce pieces =>
    cases pieces with
    | nil => cases unfinished
    | cons piece later =>
      have first := List.length_pos_iff.mpr (proper.whole _ rfl piece List.mem_cons_self)
      simp only [bytesToSend, List.flatten_cons, List.length_append]
      omega

theorem bytesToSend_of_done (done : w.work.isDone = true) : bytesToSend w.work = 0 := by
  obtain ⟨slot, work, phase⟩ := w
  cases work with
  | consume owed => simpa [Work.isDone, bytesToSend] using done
  | produce pieces =>
    obtain rfl := List.isEmpty_iff.mp done
    rfl

/-- Sleepers have bytes to move. -/
theorem remaining_of_asleep (staffed : Staffed p) {d : Direction}
    (asleep : 0 < p.sum (Worker.tally d .asleep)) : 0 < p.sum (Worker.remaining d) := by
  obtain ⟨w, listed, positive⟩ := exists_of_sum_pos asleep
  obtain ⟨i, found⟩ := List.mem_iff_getElem?.mp listed
  have proper := staffed.proper w listed
  have is : w.work.direction = d ∧ w.phase = .asleep := by
    by_cases both : w.work.direction = d ∧ w.phase = .asleep
    · exact both
    · rw [Worker.tally, if_neg both] at positive
      contradiction
  refine sum_pos found ?_
  rw [Worker.remaining, if_pos is.1]
  exact bytesToSend_pos proper (proper.waiting is.2)

/-- When nobody is up, bytes are left only to sleepers. -/
theorem asleep_of_remaining (staffed : Staffed p) {d : Direction}
    (down : ∀ w ∈ p.workers, w.phase = .asleep ∨ w.phase = .gone)
    (remaining : 0 < p.sum (Worker.remaining d)) : 0 < p.sum (Worker.tally d .asleep) := by
  obtain ⟨w, listed, positive⟩ := exists_of_sum_pos remaining
  obtain ⟨i, found⟩ := List.mem_iff_getElem?.mp listed
  rw [Worker.remaining] at positive
  split at positive
  · rename_i direction
    refine sum_pos found ?_
    rcases down w listed with asleep | gone
    · rw [Worker.tally, if_pos ⟨direction, asleep⟩]
      exact Nat.one_pos
    · rw [bytesToSend_of_done ((staffed.proper w listed).finished gone)] at positive
      contradiction
  · contradiction

/-- When nobody is up, nobody is asleep: a sleeping reader would leave the ring empty and some writer
asleep beside it, and a sleeping writer would leave some reader asleep. -/
theorem none_asleep_of_down {payloads : List (List UInt8)} {total : Nat} (staffed : Staffed p)
    (ledger : Ledger payloads total p) (alert : Alert p)
    (down : ∀ w ∈ p.workers, w.phase = .asleep ∨ w.phase = .gone) (d : Direction) :
    ¬ 0 < p.sum (Worker.tally d .asleep) := by
  have told (d : Direction) : p.sum (Worker.tally d .notifying) = 0 := by
    refine sum_eq_zero fun w listed => if_neg fun ⟨_, notifying⟩ => ?_
    rcases down w listed with asleep | gone
    · cases notifying.symm.trans asleep
    · cases notifying.symm.trans gone
  have busy (d : Direction) : p.sum (Worker.busy d) = 0 := by
    refine sum_eq_zero fun w listed => if_neg fun ⟨_, running, _⟩ => ?_
    rcases down w listed with asleep | gone
    · cases running.symm.trans asleep
    · cases running.symm.trans gone
  -- What the readers are owed is in the ring or still with the writers.
  have balance : p.sum (Worker.remaining .reading)
      = p.channel.ring.used + p.sum (Worker.remaining .writing) := by
    have owed := ledger.owed
    have sent := ledger.sent
    omega
  have noReader : ¬ 0 < p.sum (Worker.tally .reading .asleep) := by
    intro asleep
    have served := alert.readers asleep
    have owed := remaining_of_asleep staffed asleep
    rw [told, busy] at served
    have sleeps := asleep_of_remaining staffed down (d := .writing) (by omega)
    have waited := alert.writers sleeps
    rw [told, busy] at waited
    omega
  cases d with
  | reading => exact noReader
  | writing =>
    intro asleep
    have left := remaining_of_asleep staffed asleep
    exact noReader (asleep_of_remaining staffed down (d := .reading) (by omega))

/-- As long as a worker has not left, somebody can go on. -/
theorem exists_enabled {payloads : List (List UInt8)} {total : Nat} (staffed : Staffed p)
    (ledger : Ledger payloads total p) (alert : Alert p)
    (unfinished : ∃ w ∈ p.workers, w.phase ≠ .gone) : ∃ action, p.enabled action = true := by
  by_cases up : ∃ w ∈ p.workers, w.phase = .running ∨ w.phase = .notifying
  · obtain ⟨w, listed, awake⟩ := up
    obtain ⟨i, found⟩ := List.mem_iff_getElem?.mp listed
    exact exists_enabled_of_up found awake
  · have down : ∀ w ∈ p.workers, w.phase = .asleep ∨ w.phase = .gone := by
      intro w listed
      have neither : ¬ (w.phase = .running ∨ w.phase = .notifying) := fun awake =>
        up ⟨w, listed, awake⟩
      revert neither
      cases w.phase <;> simp
    obtain ⟨w, listed, here⟩ := unfinished
    obtain ⟨i, found⟩ := List.mem_iff_getElem?.mp listed
    have asleep := (down w listed).resolve_right here
    have counts : 0 < w.tally w.work.direction .asleep := by
      rw [Worker.tally, if_pos ⟨rfl, asleep⟩]
      exact Nat.one_pos
    exact absurd (sum_pos found counts) (none_asleep_of_down staffed ledger alert down _)

end Pump

end BytePipe
