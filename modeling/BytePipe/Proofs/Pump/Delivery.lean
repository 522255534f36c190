import BytePipe.Proofs.Pump.Start

/-!
Every schedule of a pump comes to an end, no worker is left behind on the way, and at the end every
byte has arrived. What holds of a pump at work (`Sound`) holds at the start and after every step;
the measure bounds how many steps there can be, and once all workers are gone the books say what
has been received.
-/
namespace BytePipe

/-- `merged` takes all bytes of the sources, each time the first that is left of one of them. -/
inductive Shuffle : (sources : List (List UInt8)) → (merged : List UInt8) → Prop where
  | done {sources : List (List UInt8)} (empty : ∀ source ∈ sources, source = []) :
    Shuffle sources []
  | next {sources : List (List UInt8)} {merged rest : List UInt8} {byte : UInt8} (i : Nat)
    (first : sources[i]? = some (byte :: rest)) (later : Shuffle (sources.set i rest) merged) :
    Shuffle sources (byte :: merged)

theorem sentBy_cons (i j : Nat) (byte : UInt8) (tagged : List (Nat × UInt8)) :
    sentBy i ((j, byte) :: tagged) = if j = i then byte :: sentBy i tagged else sentBy i tagged := by
  by_cases same : j = i
  · simp [sentBy, same]
  · simp [sentBy, same]

/-- Bytes with the number of their source are a shuffle of what each source has sent. -/
theorem shuffle_of_tagged {tagged : List (Nat × UInt8)} {sources : List (List UInt8)}
    (known : ∀ b ∈ tagged, b.1 < sources.length)
    (sent : ∀ i source, sources[i]? = some source → source = sentBy i tagged) :
    Shuffle sources (tagged.map (·.2)) := by
  induction tagged generalizing sources with
  | nil =>
    refine .done fun source listed => ?_
    obtain ⟨i, found⟩ := List.mem_iff_getElem?.mp listed
    exact sent i source found
  | cons b rest ih =>
    obtain ⟨i, byte⟩ := b
    have inside : i < sources.length := known (i, byte) List.mem_cons_self
    have found : sources[i]? = some sources[i] := List.getElem?_eq_getElem inside
    have first := sent i _ found
    rw [sentBy_cons, if_pos rfl] at first
    refine .next i (first ▸ found) (ih (fun b listed => ?_) fun j source is => ?_)
    · rw [List.length_set]
      exact known b (List.mem_cons_of_mem _ listed)
    · rcases getElem?_set_cases is with ⟨rfl, rfl⟩ | ⟨ne, before⟩
      · rfl
      · rw [sent j source before, sentBy_cons, if_neg ne]

/-- A single source comes out as it is. -/
theorem Shuffle.single {source merged : List UInt8} (shuffle : Shuffle [source] merged) :
    merged = source := by
  induction merged generalizing source with
  | nil =>
    cases shuffle with
    | done empty => exact (empty source List.mem_cons_self).symm
  | cons byte merged ih =>
    cases shuffle with
    | next i first later =>
      cases i with
      | zero =>
        obtain rfl := Option.some.inj first
        rw [ih later]
      | succ i => cases first

namespace Pump

variable {memory : Memory} {p q : Pump} {payloads : List (List UInt8)} {capacity : Nat}

/-- What holds of a pump at work. -/
structure Sound (payloads : List (List UInt8)) (capacity : Nat) (p : Pump) : Prop where
  staffed : p.Staffed
  ledger : p.Ledger payloads payloads.flatten.length
  alert : p.Alert
  positive : 0 < p.readSize
  size : p.channel.ring.capacity = capacity
  large : 2 ≤ capacity

/-- All workers are done: what has been received is a shuffle of the payloads, which keeps the order
of each, and the ring is empty where that many bytes have brought its positions. -/
structure Delivered (payloads : List (List UInt8)) (capacity : Nat) (p : Pump) : Prop where
  shuffle : Shuffle payloads p.received.toList
  single : ∀ payload, payloads = [payload] → p.received.toList = payload
  used : p.channel.ring.used = 0
  readPos : p.channel.ring.readPos = payloads.flatten.length % capacity
  writePos : p.channel.ring.writePos = payloads.flatten.length % capacity

/-- The room on the ring and the size of a read do not change. -/
theorem Stepped.sizes (stepped : Stepped memory p q) (staffed : p.Staffed) :
    q.channel.ring.capacity = p.channel.ring.capacity ∧ q.readSize = p.readSize := by
  cases stepped with
  | took found nonempty => exact ⟨rfl, rfl⟩
  | put found room => exact ⟨rfl, rfl⟩
  | slept found running asks unready =>
    exact ⟨congrArg Ring.capacity (Channel.ring_setQueue _ _ _), rfl⟩
  | told found notifying nobody => exact ⟨rfl, rfl⟩
  | woke found notifying asleep =>
    exact ⟨congrArg Ring.capacity (Channel.ring_setQueue _ _ _), rfl⟩
  | @left i w found running done =>
    have ring : (p.channel.perform memory (.closeSession w.slot)).1.ring = p.channel.ring :=
      staffed.ring_left found running
    exact ⟨congrArg Ring.capacity ring, rfl⟩

namespace Sound

theorem step (sound : p.Sound payloads capacity) (stepped : Stepped memory p q) :
    q.Sound payloads capacity := by
  have large : 2 ≤ p.channel.ring.capacity := sound.size ▸ sound.large
  obtain ⟨size, readSize⟩ := stepped.sizes sound.staffed
  constructor
  · exact sound.staffed.step stepped
  · exact sound.ledger.step sound.staffed stepped
  · exact sound.alert.step sound.staffed large sound.positive stepped
  · rw [readSize]
    exact sound.positive
  · rw [size]
    exact sound.size
  · exact sound.large

/-- Along a schedule a pump stays sound, and every step brings it closer to the end. -/
theorem schedule {actions : List PumpAction} (sound : p.Sound payloads capacity)
    (schedule : Schedule memory p actions q) :
    q.Sound payloads capacity ∧ actions.length + q.measure ≤ p.measure := by
  induction schedule with
  | start => exact ⟨sound, Nat.le_of_eq (Nat.zero_add _)⟩
  | @step actions r action before enabled ih =>
    obtain ⟨reached, spent⟩ := ih
    have stepped : Stepped memory r (r.apply memory action) := stepped_apply enabled
    have closer := measure_lt reached.staffed reached.positive stepped
    refine ⟨reached.step stepped, ?_⟩
    rw [List.length_append, List.length_singleton]
    omega

/-- Nobody who is gone has bytes left to move. -/
theorem remaining_of_gone (sound : p.Sound payloads capacity)
    (gone : ∀ w ∈ p.workers, w.phase = .gone) (d : Direction) : p.sum (Worker.remaining d) = 0 := by
  refine sum_eq_zero fun w listed => ?_
  have done := (sound.staffed.proper w listed).finished (gone w listed)
  rw [Worker.remaining, bytesToSend_of_done done, ite_self]

/-- A payload has been sent when the worker in its place is gone. -/
theorem sent_of_gone (sound : p.Sound payloads capacity) (gone : ∀ w ∈ p.workers, w.phase = .gone)
    {tagged : List (Nat × UInt8)}
    (sources : ∀ i w pieces, p.workers[i]? = some w → w.work = .produce pieces →
      payloads[i]? = some (sentBy i tagged ++ pieces.flatten))
    {i : Nat} {payload : List UInt8} (is : payloads[i]? = some payload) :
    payload = sentBy i tagged := by
  have inside : i < payloads.length := (List.getElem?_eq_some_iff.mp is).1
  have place : i < p.workers.length := Nat.lt_of_lt_of_le inside sound.ledger.enough
  have found : p.workers[i]? = some p.workers[i] := List.getElem?_eq_getElem place
  have listed := List.mem_of_getElem? found
  have done := (sound.staffed.proper _ listed).finished (gone _ listed)
  cases work : p.workers[i].work with
  | consume owed =>
    have after := sound.ledger.consumers i _ owed found work
    omega
  | produce pieces =>
    rw [work] at done
    obtain rfl := List.isEmpty_iff.mp done
    have source := sources i _ [] found work
    rw [is, List.flatten_nil, List.append_nil] at source
    exact Option.some.inj source

theorem delivered (sound : p.Sound payloads capacity) (gone : ∀ w ∈ p.workers, w.phase = .gone) :
    p.Delivered payloads capacity := by
  have owed := sound.ledger.owed
  have sent := sound.ledger.sent
  rw [sound.remaining_of_gone gone] at owed sent
  have used : p.channel.ring.used = 0 := by omega
  obtain ⟨tagged, booked, known, sources⟩ := sound.ledger.books
  have contents : p.channel.ring.contents = [] := by
    rw [← List.length_eq_zero_iff, Ring.length_contents, used]
  have all : tagged.map (·.2) = p.received.toList := by
    rw [booked.fifo, contents, List.append_nil]
  have shuffle : Shuffle payloads p.received.toList := by
    rw [← all]
    exact shuffle_of_tagged known fun i payload is => sound.sent_of_gone gone sources is
  refine ⟨shuffle, fun payload only => ?_, used, ?_, ?_⟩
  · rw [only] at shuffle
    exact shuffle.single
  · rw [booked.readPos, sound.size, ← owed, Nat.add_zero]
  · rw [booked.writePos, sound.size, all, ← owed, Nat.add_zero]

end Sound

/-! ## From the start -/

variable {writeSize readSize : Nat} {shares : List Nat}

/-- A pump can be started, is sound from the start and counts its steps generously. -/
theorem exists_sound_start (large : 2 ≤ capacity) (grants : memory.grants capacity = true)
    (pieceSize : 1 ≤ writeSize) (positive : 1 ≤ readSize)
    (total : shares.sum = payloads.flatten.length)
    (paced : shares.length = 1 ∨ writeSize = 1)
    (few : payloads.length + shares.length + 2 < 2 ^ 32) :
    ∃ p, startSharing memory capacity payloads writeSize shares readSize = .ok p ∧
      p.Sound payloads capacity ∧ p.measure ≤ p.steps := by
  obtain ⟨p, started, fresh, rfl, size⟩ :=
    startSharing_eq writeSize readSize (by omega : 0 < capacity) grants few
  refine ⟨p, started, ⟨?_, ?_, ?_, positive, size, large⟩, ?_⟩
  · exact fresh.staffed pieceSize few
  · exact fresh.ledger pieceSize total
  · exact fresh.alert pieceSize paced
  · exact fresh.measure_le

/-- With one reader, or with writers that send one byte at a time, a pump never gets stuck, however
its workers take turns: every schedule ends after `p.steps` steps at most, and then everything has
been delivered. The open counts are 32-bit words: the bound on the workers is where their sum, in
which the keeper is counted twice, still fits one. -/
theorem every_schedule_delivers (large : 2 ≤ capacity) (grants : memory.grants capacity = true)
    (pieceSize : 1 ≤ writeSize) (positive : 1 ≤ readSize)
    (total : shares.sum = payloads.flatten.length)
    (paced : shares.length = 1 ∨ writeSize = 1)
    (few : payloads.length + shares.length + 2 < 2 ^ 32) :
    ∃ p, startSharing memory capacity payloads writeSize shares readSize = .ok p ∧
      ∀ actions q, Schedule memory p actions q →
        actions.length ≤ p.steps ∧
        ((∃ w ∈ q.workers, w.phase ≠ .gone) → ∃ action, q.enabled action = true) ∧
        ((∀ w ∈ q.workers, w.phase = .gone) → q.Delivered payloads capacity) := by
  obtain ⟨p, started, sound, most⟩ :=
    exists_sound_start large grants pieceSize positive total paced few
  refine ⟨p, started, fun actions q schedule => ?_⟩
  obtain ⟨reached, spent⟩ := sound.schedule schedule
  refine ⟨?_, fun unfinished => ?_, fun gone => reached.delivered gone⟩
  · omega
  · exact exists_enabled reached.staffed reached.ledger reached.alert unfinished

/-- Two bytes through a ring that has room for one. -/
theorem every_schedule_delivers_two_bytes :
    ∃ p, startSharing ⟨16, by decide⟩ 2 [[7, 8]] 2 [2] 2 = .ok p ∧
      ∀ actions q, Schedule ⟨16, by decide⟩ p actions q →
        actions.length ≤ p.steps ∧
        ((∃ w ∈ q.workers, w.phase ≠ .gone) → ∃ action, q.enabled action = true) ∧
        ((∀ w ∈ q.workers, w.phase = .gone) → q.Delivered [[7, 8]] 2) :=
  every_schedule_delivers (by decide) (by decide) (by decide) (by decide) (by decide) (by decide)
    (by decide)

/-! ## Workers that come first go first -/

theorem enabled_actionOf? {i : Nat} {w : Worker} {action : PumpAction}
    (found : p.workers[i]? = some w) (does : p.actionOf? i w = some action) :
    p.enabled action = true := by
  cases phase : w.phase with
  | running =>
    simp only [actionOf?, phase, Option.some.injEq] at does
    subst does
    cases asks : w.work.request? p.readSize <;> simp [Pump.enabled, found, phase, asks]
  | notifying =>
    simp only [actionOf?, phase, Option.some.injEq] at does
    subst does
    cases asleep : p.sleepersFor w <;> simp [Pump.enabled, found, phase, asleep]
  | asleep => simp [actionOf?, phase] at does
  | gone => simp [actionOf?, phase] at does

theorem enabled_nextAction? {action : PumpAction} (next : p.nextAction? = some action) :
    p.enabled action = true := by
  obtain ⟨⟨w, i⟩, listed, does⟩ := List.exists_of_findSome?_eq_some next
  exact enabled_actionOf? (List.mem_zipIdx_iff_getElem?.mp listed) does

/-- Only a worker that is up can do something. -/
theorem up_of_enabled {action : PumpAction} (enabled : p.enabled action = true) :
    ∃ (i : Nat) (w : Worker), p.workers[i]? = some w ∧
      (w.phase = .running ∨ w.phase = .notifying) := by
  cases action with
  | enter i =>
    simp only [Pump.enabled, Option.any_eq_true, Bool.and_eq_true, decide_eq_true_eq] at enabled
    obtain ⟨w, found, running, -⟩ := enabled
    exact ⟨i, w, found, .inl running⟩
  | notify i sleeper =>
    cases sleeper with
    | none =>
      simp only [Pump.enabled, Option.any_eq_true, Bool.and_eq_true, decide_eq_true_eq] at enabled
      obtain ⟨w, found, notifying, -⟩ := enabled
      exact ⟨i, w, found, .inr notifying⟩
    | some j =>
      simp only [Pump.enabled, Option.any_eq_true, Bool.and_eq_true, decide_eq_true_eq] at enabled
      obtain ⟨w, found, notifying, -⟩ := enabled
      exact ⟨i, w, found, .inr notifying⟩
  | leave i =>
    simp only [Pump.enabled, Option.any_eq_true, Bool.and_eq_true, decide_eq_true_eq] at enabled
    obtain ⟨w, found, running, -⟩ := enabled
    exact ⟨i, w, found, .inl running⟩

/-- There is a next step whenever there is one at all. -/
theorem isSome_nextAction? {action : PumpAction} (enabled : p.enabled action = true) :
    p.nextAction?.isSome = true := by
  obtain ⟨i, w, found, up⟩ := up_of_enabled enabled
  rw [nextAction?, List.findSome?_isSome_iff]
  refine ⟨(w, i), List.mem_zipIdx_iff_getElem?.mpr found, ?_⟩
  rcases up with running | notifying
  · simp [actionOf?, running]
  · simp [actionOf?, notifying]

/-- Where there is no next step, all are gone. -/
theorem Sound.gone_of_rest (sound : p.Sound payloads capacity) (rest : p.nextAction? = none) :
    ∀ w ∈ p.workers, w.phase = .gone := by
  intro w listed
  refine Decidable.byContradiction fun here => ?_
  obtain ⟨action, enabled⟩ :=
    exists_enabled sound.staffed sound.ledger sound.alert ⟨w, listed, here⟩
  have next := isSome_nextAction? enabled
  rw [rest] at next
  contradiction

theorem Sound.next (memory : Memory) {action : PumpAction} (sound : p.Sound payloads capacity)
    (next : p.nextAction? = some action) :
    (p.apply memory action).Sound payloads capacity ∧
      (p.apply memory action).measure < p.measure := by
  have stepped : Stepped memory p (p.apply memory action) := stepped_apply (enabled_nextAction? next)
  exact ⟨sound.step stepped, measure_lt sound.staffed sound.positive stepped⟩

/-- Run for as many steps as a sound pump can take, it comes to its end. -/
theorem Sound.run {fuel : Nat} (sound : p.Sound payloads capacity) (enough : p.measure ≤ fuel) :
    (p.run memory fuel).Sound payloads capacity ∧
      ∀ w ∈ (p.run memory fuel).workers, w.phase = .gone := by
  induction fuel generalizing p with
  | zero =>
    refine ⟨sound, sound.gone_of_rest (Option.eq_none_iff_forall_ne_some.mpr fun action next => ?_)⟩
    have less := (sound.next memory next).2
    omega
  | succ fuel ih =>
    rw [Pump.run]
    cases next : p.nextAction? with
    | none => exact ⟨sound, sound.gone_of_rest next⟩
    | some action =>
      obtain ⟨after, less⟩ := sound.next memory next
      exact ih after (by omega)

/-- So the pump that runs has delivered everything within the steps it is given. -/
theorem run_delivers (large : 2 ≤ capacity) (grants : memory.grants capacity = true)
    (pieceSize : 1 ≤ writeSize) (positive : 1 ≤ readSize)
    (total : shares.sum = payloads.flatten.length)
    (paced : shares.length = 1 ∨ writeSize = 1)
    (few : payloads.length + shares.length + 2 < 2 ^ 32) :
    ∃ p, startSharing memory capacity payloads writeSize shares readSize = .ok p ∧
      (∀ w ∈ (p.run memory p.steps).workers, w.phase = .gone) ∧
      (p.run memory p.steps).Delivered payloads capacity := by
  obtain ⟨p, started, sound, most⟩ :=
    exists_sound_start large grants pieceSize positive total paced few
  obtain ⟨reached, gone⟩ := sound.run most
  exact ⟨p, started, gone, reached.delivered gone⟩

end Pump

end BytePipe
