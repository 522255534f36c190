import BytePipe.Proofs.Pump.Progress

/-!
The start of a pump. Cutting data into pieces loses nothing, every worker gets a session of its own
after the keeper's, and all that holds of a pump at work holds before its first step.
-/
namespace BytePipe.Pump

section Pieces

variable {size : Nat}

theorem flatten_pieces (positive : 1 ≤ size) {fuel : Nat} {data : List UInt8}
    (enough : data.length ≤ fuel) : (pieces size fuel data).flatten = data := by
  induction fuel generalizing data with
  | zero =>
    obtain rfl := List.length_eq_zero_iff.mp (Nat.le_zero.mp enough)
    rfl
  | succ fuel ih =>
    cases data with
    | nil => rfl
    | cons byte rest =>
      rw [pieces, List.flatten_cons, ih, List.take_append_drop]
      simp only [List.length_drop, List.length_cons] at *
      omega
      exact List.cons_ne_nil byte rest

/-- Every piece has a byte, and no more than it may have. -/
theorem length_of_mem_pieces (positive : 1 ≤ size) {fuel : Nat} {data : List UInt8} :
    ∀ piece ∈ pieces size fuel data, piece ≠ [] ∧ piece.length ≤ size := by
  induction fuel generalizing data with
  | zero =>
    intro piece listed
    cases data <;> contradiction
  | succ fuel ih =>
    intro piece listed
    cases data with
    | nil => contradiction
    | cons byte rest =>
      rw [pieces] at listed
      · rcases List.mem_cons.mp listed with rfl | later
        · refine ⟨?_, List.length_take_le _ _⟩
          rw [← List.length_pos_iff, List.length_take, List.length_cons]
          omega
        · exact ih piece later
      · exact List.cons_ne_nil byte rest

end Pieces

variable {memory : Memory} {ch : Channel}

/-- Opening sessions for workers on a channel in use. -/
theorem openWorkers_eq (memory : Memory) (mode : AccessMode) (works : List Work)
    (allocated : ch.ring.isAllocated = true) (counted : ch.Counted)
    (single : mode ≠ .readWrite)
    (few : ch.openUses + works.length < 2 ^ 32) :
    (openWorkers memory mode ch works).2
        = (works.zipIdx ch.sessions.length).map (fun (work, slot) => ⟨slot, work, .running⟩) ∧
      (openWorkers memory mode ch works).1.ring = ch.ring ∧
      (openWorkers memory mode ch works).1.roster
        = ch.roster ++ works.map (fun _ => (mode, true)) ∧
      (openWorkers memory mode ch works).1.openUses = ch.openUses + works.length ∧
      (∀ d, (openWorkers memory mode ch works).1.sleepers d = ch.sleepers d) ∧
      (openWorkers memory mode ch works).1.Counted := by
  induction works generalizing ch with
  | nil => exact ⟨rfl, rfl, (List.append_nil _).symm, rfl, fun _ => rfl, counted⟩
  | cons work rest ih =>
    let next := ((Turn.start ch).join mode false).channel
    have opened : ch.perform memory (.openSession mode false) = (next, .opened ch.sessions.length, []) :=
      Channel.perform_openSession_of_allocated memory mode false allocated
    have sessions : next.sessions.length = ch.sessions.length + 1 := by
      simp [next, Turn.join, Turn.start]
    have more : next.openUses = ch.openUses + 1 := by
      rw [show next.openUses = _ from Turn.openUses_join (Turn.start ch) mode false]
      cases mode with
      | readOnly => rfl
      | writeOnly => rfl
      | readWrite => contradiction
    have roster : next.roster = ch.roster ++ [(mode, true)] := by
      simp [next, Turn.join, Turn.start, Channel.roster]
    rw [List.length_cons] at few
    have sound : next.Counted :=
      Turn.counted_join (t := Turn.start ch) counted.counts allocated counted.wellFormed
        (show next.openUses < 2 ^ 32 by omega)
    obtain ⟨workers, ring, after, uses, sleepers, counted'⟩ :=
      @ih next allocated sound (by omega)
    simp only [openWorkers, opened]
    refine ⟨?_, ?_, ?_, ?_, fun d => ?_, counted'⟩
    · rw [workers, sessions, List.zipIdx_cons, List.map_cons]
    · rw [ring]
      rfl
    · rw [after, roster, List.append_assoc]
      rfl
    · rw [uses, more, List.length_cons]
      omega
    · rw [sleepers d]
      cases d <;> rfl

/-- What the producers send, cut into pieces, and what the consumers are to receive. -/
def worksFor (payloads : List (List UInt8)) (writeSize : Nat) (shares : List Nat) : List Work :=
  payloads.map (fun data => Work.produce (pieces writeSize data.length data))
    ++ shares.map Work.consume

section Totals

variable {payloads : List (List UInt8)} {writeSize : Nat} {shares : List Nat}

/-- The readers are owed their shares. -/
theorem remaining_reading :
    ((worksFor payloads writeSize shares).map
      fun work => if work.direction = .reading then bytesToSend work else 0).sum = shares.sum := by
  simp [worksFor, Function.comp_def, Work.direction, bytesToSend, List.map_const']

/-- The writers have all of the payloads to send. -/
theorem remaining_writing (pieceSize : 1 ≤ writeSize) :
    ((worksFor payloads writeSize shares).map
      fun work => if work.direction = .writing then bytesToSend work else 0).sum
        = payloads.flatten.length := by
  have whole (data : List UInt8) : (pieces writeSize data.length data).flatten = data :=
    flatten_pieces pieceSize (Nat.le_refl _)
  rw [List.length_flatten]
  simp only [worksFor, List.map_append, List.map_map, Function.comp_def, Work.direction,
    bytesToSend, whole, if_true]
  simp [List.map_const']

end Totals

/-- Workers before their first step, with the sessions after the keeper's. -/
def recruits (works : List Work) : List Worker :=
  (works.zipIdx 1).map fun (work, slot) => ⟨slot, work, .running⟩

theorem getElem?_recruits {works : List Work} {i : Nat} {w : Worker}
    (found : (recruits works)[i]? = some w) :
    ∃ work, works[i]? = some work ∧ w = ⟨i + 1, work, .running⟩ := by
  rw [recruits, List.getElem?_map, List.getElem?_zipIdx, Option.map_map,
    Option.map_eq_some_iff] at found
  obtain ⟨work, is, rfl⟩ := found
  exact ⟨work, is, by rw [Nat.add_comm]; rfl⟩

theorem map_recruits {α : Type} (f : Work → α) (works : List Work) :
    (recruits works).map (fun w => f w.work) = works.map f := by
  rw [recruits, List.map_map]
  conv => rhs; rw [← List.zipIdx_map_fst 1 works, List.map_map]
  rfl

/-- A pump whose workers are about to begin, on an empty ring that the keeper holds open. -/
structure Fresh (works : List Work) (p : Pump) : Prop where
  workers : p.workers = recruits works
  received : p.received = #[]
  booked : p.channel.ring.Booked [] []
  roster : p.channel.roster = (.readWrite, true) :: works.map fun work => (work.mode, true)
  idle : ∀ d, p.channel.sleepers d = []
  counted : p.channel.Counted

theorem start_keeper (name : String) {capacity : Nat} (positive : 0 < capacity)
    (grants : memory.grants capacity = true) :
    ∃ ch, (Channel.named name capacity).perform memory (.openSession .readWrite false)
        = (ch, .opened keeperSlot, [.allocated]) ∧
      ch.ring.capacity = capacity ∧ ch.ring.Booked [] [] ∧ ch.roster = [(.readWrite, true)] ∧
      ch.sessions.length = 1 ∧ (∀ d, ch.sleepers d = []) ∧ ch.Counted := by
  let ring : Ring := { Ring.empty capacity with storage := some #[], readPos := 0, writePos := 0 }
  have granted : (Ring.empty capacity).allocate memory = .ok ring := by
    unfold Ring.allocate
    exact if_pos grants
  have wellFormed := Ring.wellFormed_allocate (r := .empty capacity) positive granted
  let t : Turn :=
    ((Turn.start (.named name capacity)).mapChannel ({ · with ring })).record [.allocated]
  refine ⟨(t.join .readWrite false).channel, ?_, rfl, ?_, rfl, rfl, fun d => ?_, ?_⟩
  · exact Channel.perform_openSession_of_granted .readWrite false rfl granted
  · exact Ring.booked_allocate (r := .empty capacity) positive granted
  · cases d <;> rfl
  · refine Turn.counted_join (fun d => ?_) rfl wellFormed ?_
    · cases d <;> rfl
    · rw [Turn.openUses_join]
      exact (by decide : 0 + 1 + 1 < 2 ^ 32)

/-- A pump can be started on any channel that there is memory for. -/
theorem startSharing_eq (writeSize readSize : Nat) {capacity : Nat}
    {payloads : List (List UInt8)} {shares : List Nat} (positive : 0 < capacity) (grants : memory.grants capacity = true)
    (few : payloads.length + shares.length + 2 < 2 ^ 32) :
    ∃ p, startSharing memory capacity payloads writeSize shares readSize = .ok p ∧
      p.Fresh (worksFor payloads writeSize shares) ∧ p.readSize = readSize ∧
      p.channel.ring.capacity = capacity := by
  obtain ⟨ch, opened, size, booked, roster, sessions, idle, counted⟩ :=
    start_keeper Channel.defaultName positive grants
  let produce := payloads.map fun data => Work.produce (pieces writeSize data.length data)
  let consume := shares.map Work.consume
  have producers : produce.length = payloads.length := List.length_map _
  have consumers : consume.length = shares.length := List.length_map _
  have allocated : ch.ring.isAllocated = true := Option.isSome_iff_ne_none.mpr booked.stored
  have first : ch.openUses = 2 := by
    rw [Channel.openUses, Channel.openFor_eq, Channel.openFor_eq, roster]
    rfl
  obtain ⟨writers, ring, entered, uses, asleep, sound⟩ :=
    openWorkers_eq memory .writeOnly produce allocated counted AccessMode.noConfusion (by omega)
  let next := (openWorkers memory .writeOnly ch produce).1
  have places : next.sessions.length = 1 + produce.length := by
    have listed := congrArg List.length entered
    rw [roster, List.length_append, List.length_map] at listed
    rwa [Channel.roster, List.length_map] at listed
  have second : next.openUses = 2 + produce.length := by rw [← first]; exact uses
  obtain ⟨readers, ring', entered', -, asleep', sound'⟩ :=
    @openWorkers_eq next memory .readOnly consume (ring.symm ▸ allocated) sound
      AccessMode.noConfusion (by omega)
  refine ⟨⟨(openWorkers memory .readOnly next consume).1, readSize,
    (openWorkers memory .writeOnly ch produce).2 ++ (openWorkers memory .readOnly next consume).2,
    #[]⟩, ?_, ⟨?_, rfl, ?_, ?_, fun d => ?_, sound'⟩, rfl, ?_⟩
  · have created : Channel.create? Channel.defaultName capacity
        = .ok (.named Channel.defaultName capacity) := if_neg (Nat.ne_of_gt positive)
    simp only [startSharing, created, opened, bind, Except.bind]
    rfl
  · rw [writers, readers, places, sessions, recruits, worksFor, List.zipIdx_append, List.map_append]
  · rw [ring', ring]
    exact booked
  · rw [entered', entered, roster, worksFor, List.map_append, List.append_assoc]
    simp [produce, consume, Function.comp_def, Work.mode]
  · rw [asleep' d, asleep d, idle d]
  · rw [ring', ring, size]

namespace Fresh

variable {p : Pump} {payloads : List (List UInt8)} {writeSize : Nat} {shares : List Nat}

/-- The work at a place: a payload in pieces, or after the payloads a share. -/
theorem work_cases {i : Nat} {work : Work} (is : (worksFor payloads writeSize shares)[i]? = some work) :
    (∃ data, payloads[i]? = some data ∧ work = .produce (pieces writeSize data.length data)) ∨
      (payloads.length ≤ i ∧ ∃ owed ∈ shares, work = .consume owed) := by
  unfold worksFor at is
  rcases Nat.lt_or_ge i payloads.length with producer | consumer
  · rw [List.getElem?_append_left (by simpa using producer), List.getElem?_map,
      Option.map_eq_some_iff] at is
    obtain ⟨data, found, rfl⟩ := is
    exact .inl ⟨data, found, rfl⟩
  · rw [List.getElem?_append_right (by simpa using consumer), List.length_map, List.getElem?_map,
      Option.map_eq_some_iff] at is
    obtain ⟨owed, found, rfl⟩ := is
    exact .inr ⟨consumer, owed, List.mem_of_getElem? found, rfl⟩

theorem sum_eq {works : List Work} (fresh : p.Fresh works) (f : Work → Nat) :
    p.sum (fun w => f w.work) = (works.map f).sum := by
  rw [sum, fresh.workers, map_recruits]

theorem remaining {works : List Work} (fresh : p.Fresh works) (d : Direction) :
    p.sum (Worker.remaining d)
      = (works.map fun work => if work.direction = d then bytesToSend work else 0).sum :=
  fresh.sum_eq fun work => if work.direction = d then bytesToSend work else 0

theorem running {works : List Work} (fresh : p.Fresh works) {i : Nat} {w : Worker}
    (found : p.workers[i]? = some w) : ∃ work, works[i]? = some work ∧ w = ⟨i + 1, work, .running⟩ := by
  rw [fresh.workers] at found
  exact getElem?_recruits found

theorem staffed (fresh : p.Fresh (worksFor payloads writeSize shares)) (pieceSize : 1 ≤ writeSize)
    (few : payloads.length + shares.length + 2 < 2 ^ 32) : p.Staffed := by
  refine ⟨fun i w found => ?_, ?_, fresh.counted, ?_, fun d c queued => ?_, fun i w found asleep => ?_,
    fun w listed => ?_⟩
  · obtain ⟨work, -, rfl⟩ := fresh.running found
    rfl
  · rw [fresh.roster, fresh.workers, recruits, List.map_map]
    conv => lhs; rw [← List.zipIdx_map_fst 1 (worksFor payloads writeSize shares), List.map_map]
    rfl
  · rw [fresh.workers]
    simp only [recruits, worksFor, List.length_map, List.length_zipIdx, List.length_append]
    exact few
  · rw [fresh.idle d] at queued
    contradiction
  · obtain ⟨work, -, rfl⟩ := fresh.running found
    contradiction
  · obtain ⟨i, found⟩ := List.mem_iff_getElem?.mp listed
    obtain ⟨work, is, rfl⟩ := fresh.running found
    refine ⟨fun parts made piece inside => ?_, Phase.noConfusion, Phase.noConfusion⟩
    rcases work_cases is with ⟨data, -, rfl⟩ | ⟨-, owed, -, rfl⟩
    · obtain rfl := Work.produce.inj made
      exact (length_of_mem_pieces pieceSize piece inside).1
    · cases made

theorem ledger (fresh : p.Fresh (worksFor payloads writeSize shares)) (pieceSize : 1 ≤ writeSize)
    (total : shares.sum = payloads.flatten.length) :
    p.Ledger payloads payloads.flatten.length := by
  have empty : p.channel.ring.used = 0 := by
    have fifo := congrArg List.length fresh.booked.fifo
    simpa using fifo.symm
  refine ⟨?_, fun i w owed found consumes => ?_, ?_, ?_, [], ?_, ?_, fun i w parts found made => ?_⟩
  · rw [fresh.workers]
    simp [recruits, worksFor]
  · obtain ⟨work, is, rfl⟩ := fresh.running found
    rcases work_cases is with ⟨data, -, rfl⟩ | ⟨after, -⟩
    · cases consumes
    · exact after
  · rw [fresh.received, fresh.remaining, remaining_reading, total]
    exact Nat.zero_add _
  · rw [fresh.received, empty, fresh.remaining, remaining_writing pieceSize]
    exact Nat.zero_add _
  · rw [fresh.received]
    exact fresh.booked
  · intro b listed
    contradiction
  · obtain ⟨work, is, rfl⟩ := fresh.running found
    rcases work_cases is with ⟨data, here, rfl⟩ | ⟨-, owed, -, rfl⟩
    · obtain rfl := Work.produce.inj made
      rw [flatten_pieces pieceSize (Nat.le_refl _), here]
      rfl
    · cases made

/-- Nobody sleeps yet. -/
theorem alert (fresh : p.Fresh (worksFor payloads writeSize shares)) (pieceSize : 1 ≤ writeSize)
    (paced : shares.length = 1 ∨ writeSize = 1) : p.Alert := by
  have awake (d : Direction) : p.sum (Worker.tally d .asleep) = 0 := by
    refine sum_eq_zero fun w listed => if_neg fun ⟨_, asleep⟩ => ?_
    obtain ⟨i, found⟩ := List.mem_iff_getElem?.mp listed
    obtain ⟨work, -, rfl⟩ := fresh.running found
    contradiction
  refine ⟨?_, fun sleeps => ?_, fun sleeps => ?_⟩
  · rcases paced with single | tight
    · refine .inl ?_
      have readers := fresh.sum_eq fun work => if work.direction = .reading then 1 else 0
      simp [worksFor, Function.comp_def, Work.direction, List.map_const', single] at readers
      exact readers
    · refine .inr fun w listed parts made piece inside => ?_
      obtain ⟨i, found⟩ := List.mem_iff_getElem?.mp listed
      obtain ⟨work, is, rfl⟩ := fresh.running found
      rcases work_cases is with ⟨data, -, rfl⟩ | ⟨-, owed, -, rfl⟩
      · obtain rfl := Work.produce.inj made
        rw [← tight]
        exact (length_of_mem_pieces pieceSize piece inside).2
      · cases made
  · rw [awake] at sleeps
    contradiction
  · rw [awake] at sleeps
    contradiction

/-- Whoever has only just begun is no further from the end than the steps allow. -/
theorem measure_le {works : List Work} (fresh : p.Fresh works) : p.measure ≤ p.steps := by
  have up : ∀ w ∈ p.workers, w.phase = .running := by
    intro w listed
    obtain ⟨i, found⟩ := List.mem_iff_getElem?.mp listed
    obtain ⟨work, -, rfl⟩ := fresh.running found
    rfl
  unfold measure sum steps
  revert up
  induction p.workers with
  | nil => exact fun _ => Nat.le_refl 0
  | cons w rest ih =>
    intro up
    have others := ih fun v listed => up v (List.mem_cons_of_mem w listed)
    have one : weight w.phase = 1 := congrArg weight (up w List.mem_cons_self)
    simp only [List.map_cons, List.sum_cons, List.foldr_cons, one]
    omega

end Fresh

end BytePipe.Pump
