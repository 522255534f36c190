import BytePipe.Proofs.Pump.Steps

/-!
Who works on a pump and where they are. Each worker holds the session after the keeper's that its
place gives it, the queues hold the workers that are asleep and no others, and the channel is sound
(`Staffed`). No step changes that.
-/
namespace BytePipe

/-- No piece is empty; whoever sleeps has work left, and whoever is gone has none. -/
structure Worker.Proper (w : Worker) : Prop where
  whole : ∀ pieces, w.work = .produce pieces → ∀ piece ∈ pieces, piece ≠ []
  waiting : w.phase = .asleep → w.work.isDone = false
  finished : w.phase = .gone → w.work.isDone = true

namespace Worker

/-- What a worker's session looks like on the channel. -/
def entry (w : Worker) : AccessMode × Bool :=
  (w.work.mode, w.phase != .gone)

end Worker

namespace Pump

structure Staffed (p : Pump) : Prop where
  slots : ∀ i w, p.workers[i]? = some w → w.slot = i + 1
  roster : p.channel.roster = (.readWrite, true) :: p.workers.map Worker.entry
  counted : p.channel.Counted
  few : p.workers.length + 2 < 2 ^ 32
  asleep : ∀ d, ∀ c ∈ p.channel.sleepers d, c.slot = c.ticket + 1 ∧
    ∃ w, p.workers[c.ticket]? = some w ∧ w.phase = .asleep ∧ w.work.direction = d
  queued : ∀ i w, p.workers[i]? = some w → w.phase = .asleep →
    ∃ c ∈ p.channel.sleepers w.work.direction, c.ticket = i
  proper : ∀ w ∈ p.workers, w.Proper

namespace Staffed

variable {memory : Memory} {p q : Pump} {i : Nat} {w old new : Worker}

theorem listed (staffed : Staffed p) (found : p.workers[i]? = some w) :
    p.channel.roster[i + 1]? = some w.entry := by
  rw [staffed.roster, List.getElem?_cons_succ, List.getElem?_map, found]
  rfl

theorem keeper (staffed : Staffed p) : p.channel.roster[keeperSlot]? = some (.readWrite, true) := by
  rw [staffed.roster]
  rfl

theorem stored (staffed : Staffed p) : p.channel.ring.storage ≠ none :=
  Option.isSome_iff_ne_none.mp
    (staffed.counted.storage.mpr (Channel.openSessions_pos staffed.keeper))

/-- The keeper is counted twice, and each worker once at most. -/
theorem openUses_le (staffed : Staffed p) : p.channel.openUses ≤ p.workers.length + 2 := by
  have directed (d : Direction) : p.channel.openFor d
      = (p.workers.map Worker.entry).countP (fun r => r.2 && r.1.permits d) + 1 := by
    rw [Channel.openFor_eq, staffed.roster, List.countP_cons_of_pos (by cases d <;> rfl)]
  have single (workers : List Worker) :
      (workers.map Worker.entry).countP (fun r => r.2 && r.1.permits .reading)
        + (workers.map Worker.entry).countP (fun r => r.2 && r.1.permits .writing)
          ≤ workers.length := by
    induction workers with
    | nil => exact Nat.le_refl 0
    | cons w rest ih =>
      have once : (if (w.entry.2 && w.entry.1.permits .reading) = true then 1 else 0)
          + (if (w.entry.2 && w.entry.1.permits .writing) = true then 1 else 0) ≤ 1 := by
        obtain ⟨slot, work, phase⟩ := w
        cases work <;> cases phase <;> simp [Worker.entry, Work.mode, AccessMode.permits]
      simp only [List.map_cons, List.countP_cons, List.length_cons]
      omega
  have workers := single p.workers
  rw [Channel.openUses, directed, directed]
  omega

theorem openUses_lt (staffed : Staffed p) : p.channel.openUses < 2 ^ 32 :=
  Nat.lt_of_le_of_lt staffed.openUses_le staffed.few

/-- A worker that is awake is in no queue. -/
theorem ticket_ne (staffed : Staffed p) (found : p.workers[i]? = some w) (awake : w.phase ≠ .asleep)
    {d : Direction} {c : Call} (sleeps : c ∈ p.channel.sleepers d) : c.ticket ≠ i := by
  rintro rfl
  obtain ⟨-, other, is, asleep, -⟩ := staffed.asleep d c sleeps
  rw [found] at is
  obtain rfl := Option.some.inj is
  exact awake asleep

/-- A worker's session is open for what it asks for and there is something to move, so the checks
that a call has to pass first are left out of its steps. -/
theorem fits (staffed : Staffed p) (positive : 0 < p.readSize) (found : p.workers[i]? = some w)
    (running : w.phase = .running) {r : Request} (asks : w.work.request? p.readSize = some r) :
    p.channel.Fits ⟨i, w.slot, r⟩ := by
  have listed := staffed.listed found
  have permits := w.work.permits_mode
  rw [Worker.entry, running] at listed
  refine ⟨⟨w.work.mode, ?_, ?_⟩, ?_⟩
  · rw [staffed.slots i w found]
    exact listed
  · rw [← Work.direction_of_request? asks] at permits
    exact permits
  · have whole := (staffed.proper w (List.mem_of_getElem? found)).whole
    cases work : w.work with
    | produce pieces =>
      rw [work] at asks whole
      cases pieces with
      | nil => cases asks
      | cons piece later =>
        obtain rfl := Option.some.inj asks
        have some := whole _ rfl piece List.mem_cons_self
        simpa [Request.isTrivial] using some
    | consume owed =>
      rw [work] at asks
      cases owed with
      | zero => cases asks
      | succ owed =>
        obtain rfl := Option.some.inj asks
        simp only [Request.isTrivial, beq_eq_false_iff_ne]
        omega

/-- One worker goes on. The others that sleep stay in the queues, and it is in one itself exactly if
it now sleeps. -/
theorem replace (staffed : Staffed p) (found : p.workers[i]? = some old)
    (workers : q.workers = p.workers.set i new) (slot : new.slot = old.slot) (proper : new.Proper)
    (roster : q.channel.roster = p.channel.roster.set (i + 1) new.entry)
    (counted : q.channel.Counted)
    (asleep : ∀ d, ∀ c ∈ q.channel.sleepers d, (c.ticket ≠ i ∧ c ∈ p.channel.sleepers d) ∨
      (c.ticket = i ∧ c.slot = i + 1 ∧ new.phase = .asleep ∧ new.work.direction = d))
    (others : ∀ d, ∀ c ∈ p.channel.sleepers d, c.ticket ≠ i → c ∈ q.channel.sleepers d)
    (joins : new.phase = .asleep → ∃ c ∈ q.channel.sleepers new.work.direction, c.ticket = i) :
    Staffed q where
  slots j w is := by
    rw [workers] at is
    rcases getElem?_set_cases is with ⟨same, rfl⟩ | ⟨-, before⟩
    · rw [slot, staffed.slots i old found, same]
    · exact staffed.slots j w before
  roster := by
    rw [roster, staffed.roster, workers, List.set_cons_succ, List.map_set]
  counted := counted
  few := by
    rw [workers, List.length_set]
    exact staffed.few
  asleep d c sleeps := by
    rcases asleep d c sleeps with ⟨ne, before⟩ | ⟨rfl, place, naps, direction⟩
    · rw [workers, List.getElem?_set_ne ne.symm]
      exact staffed.asleep d c before
    · refine ⟨place, new, ?_, naps, direction⟩
      rw [workers, List.getElem?_set_self (List.getElem?_eq_some_iff.mp found).1]
  queued j w is naps := by
    rw [workers] at is
    rcases getElem?_set_cases is with ⟨rfl, rfl⟩ | ⟨ne, before⟩
    · exact joins naps
    · obtain ⟨c, sleeps, ticket⟩ := staffed.queued j w before naps
      exact ⟨c, others _ c sleeps (ticket ▸ ne.symm), ticket⟩
  proper w listed := by
    rw [workers] at listed
    rcases List.mem_or_eq_of_mem_set listed with before | rfl
    · exact staffed.proper w before
    · exact proper

/-- One worker that is and stays awake goes on. -/
theorem update (staffed : Staffed p) (found : p.workers[i]? = some old)
    (workers : q.workers = p.workers.set i new) (slot : new.slot = old.slot)
    (awake : old.phase ≠ .asleep) (stays : new.phase ≠ .asleep) (proper : new.Proper)
    (roster : q.channel.roster = p.channel.roster.set (i + 1) new.entry)
    (counted : q.channel.Counted)
    (sleepers : ∀ d, q.channel.sleepers d = p.channel.sleepers d) : Staffed q := by
  refine staffed.replace found workers slot proper roster counted (fun d c sleeps => ?_)
    (fun d c sleeps _ => ?_) fun naps => absurd naps stays
  · rw [sleepers d] at sleeps
    exact .inl ⟨staffed.ticket_ne found awake sleeps, sleeps⟩
  · rw [sleepers d]
    exact sleeps

theorem roster_same (staffed : Staffed p) (found : p.workers[i]? = some old)
    (entry : new.entry = old.entry) :
    p.channel.roster.set (i + 1) new.entry = p.channel.roster := by
  obtain ⟨inside, same⟩ := List.getElem?_eq_some_iff.mp (staffed.listed found)
  rw [entry, ← same, List.set_getElem_self]

/-- A worker that moves bytes changes the ring only. -/
theorem moved (staffed : Staffed p) (found : p.workers[i]? = some old)
    (workers : q.workers = p.workers.set i new) (slot : new.slot = old.slot)
    (entry : new.entry = old.entry) (awake : old.phase ≠ .asleep) (stays : new.phase ≠ .asleep)
    (proper : new.Proper) {ring : Ring} (channel : q.channel = { p.channel with ring })
    (allocated : ring.isAllocated = p.channel.ring.isAllocated) (wellFormed : ring.WellFormed) :
    Staffed q := by
  refine staffed.update found workers slot awake stays proper ?_ ?_ fun d => ?_
  · rw [staffed.roster_same found entry, channel]
    rfl
  · rw [channel]
    exact staffed.counted.of_eq rfl rfl rfl allocated wellFormed
  · rw [channel]
    cases d <;> rfl

theorem took (staffed : Staffed p) {slot owed : Nat}
    (found : p.workers[i]? = some ⟨slot, .consume (owed + 1), .running⟩)
    (nonempty : p.channel.ring.isEmpty = false) :
    Staffed
      (p.transfer i ⟨slot, .consume (owed + 1), .running⟩ (.read (min p.readSize (owed + 1)))) := by
  refine staffed.moved found rfl rfl rfl ?_ ?_ ⟨?_, ?_, ?_⟩ rfl rfl
    (Ring.wellFormed_take staffed.counted.wellFormed nonempty _)
  · exact Phase.noConfusion
  · exact Phase.noConfusion
  · intro pieces is
    cases is
  · exact Phase.noConfusion
  · exact Phase.noConfusion

/-- What is left of a piece is not empty, or it is left out. -/
theorem put (staffed : Staffed p) {slot : Nat} {piece : List UInt8} {later : List (List UInt8)}
    (found : p.workers[i]? = some ⟨slot, .produce (piece :: later), .running⟩) :
    Staffed (p.transfer i ⟨slot, .produce (piece :: later), .running⟩ (.write piece)) := by
  have whole := (staffed.proper _ (List.mem_of_getElem? found)).whole _ rfl
  refine staffed.moved found rfl rfl rfl ?_ ?_ ⟨?_, ?_, ?_⟩ rfl Option.isSome_map
    (Ring.wellFormed_put staffed.counted.wellFormed staffed.stored _)
  · exact Phase.noConfusion
  · exact Phase.noConfusion
  · intro pieces is other listed
    obtain rfl := Work.produce.inj is
    split at listed
    · rename_i partly
      rcases List.mem_cons.mp listed with rfl | rest
      · rw [← List.length_pos_iff, List.length_drop]
        omega
      · exact whole other (List.mem_cons_of_mem _ rest)
    · exact whole other (List.mem_cons_of_mem _ listed)
  · exact Phase.noConfusion
  · exact Phase.noConfusion

/-- A worker that has paid its wake-up goes on, whoever the wake-up reaches. -/
theorem told (staffed : Staffed p) (found : p.workers[i]? = some w)
    (notifying : w.phase = .notifying) : Staffed (p.setWorker i { w with phase := .running }) := by
  have whole := (staffed.proper w (List.mem_of_getElem? found)).whole
  have entry : Worker.entry { w with phase := .running } = w.entry := by
    rw [Worker.entry, Worker.entry, notifying]
    rfl
  refine staffed.moved found rfl rfl entry ?_ Phase.noConfusion
    ⟨whole, Phase.noConfusion, Phase.noConfusion⟩ rfl rfl staffed.counted.wellFormed
  rw [notifying]
  exact Phase.noConfusion

/-- A worker that only changes its place leaves the roster as it is. -/
theorem roster_requeued (staffed : Staffed p) (found : p.workers[i]? = some old)
    (entry : new.entry = old.entry) (queue : WaitQueue) (d : Direction) :
    (p.channel.setQueue queue d).roster = p.channel.roster.set (i + 1) new.entry := by
  rw [staffed.roster_same found entry]
  exact Channel.roster_setQueue _ _ _

/-- A worker that falls asleep joins the queue of its direction. -/
theorem slept (staffed : Staffed p) {r : Request} (found : p.workers[i]? = some w)
    (running : w.phase = .running) (asks : w.work.request? p.readSize = some r) :
    Staffed (p.sleep i w r) := by
  have direction := Work.direction_of_request? asks
  have slot := staffed.slots i w found
  have awake : w.phase ≠ .asleep := by
    rw [running]
    exact Phase.noConfusion
  have unfinished : w.work.isDone = false := by
    have some := w.work.request?_isSome p.readSize
    rw [asks] at some
    simpa using some
  have entry : Worker.entry { w with phase := .asleep } = w.entry := by
    rw [Worker.entry, Worker.entry, running]
    rfl
  have proper : Worker.Proper { w with phase := .asleep } :=
    ⟨(staffed.proper w (List.mem_of_getElem? found)).whole, fun _ => unfinished,
      Phase.noConfusion⟩
  have sleepers (d : Direction) : (p.sleep i w r).channel.sleepers d
      = if d = r.direction then p.channel.sleepers r.direction ++ [⟨i, w.slot, r⟩]
        else p.channel.sleepers d :=
    Channel.sleepers_setQueue _ _ _ d
  refine staffed.replace found rfl rfl proper (staffed.roster_requeued found entry _ _)
    (staffed.counted.setQueue _ _) (fun d c sleeps => ?_) (fun d c sleeps _ => ?_) fun _ => ?_
  · rw [sleepers] at sleeps
    split at sleeps
    · rename_i same
      rcases List.mem_append.mp sleeps with before | last
      · exact .inl ⟨staffed.ticket_ne found awake before, same ▸ before⟩
      · obtain rfl := List.mem_singleton.mp last
        exact .inr ⟨rfl, slot, rfl, direction.symm.trans same.symm⟩
    · exact .inl ⟨staffed.ticket_ne found awake sleeps, sleeps⟩
  · rw [sleepers]
    split
    · rename_i same
      exact List.mem_append_left _ (same ▸ sleeps)
    · exact sleeps
  · refine ⟨⟨i, w.slot, r⟩, ?_, rfl⟩
    rw [sleepers, if_pos direction.symm]
    simp

/-- The workers after one of them has been woken. -/
theorem workers_wake (p : Pump) (d : Direction) {j : Nat} (found : p.workers[j]? = some w) :
    (p.wake d j).workers = p.workers.set j { w with phase := .running } :=
  modify_eq_set found _

theorem sleepers_wake (p : Pump) (d e : Direction) (j : Nat) :
    (p.wake d j).channel.sleepers e
      = if e = d then (p.channel.sleepers d).filter (·.ticket ≠ j) else p.channel.sleepers e :=
  Channel.sleepers_setQueue _ _ d e

/-- A sleeper that is woken leaves its queue. -/
theorem woken (staffed : Staffed p) {d : Direction} {c : Call}
    (sleeps : c ∈ p.channel.sleepers d) : Staffed (p.wake d c.ticket) := by
  obtain ⟨-, w, found, asleep, direction⟩ := staffed.asleep d c sleeps
  have entry : Worker.entry { w with phase := .running } = w.entry := by
    rw [Worker.entry, Worker.entry, asleep]
    rfl
  have proper : Worker.Proper { w with phase := .running } :=
    ⟨(staffed.proper w (List.mem_of_getElem? found)).whole, Phase.noConfusion, Phase.noConfusion⟩
  refine staffed.replace found (workers_wake p d found) rfl proper
    (staffed.roster_requeued found entry _ _) (staffed.counted.setQueue _ _)
    (fun e other queued => ?_) (fun e other queued ne => ?_) Phase.noConfusion
  · rw [sleepers_wake] at queued
    split at queued
    · rename_i same
      obtain ⟨before, ne⟩ := List.mem_filter.mp queued
      exact .inl ⟨by simpa using ne, same ▸ before⟩
    · rename_i differ
      refine .inl ⟨fun same => differ ?_, queued⟩
      obtain ⟨-, v, is, -, place⟩ := staffed.asleep e other queued
      rw [same, found] at is
      obtain rfl := Option.some.inj is
      exact place.symm.trans direction
  · rw [sleepers_wake]
    split
    · rename_i same
      subst same
      exact List.mem_filter.mpr ⟨queued, by simpa using ne⟩
    · exact queued

/-- The session of a worker that is awake can be closed. -/
theorem endable (staffed : Staffed p) (found : p.workers[i]? = some w) (awake : w.phase ≠ .asleep)
    (here : w.phase ≠ .gone) :
    (∃ s, p.channel.openSession? w.slot = some s ∧ s.mode = w.work.mode) ∧
      p.channel.isWaiting w.slot = false := by
  have slot := staffed.slots i w found
  have listed := staffed.listed found
  rw [Worker.entry, bne_iff_ne.mpr here, ← slot] at listed
  refine ⟨Channel.openSession?_of_roster listed, List.any_eq_false.mpr fun c queued => ?_⟩
  have ne : c.ticket ≠ i := by
    rcases List.mem_append.mp queued with reads | writes
    · exact staffed.ticket_ne found awake (show c ∈ p.channel.sleepers .reading from reads)
    · exact staffed.ticket_ne found awake (show c ∈ p.channel.sleepers .writing from writes)
  have place : c.slot = c.ticket + 1 := by
    rcases List.mem_append.mp queued with reads | writes
    · exact (staffed.asleep .reading c reads).1
    · exact (staffed.asleep .writing c writes).1
  rw [slot, place]
  simpa using ne

/-- A worker leaves the ring to the others, since the keeper stays. -/
theorem ring_left (staffed : Staffed p) (found : p.workers[i]? = some w)
    (running : w.phase = .running) :
    (p.channel.perform memory (.closeSession w.slot)).1.ring = p.channel.ring := by
  have awake : w.phase ≠ .asleep := by rw [running]; exact Phase.noConfusion
  have here : w.phase ≠ .gone := by rw [running]; exact Phase.noConfusion
  obtain ⟨⟨s, isOpen, -⟩, idle⟩ := staffed.endable found awake here
  obtain ⟨-, parted, -, -⟩ := staffed.counted.perform_ends
    staffed.openUses_lt memory .close isOpen idle
  refine parted.kept ?_
  have entry : w.entry = (w.work.mode, true) := by rw [Worker.entry, running]; rfl
  have here : w.entry ∈ p.workers.map Worker.entry :=
    List.mem_map_of_mem (List.mem_of_getElem? found)
  have others : 0 < (p.workers.map Worker.entry).countP (·.2) :=
    List.countP_pos_iff.mpr ⟨w.entry, here, by rw [entry]⟩
  rw [Channel.openSessions_eq, staffed.roster, List.countP_cons_of_pos (by rfl)]
  omega

theorem left (staffed : Staffed p) (found : p.workers[i]? = some w) (running : w.phase = .running)
    (done : w.work.isDone = true) :
    Staffed (setWorker { p with channel := (p.channel.perform memory (.closeSession w.slot)).1 } i
      { w with phase := .gone }) := by
  have awake : w.phase ≠ .asleep := by rw [running]; exact Phase.noConfusion
  have here : w.phase ≠ .gone := by rw [running]; exact Phase.noConfusion
  obtain ⟨⟨s, isOpen, mode⟩, idle⟩ := staffed.endable found awake here
  obtain ⟨counted, -, roster, sleepers⟩ := staffed.counted.perform_ends
    staffed.openUses_lt memory .close isOpen idle
  refine staffed.update found rfl rfl awake Phase.noConfusion ?_ ?_ counted sleepers
  · exact ⟨(staffed.proper w (List.mem_of_getElem? found)).whole, Phase.noConfusion, fun _ => done⟩
  · refine roster.trans ?_
    rw [mode, staffed.slots i w found]
    rfl

/-- No step changes who works on the pump. -/
theorem step (staffed : Staffed p) (stepped : Stepped memory p q) : Staffed q := by
  cases stepped with
  | took found nonempty => exact staffed.took found nonempty
  | put found room => exact staffed.put found
  | slept found running asks unready => exact staffed.slept found running asks
  | told found notifying nobody => exact staffed.told found notifying
  | woke found notifying asleep => exact (staffed.told found notifying).woken asleep
  | left found running done => exact staffed.left found running done

end Staffed

end Pump

end BytePipe
