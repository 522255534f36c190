import BytePipe.Proofs.Channel.Frame

/-!
The lives of a channel: all that can happen to it from its creation on. Whenever nothing is left to
run, any operation may be applied; while calls are woken, any one of them may run next. The account
of a life is never started anew.

Whole operations, as `Channel.perform` carries them out, are steps of a life (`Life.perform`), and
in every life the waiting calls are in good order (`Life.orderly`): each is asleep in the queue of
its direction or woken, with a ticket of its own and an open session.
-/
namespace BytePipe

/-- The call that an operation makes. -/
def Operation.call? : Operation → Option Call
  | .call c => some c
  | .tryCall c => some c
  | _ => none

/-- Callers know a call by its ticket, so a new call gets one that no sleeping call has. -/
def Operation.Fresh (op : Operation) (ch : Channel) : Prop :=
  ∀ c, op.call? = some c → ∀ d, ∀ s ∈ ch.sleepers d, s.ticket ≠ c.ticket

theorem Operation.Fresh.of_idle (op : Operation) {ch : Channel}
    (idle : ∀ d, ch.sleepers d = []) : op.Fresh ch := fun c called d s asleep => by
  rw [idle d] at asleep
  contradiction

theorem Operation.Fresh.of_silent (op : Operation) (silent : op.call? = none) (ch : Channel) :
    op.Fresh ch := fun c called => by
  rw [silent] at called
  contradiction

/-- A moment in the life of a channel whose open counts never added up to more than `peak`. -/
inductive Life (memory : Memory) : (peak : Nat) → Turn → Prop where
  | created (name : String) (capacity : Nat) (positive : 0 < capacity) :
    Life memory 0 (.start (.named name capacity))
  | operated {peak : Nat} {t : Turn} (op : Operation) (before : Life memory peak t)
    (settled : t.woken = []) (fresh : op.Fresh t.channel) :
    Life memory (max peak (op.apply memory t).1.channel.openUses) (op.apply memory t).1
  | ran {peak : Nat} {t : Turn} (earlier : List Call) (c : Call) (later : List Call)
    (before : Life memory peak t) (woken : t.woken = earlier ++ c :: later) :
    Life memory peak (Turn.resume { t with woken := earlier ++ later } c)

/-- The memory that grants whatever any memory grants. -/
def Memory.largest : Memory where
  limit := 0x7fffffffffffffff

/-- A moment in the life of a channel that finds other memory from one operation to the next, so that
an open may fail where an earlier one has not. -/
inductive ShiftingLife : (peak : Nat) → Turn → Prop where
  | created (name : String) (capacity : Nat) (positive : 0 < capacity) :
    ShiftingLife 0 (.start (.named name capacity))
  | operated {peak : Nat} {t : Turn} (memory : Memory) (op : Operation)
    (before : ShiftingLife peak t) (settled : t.woken = []) (fresh : op.Fresh t.channel) :
    ShiftingLife (max peak (op.apply memory t).1.channel.openUses) (op.apply memory t).1
  | ran {peak : Nat} {t : Turn} (earlier : List Call) (c : Call) (later : List Call)
    (before : ShiftingLife peak t) (woken : t.woken = earlier ++ c :: later) :
    ShiftingLife peak (Turn.resume { t with woken := earlier ++ later } c)

theorem Life.shifting {memory : Memory} {peak : Nat} {t : Turn} (life : Life memory peak t) :
    ShiftingLife peak t := by
  induction life with
  | created name capacity positive => exact .created name capacity positive
  | operated op before settled fresh ih => exact ih.operated memory op settled fresh
  | ran earlier c later before woken ih => exact ih.ran earlier c later woken

namespace Turn

/-! ## What an operation can do -/

/-- Letting go of a session after closing it does nothing. -/
theorem letGo_of_closed {t : Turn} {slot : Slot} (closed : t.channel.openSession? slot = none) :
    t.letGo slot = t := by
  rw [letGo, closed]

theorem openSession?_markClosed (t : Turn) (slot : Slot) :
    (t.markClosed slot).channel.openSession? slot = none := by
  unfold markClosed Channel.openSession?
  simp only [channel_mapChannel, List.getElem?_modify, if_true]
  cases t.channel.sessions[slot]? with
  | none => rfl
  | some s => rfl

theorem openSession?_releaseCounts (t : Turn) (slot other : Slot) (mode : AccessMode) :
    (t.releaseCounts slot mode).channel.openSession? other = t.channel.openSession? other := by
  rw [Channel.openSession?, Channel.openSession?, sessions_releaseCounts]

theorem openSession?_of_endable? {t : Turn} {slot : Slot} {s : Session}
    (endable : t.endable? slot = some s) :
    t.channel.openSession? slot = some s ∧ t.channel.isWaiting slot = false := by
  unfold endable? at endable
  split at endable
  · contradiction
  · rename_i idle
    exact ⟨endable, by simpa using idle⟩

/-- Closing a session and dropping it come to the same: its counts are taken back once. -/
theorem closeSession_eq_dropSession (t : Turn) (slot : Slot) :
    t.closeSession slot = t.dropSession slot := by
  unfold closeSession dropSession
  cases endable : t.endable? slot with
  | none => rfl
  | some s =>
    have found := (openSession?_of_endable? endable).1
    have closed : ((t.markClosed slot).releaseCounts slot s.mode).channel.openSession? slot = none := by
      rw [openSession?_releaseCounts, openSession?_markClosed]
    simp only [letGo_of_closed closed]
    rw [letGo, found]

/-- What becomes of a turn when an operation is applied. -/
inductive Applied (memory : Memory) (t : Turn) (op : Operation) : Turn → Prop where
  | alike {u : Turn} (alike : Alike t u) : Applied memory t op u
  | joined (mode : AccessMode) (nonBlocking : Bool) (opens : op = .openSession mode nonBlocking)
    (allocated : t.channel.ring.isAllocated = true) : Applied memory t op (t.join mode nonBlocking)
  | allocated (mode : AccessMode) (nonBlocking : Bool) (ring : Ring)
    (opens : op = .openSession mode nonBlocking)
    (unallocated : t.channel.ring.isAllocated = false)
    (granted : t.channel.ring.allocate memory = .ok ring) :
    Applied memory t op
      (((t.mapChannel ({ · with ring })).record [.allocated]).join mode nonBlocking)
  | ended (slot : Slot) (s : Session) (found : t.channel.openSession? slot = some s)
    (idle : t.channel.isWaiting slot = false) :
    Applied memory t op ((t.markClosed slot).releaseCounts slot s.mode)
  | arrived {u : Turn} (c : Call) (called : op.call? = some c) (arrived : Arrived t c u) :
    Applied memory t op u
  | signalled (slot : Slot) (made : op = .interrupt slot) : Applied memory t op (t.interrupt slot)

theorem Alike.refl (t : Turn) : Alike t t :=
  ⟨rfl, rfl, rfl, rfl, fun _ => rfl, rfl, rfl⟩

theorem applied_openSession (memory : Memory) (t : Turn) (mode : AccessMode) (nonBlocking : Bool) :
    Applied memory t (.openSession mode nonBlocking) (t.openSession memory mode nonBlocking).1 := by
  unfold openSession
  dsimp only
  split
  · rename_i allocated
    exact .joined mode nonBlocking rfl allocated
  · rename_i unallocated
    split
    · exact .alike (.refl t)
    · rename_i ring granted
      exact .allocated mode nonBlocking ring rfl (by simpa using unallocated) granted

theorem applied_dropSession (memory : Memory) (t : Turn) (op : Operation) (slot : Slot) :
    Applied memory t op (t.dropSession slot).1 := by
  unfold dropSession
  split
  · exact .alike (.refl t)
  · rename_i s endable
    obtain ⟨found, idle⟩ := openSession?_of_endable? endable
    dsimp only
    rw [letGo, found]
    exact .ended slot s found idle

theorem applied_apply (memory : Memory) (t : Turn) (op : Operation) :
    Applied memory t op (op.apply memory t).1 := by
  cases op with
  | openSession mode nonBlocking =>
    have applied := applied_openSession memory t mode nonBlocking
    simp only [Operation.apply]
    split <;> rename_i opened <;> rw [opened] at applied <;> exact applied
  | closeSession slot =>
    rw [Operation.apply, closeSession_eq_dropSession]
    exact applied_dropSession memory t _ slot
  | dropSession slot => exact applied_dropSession memory t _ slot
  | setNonBlocking slot nonBlocking => exact .alike (alike_setNonBlocking t slot nonBlocking)
  | call c => exact .arrived c rfl (arrived_arrive t c _)
  | tryCall c => exact .arrived c rfl (arrived_arrive t c _)
  | poll slot waker =>
    simp only [Operation.apply]
    split
    · exact .alike (alike_poll t waker)
    · exact .alike (.refl t)
  | interrupt slot => exact .signalled slot rfl
  | subscribe => exact .alike (alike_subscribe t)
  | unsubscribe feed => exact .alike (alike_unsubscribe t feed)
  | receive feed => exact .alike (alike_receive t feed)

/-! ## Waiting calls -/

/-- The calls asleep and the calls woken. -/
def waiting (t : Turn) : List Call :=
  t.channel.sleepers .reading ++ t.channel.sleepers .writing ++ t.woken

theorem mem_waiting {t : Turn} {c : Call} :
    c ∈ t.waiting ↔ (∃ d, c ∈ t.channel.sleepers d) ∨ c ∈ t.woken := by
  simp only [waiting, List.mem_append]
  constructor
  · rintro ((reads | writes) | woken)
    · exact .inl ⟨_, reads⟩
    · exact .inl ⟨_, writes⟩
    · exact .inr woken
  · rintro (⟨d, asleep⟩ | woken)
    · cases d with
      | reading => exact .inl (.inl asleep)
      | writing => exact .inl (.inr asleep)
    · exact .inr woken

theorem Alike.waiting {t u : Turn} (alike : Alike t u) : u.waiting = t.waiting := by
  simp only [Turn.waiting, alike.sleepers, alike.woken]

theorem waiting_perm (t : Turn) (d : Direction) :
    t.waiting.Perm (t.channel.sleepers d ++ (t.channel.sleepers d.opposite ++ t.woken)) := by
  cases d with
  | reading => rw [waiting, List.append_assoc]; rfl
  | writing =>
    rw [waiting, ← List.append_assoc]
    exact List.Perm.append_right _ List.perm_append_comm

/-- A woken call still waits; only its place has changed. -/
theorem waiting_wakeOne (t : Turn) (d : Direction) : (t.wakeOne d).waiting.Perm t.waiting := by
  refine (waiting_perm _ d).trans (List.Perm.trans ?_ (waiting_perm t d).symm)
  have other : d.opposite ≠ d := by cases d <;> decide
  rw [sleepers_wakeOne, sleepers_wakeOne, if_pos rfl, if_neg other, woken_wakeOne]
  cases t.channel.sleepers d with
  | nil => simp
  | cons c rest =>
    have moved := List.perm_append_singleton c
      (rest ++ (t.channel.sleepers d.opposite ++ t.woken))
    simpa using moved

theorem waiting_wakeAll (t : Turn) (d : Direction) : (t.wakeAll d).waiting.Perm t.waiting := by
  refine (waiting_perm _ d).trans (List.Perm.trans ?_ (waiting_perm t d).symm)
  have other : d.opposite ≠ d := by cases d <;> decide
  rw [sleepers_wakeAll, sleepers_wakeAll, if_pos rfl, if_neg other, woken_wakeAll, List.nil_append,
    ← List.append_assoc]
  exact List.perm_append_comm

theorem waiting_sleep (t : Turn) (c : Call) : (t.sleep c).waiting.Perm (c :: t.waiting) := by
  refine (waiting_perm _ c.direction).trans
    (List.Perm.trans ?_ ((waiting_perm t c.direction).symm.cons c))
  have other : c.direction.opposite ≠ c.direction := by cases c.direction <;> decide
  rw [sleepers_sleep, sleepers_sleep, if_pos rfl, if_neg other, woken_sleep, List.append_assoc]
  exact List.perm_middle

/-- Every waiting call has an open session and something to move, each is asleep in the queue of its
direction or woken, and no two go by the same ticket. -/
structure Orderly (t : Turn) : Prop where
  fits : ∀ c ∈ t.waiting, t.channel.Fits c
  placed : ∀ d, ∀ c ∈ t.channel.sleepers d, c.direction = d
  distinct : (t.waiting.map (·.ticket)).Nodup

namespace Orderly

variable {t u : Turn} {c : Call}

theorem of_perm (orderly : Orderly t) (roster : u.channel.roster = t.channel.roster)
    (perm : u.waiting.Perm t.waiting)
    (placed : ∀ d, ∀ c ∈ u.channel.sleepers d, c.direction = d) : Orderly u where
  fits c waits := (orderly.fits c (perm.mem_iff.mp waits)).of_roster roster
  placed := placed
  distinct := (perm.map _).nodup_iff.mpr orderly.distinct

theorem of_alike (orderly : Orderly t) (alike : Alike t u) : Orderly u :=
  orderly.of_perm alike.roster (alike.waiting ▸ .refl _) fun d c asleep =>
    orderly.placed d c (alike.sleepers d ▸ asleep)

theorem record (orderly : Orderly t) (notices : List Notice) : Orderly (t.record notices) :=
  orderly.of_perm rfl (.refl _) orderly.placed

theorem wakeOne (orderly : Orderly t) (d : Direction) : Orderly (t.wakeOne d) := by
  refine orderly.of_perm (roster_wakeOne t d) (waiting_wakeOne t d) fun e c asleep => ?_
  rw [sleepers_wakeOne] at asleep
  split at asleep
  · rename_i same
    exact same ▸ orderly.placed d c (List.mem_of_mem_tail asleep)
  · exact orderly.placed e c asleep

theorem wakeAll (orderly : Orderly t) (d : Direction) : Orderly (t.wakeAll d) := by
  refine orderly.of_perm (roster_wakeAll t d) (waiting_wakeAll t d) fun e c asleep => ?_
  rw [sleepers_wakeAll] at asleep
  split at asleep
  · contradiction
  · exact orderly.placed e c asleep

theorem transfer (orderly : Orderly t) (c : Call) : Orderly (t.transfer c).1 := by
  refine of_alike ?_ (alike_transfer t c)
  refine wakeOne ?_ c.direction.opposite
  exact orderly.of_perm rfl (.refl _) orderly.placed

theorem sleep (orderly : Orderly t) (fits : t.channel.Fits c)
    (fresh : ∀ w ∈ t.waiting, w.ticket ≠ c.ticket) : Orderly (t.sleep c) where
  fits w waits := by
    rw [(waiting_sleep t c).mem_iff, List.mem_cons] at waits
    rcases waits with rfl | waits
    · exact fits.of_roster (roster_sleep t w)
    · exact (orderly.fits w waits).of_roster (roster_sleep t c)
  placed e w asleep := by
    rw [sleepers_sleep] at asleep
    split at asleep
    · rename_i same
      rcases List.mem_append.mp asleep with before | last
      · exact same ▸ orderly.placed _ w before
      · rw [List.mem_singleton.mp last, same]
    · exact orderly.placed e w asleep
  distinct := by
    rw [((waiting_sleep t c).map _).nodup_iff, List.map_cons, List.nodup_cons]
    refine ⟨fun listed => ?_, orderly.distinct⟩
    obtain ⟨w, waits, same⟩ := List.mem_map.mp listed
    exact fresh w waits same

theorem cutShort (orderly : Orderly t) (c : Call) : Orderly (t.cutShort c) :=
  (orderly.of_alike (alike_setSignal t c.slot false)).record _

/-- What a call that runs does keeps the other calls in order. -/
theorem ran (orderly : Orderly t) (fresh : ∀ w ∈ t.waiting, w.ticket ≠ c.ticket)
    (ran : Ran t c u) : Orderly u := by
  cases ran with
  | interrupted unready => exact orderly.cutShort c
  | passedOn ready => exact (orderly.cutShort c).wakeOne c.direction
  | moved fits ready => exact orderly.transfer c
  | slept fits unready => exact orderly.sleep fits fresh

theorem arrived (orderly : Orderly t) (fresh : ∀ w ∈ t.waiting, w.ticket ≠ c.ticket)
    (arrived : Arrived t c u) : Orderly u := by
  cases arrived with
  | refused => exact orderly
  | failed e => exact orderly.record _
  | answered trivial => exact orderly.record _
  | ran ran => exact orderly.ran fresh ran

/-- A new session is listed after the others. -/
theorem join (orderly : Orderly t) (mode : AccessMode) (nonBlocking : Bool) :
    Orderly (t.join mode nonBlocking) where
  fits c waits := by
    obtain ⟨⟨held, listed, permits⟩, nontrivial⟩ := orderly.fits c waits
    refine ⟨⟨held, ?_, permits⟩, nontrivial⟩
    have inside : c.slot < t.channel.roster.length := (List.getElem?_eq_some_iff.mp listed).1
    simp only [Turn.join, Channel.roster, channel_mapChannel, List.map_append] at *
    rw [List.getElem?_append_left inside, listed]
  placed := orderly.placed
  distinct := orderly.distinct

theorem waiting_releaseCounts (t : Turn) (slot : Slot) (mode : AccessMode) :
    (t.releaseCounts slot mode).waiting = t.waiting := by
  simp only [waiting, sleepers_releaseCounts, woken_releaseCounts]

/-- No waiting call uses a session that may end. -/
theorem ended (orderly : Orderly t) (settled : t.woken = []) {slot : Slot} {s : Session}
    (idle : t.channel.isWaiting slot = false) :
    Orderly ((t.markClosed slot).releaseCounts slot s.mode) where
  fits c waits := by
    rw [waiting_releaseCounts] at waits
    change c ∈ t.waiting at waits
    obtain ⟨session, nontrivial⟩ := orderly.fits c waits
    have ne : slot ≠ c.slot := by
      rintro rfl
      rw [waiting, settled, List.append_nil] at waits
      have := List.any_eq_false.mp idle c waits
      simp at this
    refine ⟨?_, nontrivial⟩
    rw [roster_releaseCounts, roster_markClosed_ne t ne]
    exact session
  placed d c asleep := by
    rw [sleepers_releaseCounts] at asleep
    exact orderly.placed d c (by cases d <;> exact asleep)
  distinct := by
    rw [waiting_releaseCounts]
    exact orderly.distinct

theorem interrupt (orderly : Orderly t) (slot : Slot) : Orderly (t.interrupt slot) :=
  ((orderly.of_alike (alike_setSignal t slot true)).wakeAll .reading).wakeAll .writing

theorem applied {memory : Memory} {op : Operation} (orderly : Orderly t) (settled : t.woken = [])
    (fresh : op.Fresh t.channel) (applied : Applied memory t op u) : Orderly u := by
  cases applied with
  | alike alike => exact orderly.of_alike alike
  | joined mode nonBlocking opens allocated => exact orderly.join mode nonBlocking
  | allocated mode nonBlocking ring opens unallocated granted =>
    refine join (record ?_ _) mode nonBlocking
    exact orderly.of_perm rfl (.refl _) orderly.placed
  | ended slot s found idle => exact orderly.ended settled idle
  | arrived c called arrived =>
    refine orderly.arrived (fun w waits => ?_) arrived
    rcases mem_waiting.mp waits with ⟨d, asleep⟩ | woken
    · exact fresh c called d w asleep
    · rw [settled] at woken
      contradiction
  | signalled slot => exact orderly.interrupt slot

/-- A woken call is taken out of line before it runs. -/
theorem take (orderly : Orderly t) {earlier later : List Call} {c : Call}
    (woken : t.woken = earlier ++ c :: later) :
    Orderly { t with woken := earlier ++ later } ∧ t.channel.Fits c ∧
      ∀ w ∈ waiting { t with woken := earlier ++ later }, w.ticket ≠ c.ticket := by
  have perm : t.waiting.Perm (c :: waiting { t with woken := earlier ++ later }) := by
    simp only [waiting, woken]
    rw [← List.append_assoc, ← List.append_assoc]
    exact List.perm_middle
  have distinct := (perm.map (·.ticket)).nodup_iff.mp orderly.distinct
  rw [List.map_cons, List.nodup_cons] at distinct
  refine ⟨⟨fun w waits => ?_, orderly.placed, distinct.2⟩, ?_, fun w waits same => ?_⟩
  · exact orderly.fits w (perm.mem_iff.mpr (List.mem_cons_of_mem c waits))
  · exact orderly.fits c (perm.mem_iff.mpr List.mem_cons_self)
  · exact distinct.1 (same ▸ List.mem_map_of_mem waits)

end Orderly

end Turn

theorem Life.orderly {memory : Memory} {peak : Nat} {t : Turn} (life : Life memory peak t) :
    t.Orderly := by
  induction life with
  | created name capacity positive =>
    refine ⟨fun c waits => ?_, fun d c asleep => ?_, List.nodup_nil⟩
    · exact absurd waits List.not_mem_nil
    · cases d <;> exact absurd asleep List.not_mem_nil
  | operated op before settled fresh ih =>
    exact ih.applied settled fresh (Turn.applied_apply memory _ op)
  | ran earlier c later before woken ih =>
    obtain ⟨orderly, fits, fresh⟩ := ih.take woken
    exact orderly.ran fresh (Turn.ran_resume fits)

end BytePipe
