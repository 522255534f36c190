import BytePipe.Proofs.Channel.Account
import BytePipe.Ring.Lemmas
import Mathlib.Algebra.GroupWithZero.Nat

/-!
The open counts of a channel are the numbers of its open sessions, and the storage is there exactly
while a session is open (`Life.counted`). The counts are 32-bit words: they stay exact as long as
the sum that decides about the storage does not wrap around. A read-write session adds two to it,
so fewer than `2 ^ 31` sessions open at once are few enough (`openUses_le`).

However many sessions there are, the counts never exceed the true numbers, so the storage goes with
the last open session at the latest (`Life.tenanted`). Nothing depends on finding the same memory at
every open (`shiftingLife_iff`).
-/
namespace BytePipe

theorem countP_modify {α : Type} (p : α → Bool) (f : α → α) {l : List α} {i : Nat} {a : α}
    (found : l[i]? = some a) :
    (l.modify i f).countP p + (if p a then 1 else 0)
      = l.countP p + (if p (f a) then 1 else 0) := by
  induction l generalizing i with
  | nil => cases found
  | cons head tail ih =>
    cases i with
    | zero =>
      obtain rfl := Option.some.inj found
      simp only [List.modify_zero_cons, List.countP_cons]
      omega
    | succ i =>
      have rest := ih (i := i) found
      simp only [List.modify_succ_cons, List.countP_cons]
      omega

namespace Channel

def count (ch : Channel) : Direction → UInt32
  | .reading => ch.readers
  | .writing => ch.writers

theorem openFor_le (ch : Channel) (d : Direction) : ch.openFor d ≤ ch.openSessions :=
  List.countP_mono_left fun s _ both => by
    rw [Bool.and_eq_true] at both
    exact both.1

theorem openFor_le_uses (ch : Channel) (d : Direction) : ch.openFor d ≤ ch.openUses := by
  cases d with
  | reading => exact Nat.le_add_right _ _
  | writing => exact Nat.le_add_left _ _

theorem openUses_le (ch : Channel) : ch.openUses ≤ 2 * ch.openSessions := by
  have reads := ch.openFor_le .reading
  have writes := ch.openFor_le .writing
  unfold openUses
  omega

/-- Every session is open for some direction. -/
theorem openSessions_le (ch : Channel) : ch.openSessions ≤ ch.openUses := by
  unfold openSessions openUses openFor
  induction ch.sessions with
  | nil => exact Nat.le_refl 0
  | cons s rest ih =>
    have covered : (if s.isOpen = true then 1 else 0)
        ≤ (if (s.isOpen && s.mode.permits .reading) = true then 1 else 0)
          + (if (s.isOpen && s.mode.permits .writing) = true then 1 else 0) := by
      cases s.isOpen <;> cases s.mode <;> decide
    simp only [List.countP_cons]
    omega

theorem openSessions_pos {ch : Channel} {slot : Slot} {mode : AccessMode}
    (listed : ch.roster[slot]? = some (mode, true)) : 0 < ch.openSessions := by
  rw [openSessions_eq, List.countP_pos_iff]
  exact ⟨_, List.mem_of_getElem? listed, rfl⟩

/-- The counts tell how many sessions are open for each direction, and there is storage exactly
while there are open sessions. Without storage both positions are zero (`Ring.WellFormed`). -/
structure Counted (ch : Channel) : Prop where
  counts : ∀ d, (ch.count d).toNat = ch.openFor d
  storage : ch.ring.isAllocated = true ↔ 0 < ch.openSessions
  wellFormed : ch.ring.WellFormed

theorem Counted.stored {ch : Channel} (counted : ch.Counted) {c : Call} (fits : ch.Fits c) :
    ch.ring.storage ≠ none := by
  obtain ⟨mode, listed, -⟩ := fits.session
  exact Option.isSome_iff_ne_none.mp (counted.storage.mpr (openSessions_pos listed))

theorem Counted.of_eq {ch ch' : Channel} (counted : ch.Counted) (readers : ch'.readers = ch.readers)
    (writers : ch'.writers = ch.writers) (roster : ch'.roster = ch.roster)
    (allocated : ch'.ring.isAllocated = ch.ring.isAllocated)
    (wellFormed : ch'.ring.WellFormed) : ch'.Counted where
  counts d := by
    rw [openFor_eq, roster, ← openFor_eq, ← counted.counts d]
    cases d with
    | reading => exact congrArg UInt32.toNat readers
    | writing => exact congrArg UInt32.toNat writers
  storage := by
    rw [allocated, openSessions_eq, roster, ← openSessions_eq]
    exact counted.storage
  wellFormed := wellFormed

/-- However far the counts have got, none is larger than the number of sessions open for its
direction, and no storage outlasts the sessions. -/
structure Tenanted (ch : Channel) : Prop where
  counts : ∀ d, (ch.count d).toNat ≤ ch.openFor d
  vacant : ch.openSessions = 0 → ch.ring.isAllocated = false

/-- Who sleeps does not matter to the counts. -/
theorem Counted.setQueue {ch : Channel} (counted : ch.Counted) (q : WaitQueue) (d : Direction) :
    (ch.setQueue q d).Counted :=
  counted.of_eq (readers_setQueue ch q d) (writers_setQueue ch q d) (roster_setQueue ch q d)
    (by rw [ring_setQueue]) (by rw [ring_setQueue]; exact counted.wellFormed)

/-- What waits and is ready keeps the ring in shape when it is served. -/
theorem Counted.serve {ch : Channel} (counted : ch.Counted) {c : Call} (fits : ch.Fits c)
    (ready : ch.ready c.direction = true) : (ch.ring.serve c.request).2.WellFormed := by
  have stored := counted.stored fits
  obtain ⟨ticket, slot, request⟩ := c
  cases request with
  | read n =>
    exact Ring.wellFormed_take counted.wellFormed (isEmpty_of_ready ready) n
  | write data => exact Ring.wellFormed_put counted.wellFormed stored data

end Channel

namespace Turn

variable {t u : Turn}

/-- The same sessions with the same counts, and storage at both moments or at neither. -/
structure SameTenants (t u : Turn) : Prop where
  readers : u.channel.readers = t.channel.readers
  writers : u.channel.writers = t.channel.writers
  roster : u.channel.roster = t.channel.roster
  allocated : u.channel.ring.isAllocated = t.channel.ring.isAllocated

namespace SameTenants

variable {v : Turn}

theorem trans (first : SameTenants t u) (second : SameTenants u v) : SameTenants t v :=
  ⟨second.readers.trans first.readers, second.writers.trans first.writers,
    second.roster.trans first.roster, second.allocated.trans first.allocated⟩

theorem of_alike (alike : Alike t u) : SameTenants t u :=
  ⟨alike.readers, alike.writers, alike.roster, congrArg Ring.isAllocated alike.ring⟩

theorem wakeOne (t : Turn) (d : Direction) : SameTenants t (t.wakeOne d) :=
  ⟨readers_wakeOne t d, writers_wakeOne t d, roster_wakeOne t d, by rw [ring_wakeOne]⟩

theorem wakeAll (t : Turn) (d : Direction) : SameTenants t (t.wakeAll d) :=
  ⟨readers_wakeAll t d, writers_wakeAll t d, roster_wakeAll t d, by rw [ring_wakeAll]⟩

theorem cutShort (t : Turn) (c : Call) : SameTenants t (t.cutShort c) := by
  have alike := alike_setSignal t c.slot false
  exact ⟨alike.readers, alike.writers, alike.roster, congrArg Ring.isAllocated alike.ring⟩

theorem transfer (t : Turn) (c : Call) : SameTenants t (t.transfer c).1 := by
  refine trans ?_ (of_alike (alike_transfer t c))
  have served : SameTenants t (t.served c) :=
    ⟨rfl, rfl, rfl, Ring.isAllocated_serve t.channel.ring c.request⟩
  exact served.trans (wakeOne _ c.direction.opposite)

theorem ran {c : Call} (ran : Ran t c u) : SameTenants t u := by
  cases ran with
  | interrupted unready => exact cutShort t c
  | passedOn ready => exact (cutShort t c).trans (wakeOne _ c.direction)
  | moved fits ready => exact transfer t c
  | slept fits unready =>
    exact ⟨readers_sleep t c, writers_sleep t c, roster_sleep t c, by rw [ring_sleep]⟩

theorem arrived {c : Call} (arrived : Arrived t c u) : SameTenants t u := by
  cases arrived with
  | refused => exact of_alike (.refl t)
  | failed e => exact ⟨rfl, rfl, rfl, rfl⟩
  | answered trivial => exact ⟨rfl, rfl, rfl, rfl⟩
  | ran ran => exact .ran ran

theorem interrupt (t : Turn) (slot : Slot) : SameTenants t (t.interrupt slot) :=
  ((of_alike (alike_setSignal t slot true)).trans (wakeAll _ .reading)).trans (wakeAll _ .writing)

theorem counted (same : SameTenants t u) (counted : t.channel.Counted)
    (wellFormed : u.channel.ring.WellFormed) : u.channel.Counted :=
  counted.of_eq same.readers same.writers same.roster same.allocated wellFormed

theorem tenanted (same : SameTenants t u) (tenanted : t.channel.Tenanted) :
    u.channel.Tenanted where
  counts d := by
    rw [Channel.openFor_eq, same.roster, ← Channel.openFor_eq]
    refine Nat.le_trans (Nat.le_of_eq (congrArg UInt32.toNat ?_)) (tenanted.counts d)
    cases d with
    | reading => exact same.readers
    | writing => exact same.writers
  vacant none := by
    rw [Channel.openSessions_eq, same.roster, ← Channel.openSessions_eq] at none
    rw [same.allocated]
    exact tenanted.vacant none

end SameTenants

theorem toNat_countIn (n : UInt32) (counts : Bool) (fits : counts = true → n.toNat + 1 < 2 ^ 32) :
    (countIn n counts).toNat = n.toNat + if counts then 1 else 0 := by
  unfold countIn
  split
  · rename_i counted
    rw [UInt32.toNat_add]
    exact Nat.mod_eq_of_lt (fits counted)
  · rfl

theorem toNat_countOut (n : UInt32) (counts : Bool) (some : counts = true → 0 < n.toNat) :
    (countOut n counts).toNat + (if counts then 1 else 0) = n.toNat := by
  unfold countOut
  cases counts with
  | false => simp
  | true =>
    have positive := some rfl
    have ne : n ≠ 0 := by
      rintro rfl
      exact Nat.lt_irrefl 0 positive
    have le : 1 ≤ n := UInt32.le_iff_toNat_le.mpr positive
    rw [if_pos ⟨rfl, ne⟩, UInt32.toNat_sub_of_le n 1 le]
    simp
    omega

theorem toNat_countIn_le (n : UInt32) (counts : Bool) :
    (countIn n counts).toNat ≤ n.toNat + if counts then 1 else 0 := by
  unfold countIn
  split
  · rw [UInt32.toNat_add]
    exact Nat.mod_le _ _
  · exact Nat.le_refl _

/-- Taking one off a count stops at zero. -/
theorem toNat_countOut_eq_sub (n : UInt32) (counts : Bool) :
    (countOut n counts).toNat = n.toNat - if counts then 1 else 0 := by
  cases Nat.eq_zero_or_pos n.toNat with
  | inl zero =>
    have none : n = 0 := UInt32.toNat_inj.mp zero
    simp [none, countOut]
  | inr positive =>
    have out := toNat_countOut n counts fun _ => positive
    omega

theorem openSessions_join (t : Turn) (mode : AccessMode) (nonBlocking : Bool) :
    (t.join mode nonBlocking).channel.openSessions = t.channel.openSessions + 1 := by
  simp [join, countModeIn, Channel.openSessions, List.countP_append]

theorem openFor_join (t : Turn) (mode : AccessMode) (nonBlocking : Bool) (d : Direction) :
    (t.join mode nonBlocking).channel.openFor d
      = t.channel.openFor d + if mode.permits d then 1 else 0 := by
  simp [join, countModeIn, Channel.openFor, List.countP_append, List.countP_cons]

theorem openUses_join (t : Turn) (mode : AccessMode) (nonBlocking : Bool) :
    (t.join mode nonBlocking).channel.openUses
      = t.channel.openUses + (if mode.permits .reading then 1 else 0)
        + (if mode.permits .writing then 1 else 0) := by
  rw [Channel.openUses, openFor_join, openFor_join, Channel.openUses]
  omega

theorem count_join (t : Turn) (mode : AccessMode) (nonBlocking : Bool) (d : Direction) :
    (t.join mode nonBlocking).channel.count d = countIn (t.channel.count d) (mode.permits d) := by
  cases d <;> rfl

/-- Closing a session takes it off the open ones. -/
theorem openSessions_markClosed {slot : Slot} {s : Session}
    (found : t.channel.openSession? slot = some s) :
    (t.markClosed slot).channel.openSessions + 1 = t.channel.openSessions := by
  rw [Channel.openSession?, Option.filter_eq_some_iff] at found
  have counted := countP_modify (·.isOpen) ({ · with isOpen := false }) found.1
  simpa [found.2, Channel.openSessions, markClosed] using counted

theorem openFor_markClosed {slot : Slot} {s : Session}
    (found : t.channel.openSession? slot = some s) (d : Direction) :
    (t.markClosed slot).channel.openFor d + (if s.mode.permits d then 1 else 0)
      = t.channel.openFor d := by
  rw [Channel.openSession?, Option.filter_eq_some_iff] at found
  have counted := countP_modify (fun s => s.isOpen && s.mode.permits d)
    ({ · with isOpen := false }) found.1
  simpa [found.2, Channel.openFor, markClosed] using counted

/-- Opening counts a session in, for the storage that is there by then. -/
theorem counted_join (counts : ∀ d, (t.channel.count d).toNat = t.channel.openFor d)
    (allocated : t.channel.ring.isAllocated = true) (wellFormed : t.channel.ring.WellFormed)
    {mode : AccessMode} {nonBlocking : Bool}
    (few : (t.join mode nonBlocking).channel.openUses < 2 ^ 32) :
    (t.join mode nonBlocking).channel.Counted where
  counts d := by
    have fits : mode.permits d = true → (t.channel.count d).toNat + 1 < 2 ^ 32 := by
      intro permits
      have more := openFor_join t mode nonBlocking d
      have most := (t.join mode nonBlocking).channel.openFor_le_uses d
      rw [permits, if_pos rfl] at more
      rw [counts d]
      omega
    rw [count_join, openFor_join, toNat_countIn _ _ fits, counts d]
  storage := by
    rw [openSessions_join]
    exact ⟨fun _ => Nat.succ_pos _, fun _ => allocated⟩
  wellFormed := wellFormed

theorem count_countModeOut (ch : Channel) (mode : AccessMode) (d : Direction) :
    (countModeOut mode ch).count d = countOut (ch.count d) (mode.permits d) := by
  cases d <;> rfl

/-- The sum of exact counts is zero only when no session is open. -/
theorem sum_eq_zero_iff (ch : Channel) (counts : ∀ d, (ch.count d).toNat = ch.openFor d)
    (few : ch.openUses < 2 ^ 32) :
    ch.readers + ch.writers = 0 ↔ ch.openSessions = 0 := by
  have reads : ch.readers.toNat = ch.openFor .reading := counts .reading
  have writes : ch.writers.toNat = ch.openFor .writing := counts .writing
  have covered := ch.openSessions_le
  have most := ch.openUses_le
  unfold Channel.openUses at few covered most
  rw [← UInt32.toNat_inj, UInt32.toNat_add, UInt32.toNat_zero, Nat.mod_eq_of_lt (by omega)]
  omega

/-- A session that ends while others go on only takes its counts with it. -/
theorem releaseCounts_of_allocated {slot : Slot} {mode : AccessMode}
    (allocated : (t.releaseCounts slot mode).channel.ring.isAllocated = true) :
    (t.releaseCounts slot mode).channel.ring = t.channel.ring ∧
      (t.releaseCounts slot mode).account = t.account ++ [.countedOut slot] := by
  unfold releaseCounts at *
  dsimp only at *
  split at allocated
  · contradiction
  · rename_i counted
    rw [if_neg counted]
    exact ⟨rfl, rfl⟩

/-- Ending a session counts it out, once; the storage goes with the last one. -/
theorem counted_ended (counted : t.channel.Counted) {slot : Slot} {s : Session}
    (found : t.channel.openSession? slot = some s) (few : t.channel.openUses < 2 ^ 32) :
    ((t.markClosed slot).releaseCounts slot s.mode).channel.Counted := by
  have sessions := openSessions_markClosed found
  have counts : ∀ d, ((countModeOut s.mode (t.markClosed slot).channel).count d).toNat
      = (countModeOut s.mode (t.markClosed slot).channel).openFor d := by
    intro d
    have before := counted.counts d
    have directed := openFor_markClosed found d
    have out := toNat_countOut (t.channel.count d) (s.mode.permits d) fun permits => by
      rw [permits, if_pos rfl] at directed
      omega
    rw [count_countModeOut]
    change (countOut (t.channel.count d) (s.mode.permits d)).toNat
      = (t.markClosed slot).channel.openFor d
    omega
  have fewer : (t.markClosed slot).channel.openUses < 2 ^ 32 := by
    have reads := openFor_markClosed found .reading
    have writes := openFor_markClosed found .writing
    unfold Channel.openUses at *
    omega
  have zero := sum_eq_zero_iff (countModeOut s.mode (t.markClosed slot).channel) counts fewer
  unfold releaseCounts
  dsimp only
  split
  · rename_i empty
    have none := zero.mp empty
    refine ⟨counts, ⟨fun allocated => ?_, fun some => ?_⟩, ?_⟩
    · contradiction
    · exact absurd none (Nat.ne_of_gt some)
    · exact Ring.wellFormed_empty counted.wellFormed.capacity_pos
  · rename_i remaining
    refine ⟨counts, ?_, counted.wellFormed⟩
    have some : 0 < (t.markClosed slot).channel.openSessions :=
      Nat.pos_of_ne_zero fun none => remaining (zero.mpr none)
    have before := counted.storage
    change t.channel.ring.isAllocated = true ↔ 0 < (t.markClosed slot).channel.openSessions
    rw [before]
    omega

theorem counted_alike (counted : t.channel.Counted) (alike : Alike t u) : u.channel.Counted :=
  (SameTenants.of_alike alike).counted counted (alike.ring ▸ counted.wellFormed)

theorem counted_transfer (counted : t.channel.Counted) {c : Call} (fits : t.channel.Fits c)
    (ready : t.channel.ready c.direction = true) : (t.transfer c).1.channel.Counted := by
  refine (SameTenants.transfer t c).counted counted ?_
  rw [(alike_transfer t c).ring, moving, ring_wakeOne]
  exact counted.serve fits ready

theorem counted_ran (counted : t.channel.Counted) {c : Call} (ran : Ran t c u) :
    u.channel.Counted := by
  have same := SameTenants.ran ran
  cases ran with
  | interrupted unready =>
    exact same.counted counted (ring_cutShort t c ▸ counted.wellFormed)
  | passedOn ready =>
    refine same.counted counted ?_
    rw [ring_wakeOne, ring_cutShort]
    exact counted.wellFormed
  | moved fits ready => exact counted_transfer counted fits ready
  | slept fits unready => exact same.counted counted (ring_sleep t c ▸ counted.wellFormed)

theorem counted_arrived (counted : t.channel.Counted) {c : Call} (arrived : Arrived t c u) :
    u.channel.Counted := by
  cases arrived with
  | refused => exact counted
  | failed e => exact counted
  | answered trivial => exact counted
  | ran ran => exact counted_ran counted ran

theorem counted_interrupt (counted : t.channel.Counted) (slot : Slot) :
    (t.interrupt slot).channel.Counted :=
  (SameTenants.interrupt t slot).counted counted (ring_interrupt t slot ▸ counted.wellFormed)

theorem counted_applied {memory : Memory} {op : Operation} (counted : t.channel.Counted)
    (applied : Applied memory t op u) (before : t.channel.openUses < 2 ^ 32)
    (after : u.channel.openUses < 2 ^ 32) : u.channel.Counted := by
  cases applied with
  | alike alike => exact counted_alike counted alike
  | joined mode nonBlocking opens allocated =>
    exact counted_join counted.counts allocated counted.wellFormed after
  | allocated mode nonBlocking ring opens unallocated granted =>
    have capacity := counted.wellFormed.capacity_pos
    refine counted_join (t := (t.mapChannel ({ · with ring })).record [.allocated])
      counted.counts ?_ ?_ after
    · exact Ring.isAllocated_of_allocate granted
    · exact Ring.wellFormed_allocate capacity granted
  | ended slot s found idle => exact counted_ended counted found before
  | arrived c called arrived => exact counted_arrived counted arrived
  | signalled slot => exact counted_interrupt counted slot

/-! ## Any number of sessions -/

theorem tenanted_join (counts : ∀ d, (t.channel.count d).toNat ≤ t.channel.openFor d)
    (mode : AccessMode) (nonBlocking : Bool) :
    (t.join mode nonBlocking).channel.Tenanted where
  counts d := by
    have more := toNat_countIn_le (t.channel.count d) (mode.permits d)
    have before := counts d
    rw [count_join, openFor_join]
    omega
  vacant none := by
    rw [openSessions_join] at none
    exact absurd none (Nat.succ_ne_zero _)

/-- Without open sessions both counts are zero, so the storage has gone with the last of them. -/
theorem tenanted_ended (tenanted : t.channel.Tenanted) {slot : Slot} {s : Session}
    (found : t.channel.openSession? slot = some s) :
    ((t.markClosed slot).releaseCounts slot s.mode).channel.Tenanted := by
  have counts : ∀ d, ((countModeOut s.mode (t.markClosed slot).channel).count d).toNat
      ≤ (t.markClosed slot).channel.openFor d := by
    intro d
    have before := tenanted.counts d
    have directed := openFor_markClosed found d
    rw [count_countModeOut]
    change (countOut (t.channel.count d) (s.mode.permits d)).toNat ≤ _
    rw [toNat_countOut_eq_sub]
    omega
  unfold releaseCounts
  dsimp only
  split
  · exact ⟨counts, fun _ => rfl⟩
  · rename_i remaining
    refine ⟨counts, fun empty => absurd ?_ remaining⟩
    have empty : (t.markClosed slot).channel.openSessions = 0 := empty
    have zero (d : Direction) : (countModeOut s.mode (t.markClosed slot).channel).count d = 0 := by
      have within := counts d
      have fewer := (t.markClosed slot).channel.openFor_le d
      rw [← UInt32.toNat_inj, UInt32.toNat_zero]
      omega
    change (countModeOut s.mode (t.markClosed slot).channel).count .reading
      + (countModeOut s.mode (t.markClosed slot).channel).count .writing = 0
    rw [zero .reading, zero .writing]
    rfl

theorem tenanted_applied {memory : Memory} {op : Operation} (tenanted : t.channel.Tenanted)
    (applied : Applied memory t op u) : u.channel.Tenanted := by
  cases applied with
  | alike alike => exact (SameTenants.of_alike alike).tenanted tenanted
  | joined mode nonBlocking opens allocated => exact tenanted_join tenanted.counts mode nonBlocking
  | allocated mode nonBlocking ring opens unallocated granted =>
    exact tenanted_join (t := (t.mapChannel ({ · with ring })).record [.allocated])
      tenanted.counts mode nonBlocking
  | ended slot s found idle => exact tenanted_ended tenanted found
  | arrived c called arrived => exact (SameTenants.arrived arrived).tenanted tenanted
  | signalled slot => exact (SameTenants.interrupt t slot).tenanted tenanted

end Turn

namespace Life

variable {memory : Memory} {peak : Nat} {t : Turn}

theorem openUses_le (life : Life memory peak t) : t.channel.openUses ≤ peak := by
  induction life with
  | created name capacity positive => exact Nat.le_refl 0
  | operated op before settled fresh ih => exact Nat.le_max_right _ _
  | @ran peak t earlier c later before woken ih =>
    obtain ⟨-, fits, -⟩ := before.orderly.take woken
    have roster := Turn.roster_ran (t := { t with woken := earlier ++ later })
      (Turn.ran_resume fits)
    rw [Channel.openUses_congr roster]
    exact ih

/-- The open counts are exact as long as their sum fits a 32-bit word. -/
theorem counted (life : Life memory peak t) (few : peak < 2 ^ 32) : t.channel.Counted := by
  induction life with
  | created name capacity positive =>
    exact ⟨fun d => by cases d <;> rfl,
      ⟨fun stored => absurd stored Bool.false_ne_true, fun some => absurd some (Nat.lt_irrefl 0)⟩,
      Ring.wellFormed_empty positive⟩
  | @operated peak t op before settled fresh ih =>
    have earlier : peak < 2 ^ 32 := Nat.lt_of_le_of_lt (Nat.le_max_left _ _) few
    exact Turn.counted_applied (ih earlier) (Turn.applied_apply memory t op)
      (Nat.lt_of_le_of_lt before.openUses_le earlier)
      (Nat.lt_of_le_of_lt (Nat.le_max_right _ _) few)
  | @ran peak t earlier c later before woken ih =>
    obtain ⟨-, fits, -⟩ := before.orderly.take woken
    exact Turn.counted_ran (t := { t with woken := earlier ++ later }) (ih few)
      (Turn.ran_resume fits)

/-- However many sessions there are, their storage does not outlast them. -/
theorem tenanted (life : Life memory peak t) : t.channel.Tenanted := by
  induction life with
  | created name capacity positive => exact ⟨fun d => by cases d <;> exact Nat.le_refl 0, fun _ => rfl⟩
  | operated op before settled fresh ih =>
    exact Turn.tenanted_applied ih (Turn.applied_apply memory _ op)
  | @ran peak t earlier c later before woken ih =>
    obtain ⟨-, fits, -⟩ := before.orderly.take woken
    have same := Turn.SameTenants.ran (t := { t with woken := earlier ++ later })
      (Turn.ran_resume fits)
    exact same.tenanted ih

end Life

/-! ## Memory that comes and goes -/

theorem Memory.grants_largest {memory : Memory} {size : Nat} (grants : memory.grants size = true) :
    Memory.largest.grants size = true := by
  have within : size ≤ memory.limit := of_decide_eq_true grants
  have bound := memory.limit_lt
  exact decide_eq_true (Nat.le_trans within (Nat.le_of_lt_succ bound))

/-- An open that is refused changes nothing; any other operation does what it does where memory is
largest. -/
theorem Operation.apply_largest (memory : Memory) (t : Turn) (op : Operation) :
    (op.apply memory t).1 = t ∨ (op.apply memory t).1 = (op.apply .largest t).1 := by
  cases op with
  | openSession mode nonBlocking =>
    simp only [Operation.apply, Turn.openSession]
    cases t.channel.ring.isAllocated with
    | true => exact .inr rfl
    | false =>
      cases granted : memory.grants t.channel.ring.capacity with
      | true =>
        right
        simp only [Ring.allocate, granted, Memory.grants_largest granted]
      | false =>
        left
        simp [Ring.allocate, granted]
  | _ => exact .inr rfl

/-- Where memory comes and goes, a channel lives as it may in the largest memory. -/
theorem shiftingLife_iff {peak : Nat} {t : Turn} : ShiftingLife peak t ↔ Life .largest peak t := by
  refine ⟨fun shifting => ?_, Life.shifting⟩
  induction shifting with
  | created name capacity positive => exact .created name capacity positive
  | operated memory op before settled fresh ih =>
    rcases Operation.apply_largest memory _ op with same | same
    · rw [same, Nat.max_eq_left ih.openUses_le]
      exact ih
    · rw [same]
      exact ih.operated op settled fresh
  | ran earlier c later before woken ih => exact ih.ran earlier c later woken

end BytePipe
