import BytePipe.Proofs.Channel.Moves
import BytePipe.Proofs.Ring.Words

/-!
The ring of a channel on machine words. Before the first session there is no storage and both
positions are zero; from then on the capacity is one that memory has granted, which is less than
`2 ^ 63` (`Granted`). So nothing that is worked out about the ring overflows, and every transfer is a
copy that stays in bounds (`ring_arithmetic_is_exact`).
-/
namespace BytePipe

namespace Turn

variable {memory : Memory} {peak : Nat} {op : Operation} {t u : Turn} {c : Call}

/-- Memory grants the capacity, unless no session has been opened and the ring is untouched. -/
def Granted (memory : Memory) (t : Turn) : Prop :=
  memory.grants t.channel.ring.capacity = true ∨
    t.channel.roster = [] ∧ t.channel.ring = .empty t.channel.ring.capacity

namespace Granted

theorem of_eq (granted : Granted memory t) (ring : u.channel.ring = t.channel.ring)
    (roster : u.channel.roster = t.channel.roster) : Granted memory u := by
  unfold Granted
  rw [ring, roster]
  exact granted

/-- Once a session is listed, the capacity has been granted. -/
theorem of_listed (granted : Granted memory t) {slot : Slot} {entry : AccessMode × Bool}
    (listed : t.channel.roster[slot]? = some entry)
    (capacity : u.channel.ring.capacity = t.channel.ring.capacity) : Granted memory u := by
  rcases granted with grants | ⟨none, -⟩
  · exact .inl (by rw [capacity]; exact grants)
  · simp [none] at listed

theorem transfer (granted : Granted memory t) (fits : t.channel.Fits c) :
    Granted memory (t.transfer c).1 := by
  obtain ⟨mode, listed, -⟩ := fits.session
  apply granted.of_listed listed
  rw [ring_transfer]
  exact Ring.capacity_serve _ _

theorem ran (granted : Granted memory t) (ran : Ran t c u) : Granted memory u := by
  have signalled := alike_setSignal t c.slot false
  cases ran with
  | interrupted unready => exact granted.of_eq signalled.ring signalled.roster
  | passedOn ready =>
    apply granted.of_eq
    · rw [ring_wakeOne]
      exact signalled.ring
    · rw [roster_wakeOne]
      exact signalled.roster
  | moved fits ready => exact granted.transfer fits
  | slept fits unready => exact granted.of_eq (ring_sleep t c) (roster_sleep t c)

theorem arrived (granted : Granted memory t) (arrived : Arrived t c u) : Granted memory u := by
  cases arrived with
  | refused => exact granted
  | failed e => exact granted
  | answered trivial => exact granted
  | ran ran => exact granted.ran ran

theorem applied (granted : Granted memory t) (applied : Applied memory t op u) :
    Granted memory u := by
  cases applied with
  | alike alike => exact granted.of_eq alike.ring alike.roster
  | joined mode nonBlocking opens allocated =>
    rcases granted with grants | ⟨-, untouched⟩
    · exact .inl grants
    · rw [untouched] at allocated
      contradiction
  | allocated mode nonBlocking ring opens unallocated granted =>
    left
    unfold Ring.allocate at granted
    split at granted
    · rename_i grants
      obtain rfl := Except.ok.inj granted
      exact grants
    · contradiction
  | ended slot s found idle =>
    apply granted.of_listed (Channel.roster_of_openSession? found)
    unfold releaseCounts
    dsimp only
    split <;> rfl
  | arrived c called arrived => exact granted.arrived arrived
  | signalled slot =>
    have signalled := alike_setSignal t slot true
    apply granted.of_eq
    · rw [ring_interrupt]
    · simp only [interrupt, roster_wakeAll]
      exact signalled.roster

end Granted

end Turn

variable {memory : Memory} {peak : Nat} {t : Turn}

theorem Life.granted (life : Life memory peak t) : Turn.Granted memory t := by
  induction life with
  | created name capacity positive => exact .inr ⟨rfl, rfl⟩
  | operated op before settled fresh ih => exact ih.applied (Turn.applied_apply memory _ op)
  | @ran peak t earlier c later before woken ih =>
    obtain ⟨-, fits, -⟩ := before.orderly.take woken
    exact Turn.Granted.ran (t := { t with woken := earlier ++ later }) ih (Turn.ran_resume fits)

/-- The ring of a channel is small enough for words. -/
theorem Life.sized (life : Life memory peak t) (word : t.channel.ring.capacity < 2 ^ 64) :
    t.channel.ring.Sized where
  readPos_lt := life.inside.readPos_lt
  writePos_lt := life.inside.writePos_lt
  word := word
  sums := by
    rcases life.granted with grants | ⟨-, untouched⟩
    · right
      have within : t.channel.ring.capacity ≤ memory.limit := of_decide_eq_true grants
      have bound := memory.limit_lt
      omega
    · left
      rw [untouched]
      exact ⟨rfl, rfl⟩

/-- The copy that serves a request, out of the ring into a buffer of the length that is asked for,
or into the ring. -/
def Cells.Serves (before after : Cells) : Request → Transferred → Prop
  | .read n, .bytes bytes => ∀ buffer : List UInt8, buffer.length = n →
    before.copyOut? buffer = some (bytes ++ buffer.drop bytes.length, bytes.length, after)
  | .write data, .count written => before.copyIn? data = some (written, after)
  | _, _ => False

/-- A call that is served from storage that is there, is served by a copy. -/
theorem Channel.serves_serve {ch : Channel} {c : Call} (sized : ch.ring.Sized)
    (wf : ch.ring.WellFormed) (stored : ch.ring.storage ≠ none)
    (ready : ch.ready c.direction = true) :
    ch.ring.cells.Serves (ch.ring.serve c.request).2.cells c.request
      (ch.ring.serve c.request).1 := by
  obtain ⟨ticket, slot, request⟩ := c
  cases request with
  | read n =>
    intro buffer length
    have copied := Ring.copyOut?_cells sized wf (Option.isSome_iff_ne_none.mpr stored)
      (Channel.isEmpty_of_ready ready) buffer
    rw [length] at copied
    exact copied
  | write data => exact Ring.copyIn?_cells sized wf stored (of_decide_eq_true ready) data

open Turn in
/-- At every moment each value that is worked out about the ring is worked out without leaving the
64-bit words, and storage that is there has as many bytes as the capacity says. Every step that tells
of a successful call has found the ring not empty, or not full, and, unless the open counts have
wrapped around, in its storage; it has served the call by a copy that stays in bounds. -/
theorem ring_arithmetic_is_exact {memory : Memory} {peak : Nat} {t : Turn}
    (life : Life memory peak t) (word : t.channel.ring.capacity < 2 ^ 64) :
    t.channel.ring.cells.free? = some t.channel.ring.free ∧
    t.channel.ring.cells.used? = some t.channel.ring.used ∧
    t.channel.ring.cells.readableRun? = some t.channel.ring.readableRun ∧
    t.channel.ring.cells.writableRun? = some t.channel.ring.writableRun ∧
    t.channel.ring.cells.isAllocated = t.channel.ring.isAllocated ∧
    t.channel.ring.cells.storage.length
      = (if t.channel.ring.isAllocated then t.channel.ring.capacity else 0) ∧
    ∀ u told c moved, Next memory t u → u.account = t.account ++ told →
      .ended c (.ok moved) ∈ told → c.request.isTrivial = false →
        t.channel.ready c.direction = true ∧
        (peak < 2 ^ 32 → t.channel.ring.isAllocated = true) ∧
        (t.channel.ring.isAllocated = true →
          t.channel.ring.cells.Serves u.channel.ring.cells c.request moved) := by
  have sized := life.sized word
  have positive : 0 < t.channel.ring.capacity := by
    have := sized.readPos_lt
    omega
  refine ⟨sized.free?, sized.used?, sized.readableRun?, sized.writableRun?,
    Ring.isAllocated_cells positive, Ring.length_storage_cells _, ?_⟩
  intro u told c moved next account tells nontrivial
  obtain ⟨fits, ready, served⟩ := (next.moves life account).served c moved tells nontrivial
  refine ⟨ready, fun few => ?_, fun allocated => ?_⟩
  · exact Option.isSome_iff_ne_none.mpr ((life.counted few).stored fits)
  · obtain ⟨wf, stored⟩ := life.wellFormed_of_isAllocated allocated
    have serves := Channel.serves_serve sized wf stored ready
    rwa [served] at serves

open Turn in
/-- A storage of the largest size there can be: one byte is buffered, and a read copies it out. -/
theorem ring_arithmetic_is_exact_largest_storage :
    ∃ t u : Turn, Life ⟨2 ^ 63 - 1, by decide⟩ 2 t ∧ t.channel.ring.capacity = 2 ^ 63 - 1 ∧
      t.channel.ring.cells.free? = some (2 ^ 63 - 3) ∧ t.channel.ring.cells.used? = some 1 ∧
      Next ⟨2 ^ 63 - 1, by decide⟩ t u ∧ t.channel.ring.isAllocated = true ∧
      t.channel.ring.cells.Serves u.channel.ring.cells (.read 5) (.bytes [7]) := by
  have idle (d : Direction) : (Channel.named "pipe" (2 ^ 63 - 1)).sleepers d = [] := by
    cases d <;> rfl
  have created := @Life.created ⟨2 ^ 63 - 1, by decide⟩ "pipe" (2 ^ 63 - 1) (by decide)
  have opened := created.operated (.openSession .readWrite false) rfl (.of_idle _ idle)
  have life := opened.operated (.call ⟨0, 0, .write [7]⟩) rfl (.of_idle _ idle)
  obtain ⟨free, used, -, -, -, -, copies⟩ := ring_arithmetic_is_exact life (by decide)
  obtain ⟨-, stored, serves⟩ := copies _ [.ended ⟨1, 0, .read 5⟩ (.ok (.bytes [7]))]
    ⟨1, 0, .read 5⟩ (.bytes [7]) (.operated (.tryCall ⟨1, 0, .read 5⟩) rfl (.of_idle _ idle)) rfl
    List.mem_cons_self rfl
  exact ⟨_, _, life, rfl, free, used, .operated (.tryCall ⟨1, 0, .read 5⟩) rfl (.of_idle _ idle),
    stored (by decide), serves rfl⟩

open Channel Turn in
/-- With `2 ^ 31 + 1` read-write sessions, a close leaves the open ones without storage. A write on one
of them goes on to copy a byte to a place that is not there. -/
theorem write_copies_without_storage :
    ∃ peak t u, Life ⟨16, by decide⟩ peak t ∧
      t.channel = stranded ⟨16, by decide⟩ (2 ^ 31 + 1) ∧ Next ⟨16, by decide⟩ t u ∧
      u.account = t.account ++ [.ended ⟨2, 1, .write [9]⟩ (.ok (.count 1))] ∧
      t.channel.ring.isAllocated = false ∧ t.channel.ring.cells.copyIn? [9] = none := by
  have granted : (Memory.mk 16 (by decide)).grants 2 = true := rfl
  obtain ⟨peak, t, life, settled, channel, bereft, -⟩ :=
    Life.stranded granted (n := 2 ^ 31 - 1) rfl
  have fresh : (Operation.tryCall ⟨2, 1, .write [9]⟩).Fresh t.channel := by
    rintro c called d w asleep
    cases called
    rw [bereft] at asleep
    cases d with
    | reading => contradiction
    | writing =>
      obtain rfl := List.mem_singleton.mp asleep
      decide
  refine ⟨peak, t, _, life, channel, .operated _ settled fresh, ?_, ?_⟩
  · obtain ⟨ch, woken, account⟩ := t
    obtain rfl : ch = _ := bereft
    exact List.append_nil _
  · rw [bereft]
    exact ⟨rfl, rfl⟩

end BytePipe
