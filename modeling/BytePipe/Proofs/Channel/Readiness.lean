import BytePipe.Channel.Status
import BytePipe.Proofs.Channel.Onward

/-!
What a channel shows of itself and what it does. A poll tests the positions of the ring, a status
counts bytes and room, and a transfer works out the lengths of contiguous runs; in every state they
agree (`poll_status_and_calls_agree`), and looking changes nothing that any of them depends on.
-/
namespace BytePipe

/-- How many bytes a status says can be moved in a direction. -/
def Status.movable (s : Status) : Direction → Nat
  | .reading => s.used
  | .writing => s.free

namespace Ring

variable {r : Ring}

theorem Inside.used_add_free (inside : r.Inside) : r.used + r.free = r.capacity - 1 := by
  have balance := Ring.used_add_free inside.filled
  exact balance

theorem Inside.isEmpty_iff_used (inside : r.Inside) : r.isEmpty = true ↔ r.used = 0 := by
  have empty := Ring.isEmpty_iff_used inside.filled
  exact empty

end Ring

namespace Channel

variable {ch : Channel} {d : Direction}

theorem status_of_allocated (allocated : ch.ring.isAllocated = true) :
    ch.status.used = ch.ring.used ∧ ch.status.free = ch.ring.free :=
  ⟨if_pos allocated, if_pos allocated⟩

/-- With storage, the bytes and the room that a status shows make up all but one of the capacity. -/
theorem status_used_add_free (inside : ch.ring.Inside) (allocated : ch.ring.isAllocated = true) :
    ch.status.used + ch.status.free = ch.status.capacity - 1 := by
  obtain ⟨used, free⟩ := status_of_allocated allocated
  rw [used, free]
  exact inside.used_add_free

/-- A direction is ready exactly when the status shows something to be moved in it. -/
theorem ready_iff_movable (inside : ch.ring.Inside) (allocated : ch.ring.isAllocated = true) :
    ch.ready d = true ↔ 0 < ch.status.movable d := by
  obtain ⟨used, free⟩ := status_of_allocated allocated
  cases d with
  | reading =>
    rw [Status.movable, used, ready, Bool.not_eq_true', ← Bool.not_eq_true,
      inside.isEmpty_iff_used, Nat.pos_iff_ne_zero]
  | writing => rw [Status.movable, free, ready, decide_eq_true_iff]

end Channel

namespace Turn

variable {memory : Memory} {t : Turn} {c : Call} {slot : Slot} {s : Session}

/-- A poll through an open session shows the readiness of the channel. -/
theorem shown_by_poll (found : t.channel.openSession? slot = some s) (waker : Option Waker) :
    ((Operation.poll slot waker).apply memory t).2 = .ready t.channel.readiness := by
  rw [Operation.apply, found, Option.isSome_some, if_pos rfl]
  cases waker <;> rfl

/-- A poll does nothing, or registers its waker with both queues. -/
theorem turn_of_poll (memory : Memory) (t : Turn) (slot : Slot) (waker : Option Waker) :
    ((Operation.poll slot waker).apply memory t).1 = t ∨
      ∃ w, waker = some w ∧
        ((Operation.poll slot waker).apply memory t).1 = (t.poll (some w)).1 := by
  rw [Operation.apply]
  split
  · cases waker with
    | none => exact .inl rfl
    | some w => exact .inr ⟨w, rfl, rfl⟩
  · exact .inl rfl

theorem status_poll (t : Turn) (w : Waker) :
    (t.poll (some w)).1.channel.status = t.channel.status := by
  simp only [poll, Channel.status, channel_mapChannel, WaitQueue.sleepers_register]
  rfl

/-- What a call that never sleeps gets on an open session that permits it. -/
theorem outcome_tryCall (memory : Memory) (found : t.channel.openSession? c.slot = some s)
    (permits : s.mode.permits c.direction = true) (nontrivial : c.request.isTrivial = false) :
    ((Operation.tryCall c).apply memory t).2 =
      if t.channel.ready c.direction then .transferred (t.channel.ring.serve c.request).1
      else .failed .wouldBlock := by
  simp only [Operation.apply, tryCall, arrive, found, permits, nontrivial]
  cases t.channel.ready c.direction with
  | true =>
    rw [if_pos rfl]
    exact congrArg Outcome.ofProgress (progress_transfer_eq t c)
  | false => rfl

/-- What a poll shows agrees with what the status counts. -/
theorem shown_agrees (inside : t.channel.ring.Inside)
    (allocated : t.channel.ring.isAllocated = true)
    (found : t.channel.openSession? slot = some s) (waker : Option Waker) :
    ∃ shown, ((Operation.poll slot waker).apply memory t).2 = .ready shown ∧
      (shown.readable = true ↔ 0 < t.channel.status.used) ∧
      (shown.writable = true ↔ 0 < t.channel.status.free) ∧
      (shown.writable = true ↔ t.channel.status.used < t.channel.status.capacity - 1) := by
  have readable := Channel.ready_iff_movable (d := .reading) inside allocated
  have writable := Channel.ready_iff_movable (d := .writing) inside allocated
  have balance := Channel.status_used_add_free inside allocated
  refine ⟨_, shown_by_poll found waker, readable, writable, writable.trans ?_⟩
  change 0 < t.channel.status.free ↔ _
  omega

/-- A call that never sleeps moves something exactly when the status counts something to be moved. -/
theorem served_iff_movable (memory : Memory) (inside : t.channel.ring.Inside)
    (allocated : t.channel.ring.isAllocated = true)
    (found : t.channel.openSession? c.slot = some s)
    (permits : s.mode.permits c.direction = true) (nontrivial : c.request.isTrivial = false) :
    if 0 < t.channel.status.movable c.direction then
      ∃ moved, ((Operation.tryCall c).apply memory t).2 = .transferred moved ∧ 0 < moved.size
    else ((Operation.tryCall c).apply memory t).2 = .failed .wouldBlock := by
  have ready := Channel.ready_iff_movable (d := c.direction) inside allocated
  rw [outcome_tryCall memory found permits nontrivial]
  by_cases movable : 0 < t.channel.status.movable c.direction
  · have able := ready.mpr movable
    have moved := Channel.size_serve inside nontrivial able
    rw [if_pos movable, if_pos able]
    exact ⟨_, rfl, Nat.pos_of_ne_zero moved⟩
  · rw [if_neg movable, if_neg fun able => movable (ready.mp able)]

/-- While no byte is moved and a session stays open, a channel shows the same. -/
theorem Onward.shows_same {peak most : Nat} {asked : List (Operation × Outcome)} {u : Turn}
    {before after : Session}
    (onward : t.Onward memory most asked u) (life : Life memory peak t)
    (few : max peak most < 2 ^ 32) (found : t.channel.openSession? slot = some before)
    (later : u.channel.openSession? slot = some after) :
    ∃ told, u.account = t.account ++ told ∧
      ((∀ n ∈ told, n.mover? = none) →
        u.channel.ring = t.channel.ring ∧
        u.channel.status.used = t.channel.status.used ∧
        u.channel.status.free = t.channel.status.free ∧
        ∀ waker, ((Operation.poll slot waker).apply memory u).2
          = ((Operation.poll slot none).apply memory t).2) := by
  have listed := Channel.roster_of_openSession? found
  obtain ⟨told, still, account, here, same⟩ := onward.kept life few listed
  have isOpen : still = true := by
    rw [Channel.roster_of_openSession? later] at here
    exact (Prod.mk.inj (Option.some.inj here)).2.symm
  refine ⟨told, account, fun quiet => ?_⟩
  have ring := same isOpen quiet
  refine ⟨ring, ?_, ?_, fun waker => ?_⟩
  · rw [Channel.status, Channel.status, ring]
  · rw [Channel.status, Channel.status, ring]
  · have readiness : u.channel.readiness = t.channel.readiness := by
      rw [Channel.readiness, Channel.ready_congr ring, Channel.ready_congr ring, Channel.readiness]
    rw [shown_by_poll later, shown_by_poll found, readiness]

end Turn

/-- At every moment both positions of the ring are inside the capacity, and with storage the used
and the free bytes of the status make up all but one of it. A channel with an open session has
storage. Then a poll through that session shows a direction as ready exactly when the status counts
something to be moved in it, and exactly then every call that never sleeps, on any open session that
permits it, moves at least one byte; otherwise it fails as one that would block. A poll changes
nothing but who observes the channel, and without a waker nothing at all. While no byte is moved and
a session stays open, whatever else happens, ring, status counts and readiness stay the same. The
bound is that of the open counts, whose sum is a 32-bit word. -/
theorem poll_status_and_calls_agree {memory : Memory} {peak : Nat} {t : Turn}
    (life : Life memory peak t) :
    t.channel.status.readPos < t.channel.status.capacity ∧
    t.channel.status.writePos < t.channel.status.capacity ∧
    (t.channel.status.allocated = true →
      t.channel.status.used + t.channel.status.free = t.channel.status.capacity - 1) ∧
    (∀ slot s, t.channel.openSession? slot = some s →
      (peak < 2 ^ 32 → t.channel.status.allocated = true) ∧
      (t.channel.status.allocated = true →
        (∀ waker, ∃ shown, ((Operation.poll slot waker).apply memory t).2 = .ready shown ∧
          (shown.readable = true ↔ 0 < t.channel.status.used) ∧
          (shown.writable = true ↔ 0 < t.channel.status.free) ∧
          (shown.writable = true ↔ t.channel.status.used < t.channel.status.capacity - 1)) ∧
        (∀ c : Call, c.slot = slot → s.mode.permits c.direction = true →
          c.request.isTrivial = false →
          if 0 < t.channel.status.movable c.direction then
            ∃ moved, ((Operation.tryCall c).apply memory t).2 = .transferred moved ∧ 0 < moved.size
          else ((Operation.tryCall c).apply memory t).2 = .failed .wouldBlock))) ∧
    (∀ slot waker,
      Turn.Alike t ((Operation.poll slot waker).apply memory t).1 ∧
      ((Operation.poll slot waker).apply memory t).1.channel.sessions = t.channel.sessions ∧
      ((Operation.poll slot waker).apply memory t).1.channel.feeds = t.channel.feeds ∧
      ((Operation.poll slot waker).apply memory t).1.channel.status = t.channel.status) ∧
    (∀ slot, ((Operation.poll slot none).apply memory t).1 = t) ∧
    (∀ most asked u slot before after, t.Onward memory most asked u → max peak most < 2 ^ 32 →
      t.channel.openSession? slot = some before → u.channel.openSession? slot = some after →
      ∃ told, u.account = t.account ++ told ∧
        ((∀ n ∈ told, n.mover? = none) →
          u.channel.ring = t.channel.ring ∧
          u.channel.status.used = t.channel.status.used ∧
          u.channel.status.free = t.channel.status.free ∧
          ∀ waker, ((Operation.poll slot waker).apply memory u).2
            = ((Operation.poll slot none).apply memory t).2)) := by
  have inside := life.inside
  refine ⟨inside.readPos_lt, inside.writePos_lt, Channel.status_used_add_free inside,
    fun slot s found => ⟨fun few => ?_, fun allocated => ⟨?_, ?_⟩⟩, fun slot waker => ?_,
    fun slot => ?_, fun most asked u slot before after onward few found later => ?_⟩
  · exact (life.counted few).storage.mpr
      (Channel.openSessions_pos (Channel.roster_of_openSession? found))
  · exact Turn.shown_agrees inside allocated found
  · intro c same permits nontrivial
    subst same
    exact Turn.served_iff_movable memory inside allocated found permits nontrivial
  · rcases Turn.turn_of_poll memory t slot waker with same | ⟨w, rfl, registered⟩
    · rw [same]
      exact ⟨.refl t, rfl, rfl, rfl⟩
    · rw [registered]
      exact ⟨Turn.alike_poll t (some w), rfl, rfl, Turn.status_poll t w⟩
  · rcases Turn.turn_of_poll memory t slot none with same | ⟨w, none, -⟩
    · exact same
    · contradiction
  · exact onward.shows_same life few found later

/-- One byte of two is buffered: a poll shows both directions, a reader gets the byte, and another
open makes no difference to the next poll. -/
theorem poll_status_and_calls_agree_half_full :
    ∃ t u : Turn, Life ⟨16, by decide⟩ 2 t ∧ t.channel.status.allocated = true ∧
      t.channel.status.used + t.channel.status.free = 2 ∧
      (∃ shown, ((Operation.poll 0 none).apply ⟨16, by decide⟩ t).2 = .ready shown ∧
        (shown.readable = true ↔ 0 < t.channel.status.used)) ∧
      (∃ moved, ((Operation.tryCall ⟨1, 0, .read 5⟩).apply ⟨16, by decide⟩ t).2
        = .transferred moved ∧ 0 < moved.size) ∧
      u.channel.openSessions = 2 ∧
      ((Operation.poll 0 none).apply ⟨16, by decide⟩ u).2
        = ((Operation.poll 0 none).apply ⟨16, by decide⟩ t).2 := by
  have created := @Life.created ⟨16, by decide⟩ "pipe" 3 (by decide)
  have opened := created.operated (.openSession .readWrite false) rfl
    (.of_idle _ fun d => by cases d <;> rfl)
  have written := opened.operated (.call ⟨0, 0, .write [7]⟩) rfl
    (.of_idle _ fun d => by cases d <;> rfl)
  obtain ⟨-, -, room, agree, -, -, later⟩ := poll_status_and_calls_agree written
  obtain ⟨-, shows⟩ := agree 0 ⟨.readWrite, false, false, true⟩ rfl
  obtain ⟨polled, served⟩ := shows rfl
  obtain ⟨shown, same, readable, -⟩ := polled none
  obtain ⟨told, account, still⟩ := later _ _ _ 0 _ _
    (.operated (.openSession .readOnly true) .here rfl (.of_idle _ fun d => by cases d <;> rfl))
    (by decide) rfl rfl
  have silent : told = [] := List.append_cancel_left (account.symm.trans (List.append_nil _).symm)
  subst silent
  exact ⟨_, _, written, rfl, room rfl, ⟨shown, same, readable⟩,
    served ⟨1, 0, .read 5⟩ rfl rfl rfl, rfl, (still nofun).2.2.2 none⟩

open Channel in
/-- With `2 ^ 31 + 1` read-write sessions, a close leaves the open ones without storage: a poll shows
room for a byte, and the status counts none. -/
theorem poll_shows_room_without_storage :
    ∃ peak t, Life ⟨16, by decide⟩ peak t ∧ t.woken = [] ∧
      t.channel = stranded ⟨16, by decide⟩ (2 ^ 31 + 1) ∧
      (t.channel.openSession? 1).isSome = true ∧ t.channel.status.allocated = false ∧
      ((Operation.poll 1 none).apply ⟨16, by decide⟩ t).2 = .ready ⟨false, true⟩ ∧
      t.channel.status.used < t.channel.status.capacity - 1 ∧ t.channel.status.free = 0 := by
  have granted : (Memory.mk 16 (by decide)).grants 2 = true := rfl
  obtain ⟨peak, t, life, settled, channel, bereft, -⟩ :=
    Life.stranded granted (n := 2 ^ 31 - 1) rfl
  have found : t.channel.openSession? 1 = some ⟨.readWrite, false, false, true⟩ := by
    rw [bereft]
    rfl
  refine ⟨peak, t, life, settled, channel, Option.isSome_of_eq_some found, ?_⟩
  rw [Turn.shown_by_poll found none, bereft]
  exact ⟨rfl, rfl, Nat.one_pos, rfl⟩

end BytePipe
