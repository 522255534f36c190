import BytePipe.Proofs.Channel.Sessions
import BytePipe.Proofs.Ring.Books

/-!
Bytes leave a channel in the order in which they came, and none are lost or made up while the
storage is there. For every moment of every life, between two calls and between the runs of woken
calls, the bytes accepted since the storage came are the bytes returned since then followed by the
contents of the ring. The last close ends the lifetime of the storage, and the next one begins with
nothing accepted, returned or buffered (`fifo_within_lifetime`).

Accepted and returned bytes are read off the account, independently of the ring.
-/
namespace BytePipe

/-- The bytes that a completed write has put in: as many of its data as it says. -/
def Notice.accepted : Notice → List UInt8
  | .ended ⟨_, _, .write data⟩ (.ok (.count n)) => data.take n
  | _ => []

/-- The bytes that a completed read has taken out. -/
def Notice.returned : Notice → List UInt8
  | .ended _ (.ok (.bytes data)) => data
  | _ => []

def accepted (notices : List Notice) : List UInt8 :=
  notices.flatMap Notice.accepted

def returned (notices : List Notice) : List UInt8 :=
  notices.flatMap Notice.returned

/-- A lifetime of the storage goes on with every notice, from the one that the storage came to the
one that it went. -/
def lifetimeAfter : Option (List Notice) → Notice → Option (List Notice)
  | _, .allocated => some []
  | _, .released => none
  | since, n => since.map (· ++ [n])

/-- What an account tells since the storage came; nothing while there is none. -/
def lifetime (account : List Notice) : Option (List Notice) :=
  account.foldl lifetimeAfter none

/-- A notice that neither moves bytes nor has to do with the storage. -/
structure Notice.Quiet (n : Notice) : Prop where
  accepted : n.accepted = []
  returned : n.returned = []
  lasting : ∀ since, lifetimeAfter since n = since.map (· ++ [n])

theorem lifetime_concat (account : List Notice) (n : Notice) :
    lifetime (account ++ [n]) = lifetimeAfter (lifetime account) n := by
  simp [lifetime, List.foldl_append]

theorem quiet_error (c : Call) (e : ChannelError) : Notice.Quiet (.ended c (.error e)) := by
  obtain ⟨ticket, slot, request⟩ := c
  cases request <;> exact ⟨rfl, rfl, fun _ => rfl⟩

theorem quiet_slept (c : Call) : Notice.Quiet (.slept c) :=
  ⟨rfl, rfl, fun _ => rfl⟩

theorem quiet_woke (w : Waker) : Notice.Quiet (.woke w) :=
  ⟨rfl, rfl, fun _ => rfl⟩

theorem quiet_countedOut (slot : Slot) : Notice.Quiet (.countedOut slot) :=
  ⟨rfl, rfl, fun _ => rfl⟩

theorem quiet_trivialAnswer (c : Call) : Notice.Quiet (.ended c (.ok c.request.trivialAnswer)) := by
  obtain ⟨ticket, slot, request⟩ := c
  cases request with
  | read length => exact ⟨rfl, rfl, fun _ => rfl⟩
  | write data => exact ⟨data.take_zero, rfl, fun _ => rfl⟩

theorem accepted_concat (since : List Notice) (n : Notice) :
    accepted (since ++ [n]) = accepted since ++ n.accepted := by
  simp [accepted]

theorem returned_concat (since : List Notice) (n : Notice) :
    returned (since ++ [n]) = returned since ++ n.returned := by
  simp [returned]

namespace Ring

variable {r : Ring} {since : List Notice}

theorem Booked.quiet (booked : r.Booked (accepted since) (returned since)) {n : Notice}
    (quiet : n.Quiet) : r.Booked (accepted (since ++ [n])) (returned (since ++ [n])) := by
  rw [accepted_concat, returned_concat, quiet.accepted, quiet.returned, List.append_nil,
    List.append_nil]
  exact booked

/-- Whatever a request moves is entered in the books. -/
theorem Booked.serve (booked : r.Booked (accepted since) (returned since)) (c : Call)
    (ready : c.direction = .reading → r.isEmpty = false) :
    (r.serve c.request).2.Booked (accepted (since ++ [.ended c (.ok (r.serve c.request).1)]))
      (returned (since ++ [.ended c (.ok (r.serve c.request).1)])) := by
  rw [accepted_concat, returned_concat]
  obtain ⟨ticket, slot, request⟩ := c
  cases request with
  | read n =>
    have taken := booked.take (ready rfl) n
    rw [← List.append_nil (accepted since)] at taken
    exact taken
  | write data =>
    have put := booked.put data
    rw [← List.append_nil (returned since)] at put
    exact put

end Ring

namespace Turn

/-- The account of a channel tells whether it has storage, and if so agrees with the ring. -/
structure Kept (t : Turn) : Prop where
  positive : 0 < t.channel.ring.capacity
  away : lifetime t.account = none → t.channel.ring.storage = none
  books : ∀ since, lifetime t.account = some since →
    t.channel.ring.Booked (accepted since) (returned since)

namespace Kept

variable {t u : Turn}

theorem of_eq (kept : Kept t) (ring : u.channel.ring = t.channel.ring)
    (account : u.account = t.account) : Kept u :=
  ⟨ring ▸ kept.positive, ring ▸ account ▸ kept.away, ring ▸ account ▸ kept.books⟩

theorem of_alike (kept : Kept t) (alike : Alike t u) : Kept u :=
  kept.of_eq alike.ring alike.account

theorem quiet (kept : Kept t) {n : Notice} (quiet : n.Quiet) : Kept (t.record [n]) where
  positive := kept.positive
  away none := by
    rw [account_record, lifetime_concat, quiet.lasting, Option.map_eq_none_iff] at none
    exact kept.away none
  books since is := by
    rw [account_record, lifetime_concat, quiet.lasting, Option.map_eq_some_iff] at is
    obtain ⟨before, is, rfl⟩ := is
    exact (kept.books before is).quiet quiet

theorem woke (kept : Kept t) (wakers : List Waker) : Kept (t.record (wakers.map .woke)) := by
  induction wakers generalizing t with
  | nil => exact kept.of_eq rfl (List.append_nil _)
  | cons w rest ih =>
    refine (ih (kept.quiet (quiet_woke w))).of_eq rfl ?_
    simp

theorem wakeOne (kept : Kept t) (d : Direction) : Kept (t.wakeOne d) := by
  obtain ⟨wakers, account⟩ := account_wakeOne t d
  exact (kept.woke wakers).of_eq (ring_wakeOne t d) account

theorem wakeAll (kept : Kept t) (d : Direction) : Kept (t.wakeAll d) := by
  obtain ⟨wakers, account⟩ := account_wakeAll t d
  exact (kept.woke wakers).of_eq (ring_wakeAll t d) account

theorem sleep (kept : Kept t) (c : Call) : Kept (t.sleep c) :=
  (kept.quiet (quiet_slept c)).of_eq (ring_sleep t c) rfl

theorem cutShort (kept : Kept t) (c : Call) : Kept (t.cutShort c) :=
  (kept.of_alike (alike_setSignal t c.slot false)).quiet (quiet_error c .interrupted)

/-- Without storage the transfer of a call is told nowhere, with it the transfer is booked. -/
theorem transfer (kept : Kept t) {c : Call} (ready : t.channel.ready c.direction = true) :
    Kept (t.transfer c).1 := by
  refine of_alike (wakeOne ?_ c.direction.opposite) (alike_transfer t c)
  have lasting : ∀ since, lifetimeAfter since (.ended c (.ok (t.channel.ring.serve c.request).1))
      = since.map (· ++ [.ended c (.ok (t.channel.ring.serve c.request).1)]) := fun _ => rfl
  refine ⟨?_, fun none => ?_, fun since is => ?_⟩
  · exact (Ring.capacity_serve t.channel.ring c.request).symm ▸ kept.positive
  · rw [account_served, lifetime_concat, lasting, Option.map_eq_none_iff] at none
    have away := Ring.isAllocated_serve t.channel.ring c.request
    rw [Ring.isAllocated, Ring.isAllocated, kept.away none, Option.isSome_none] at away
    rw [ring_served]
    exact Option.isNone_iff_eq_none.mp (by simpa using away)
  · rw [account_served, lifetime_concat, lasting, Option.map_eq_some_iff] at is
    obtain ⟨before, is, rfl⟩ := is
    refine (kept.books before is).serve c fun reads => ?_
    rw [reads] at ready
    exact Channel.isEmpty_of_ready ready

theorem ran (kept : Kept t) {c : Call} (ran : Ran t c u) : Kept u := by
  cases ran with
  | interrupted unready => exact kept.cutShort c
  | passedOn ready => exact (kept.cutShort c).wakeOne c.direction
  | moved fits ready => exact kept.transfer ready
  | slept fits unready => exact kept.sleep c

theorem arrived (kept : Kept t) {c : Call} (arrived : Arrived t c u) : Kept u := by
  cases arrived with
  | refused => exact kept
  | failed e => exact kept.quiet (quiet_error c e)
  | answered trivial => exact kept.quiet (quiet_trivialAnswer c)
  | ran ran => exact kept.ran ran

/-- A lifetime begins with empty books. -/
theorem allocate (kept : Kept t) {memory : Memory} {ring : Ring}
    (granted : t.channel.ring.allocate memory = .ok ring) :
    Kept ((t.mapChannel ({ · with ring })).record [.allocated]) where
  positive := (Ring.booked_allocate kept.positive granted).wellFormed.capacity_pos
  away none := by
    rw [account_record, lifetime_concat] at none
    contradiction
  books since is := by
    rw [account_record, lifetime_concat] at is
    obtain rfl := Option.some.inj is
    exact Ring.booked_allocate kept.positive granted

theorem ended (kept : Kept t) (slot : Slot) (mode : AccessMode) :
    Kept ((t.markClosed slot).releaseCounts slot mode) := by
  have counted : Kept (((t.markClosed slot).mapChannel (countModeOut mode)).record
      [.countedOut slot]) :=
    (kept.of_eq rfl rfl : Kept ((t.markClosed slot).mapChannel (countModeOut mode))).quiet
      (quiet_countedOut slot)
  unfold releaseCounts
  dsimp only
  split
  · refine ⟨counted.positive, fun _ => rfl, fun since is => ?_⟩
    rw [account_record, lifetime_concat] at is
    contradiction
  · exact counted

theorem applied {memory : Memory} {op : Operation} (kept : Kept t)
    (applied : Applied memory t op u) : Kept u := by
  cases applied with
  | alike alike => exact kept.of_alike alike
  | joined mode nonBlocking opens allocated => exact kept.of_eq rfl rfl
  | allocated mode nonBlocking ring opens unallocated granted =>
    exact (kept.allocate granted).of_eq rfl rfl
  | ended slot s found idle => exact kept.ended slot s.mode
  | arrived c called arrived => exact kept.arrived arrived
  | signalled slot =>
    exact ((kept.of_alike (alike_setSignal t slot true)).wakeAll .reading).wakeAll .writing

end Kept

end Turn

theorem Life.kept {memory : Memory} {peak : Nat} {t : Turn} (life : Life memory peak t) :
    t.Kept := by
  induction life with
  | created name capacity positive => exact ⟨positive, fun _ => rfl, fun _ is => by cases is⟩
  | operated op before settled fresh ih => exact ih.applied (Turn.applied_apply memory _ op)
  | @ran peak t earlier c later before woken ih =>
    obtain ⟨-, fits, -⟩ := before.orderly.take woken
    have here : Turn.Kept { t with woken := earlier ++ later } := ih.of_eq rfl rfl
    exact here.ran (Turn.ran_resume fits)

/-- At every moment, the account tells whether there is storage. If so, the bytes accepted since it
came are those returned since then followed by the contents of the ring, at most one less than the
capacity, and both positions count the bytes moved. While no session is open there is no storage and
no lifetime goes on, and the open that brings storage finds nothing of an earlier lifetime. Memory
may be there for one open and not for another. -/
theorem fifo_within_lifetime {peak : Nat} {t : Turn} (life : ShiftingLife peak t) :
    (t.channel.ring.isAllocated = (lifetime t.account).isSome) ∧
    (∀ since, lifetime t.account = some since →
      accepted since = returned since ++ t.channel.ring.contents ∧
      t.channel.ring.contents.length = t.channel.ring.used ∧
      t.channel.ring.used ≤ t.channel.ring.capacity - 1 ∧
      t.channel.ring.writePos = (accepted since).length % t.channel.ring.capacity ∧
      t.channel.ring.readPos = (returned since).length % t.channel.ring.capacity) ∧
    (t.channel.openSessions = 0 →
      t.channel.ring.isAllocated = false ∧ lifetime t.account = none) ∧
    (∀ memory mode nonBlocking u slot, t.channel.ring.isAllocated = false →
      t.openSession memory mode nonBlocking = (u, .ok slot) →
      lifetime u.account = some [] ∧ u.channel.ring.contents = []) := by
  have lived := shiftingLife_iff.mp life
  have kept := lived.kept
  have told : t.channel.ring.isAllocated = (lifetime t.account).isSome := by
    cases is : lifetime t.account with
    | none => rw [Ring.isAllocated, kept.away is]; rfl
    | some since => exact Option.isSome_iff_ne_none.mpr (kept.books since is).stored
  refine ⟨told, fun since is => ?_, fun empty => ?_,
    fun memory mode nonBlocking u slot away opened => ?_⟩
  · have booked := kept.books since is
    have room := Ring.used_add_free booked.wellFormed
    exact ⟨booked.fifo, Ring.length_contents _, by omega, booked.writePos, booked.readPos⟩
  · have away := lived.tenanted.vacant empty
    have none := Option.isSome_eq_false_iff.mp (told.symm.trans away)
    exact ⟨away, Option.isNone_iff_eq_none.mp none⟩
  · rw [Turn.openSession, away, if_neg Bool.false_ne_true] at opened
    split at opened
    · cases opened
    · rename_i ring granted
      obtain ⟨rfl, -⟩ := Prod.mk.inj opened
      have booked := Ring.booked_allocate kept.positive granted
      have empty : ring.contents = [] := by simpa using booked.fifo
      exact ⟨lifetime_concat t.account .allocated, empty⟩

/-- Three bytes offered to a ring that holds two, and one of them read. The last close takes the
other one away; the next open finds no memory, and the one after that begins anew. -/
theorem fifo_within_lifetime_reopened :
    ∃ t closed reopened : Turn,
      ShiftingLife 2 t ∧ ShiftingLife 2 closed ∧
      (∃ since, lifetime t.account = some since ∧ accepted since = [7, 8] ∧ returned since = [7] ∧
        accepted since = returned since ++ t.channel.ring.contents) ∧
      accepted closed.account = [7, 8] ∧ closed.channel.openSessions = 0 ∧
      closed.channel.ring.isAllocated = false ∧ lifetime closed.account = none ∧
      (closed.openSession ⟨2, by decide⟩ .readWrite false).2 = .error (.outOfMemory 3) ∧
      closed.openSession ⟨16, by decide⟩ .readWrite false = (reopened, .ok 1) ∧
      lifetime reopened.account = some [] ∧ reopened.channel.ring.contents = [] := by
  have created := ShiftingLife.created "pipe" 3 (by decide)
  have opened := created.operated ⟨16, by decide⟩ (.openSession .readWrite false) rfl
    (.of_idle _ fun d => by cases d <;> rfl)
  have written := opened.operated ⟨16, by decide⟩ (.call ⟨0, 0, .write [7, 8, 9]⟩) rfl
    (.of_idle _ fun d => by cases d <;> rfl)
  have read := written.operated ⟨16, by decide⟩ (.tryCall ⟨1, 0, .read 1⟩) rfl
    (.of_idle _ fun d => by cases d <;> rfl)
  have closed := read.operated ⟨16, by decide⟩ (.closeSession 0) rfl
    (.of_idle _ fun d => by cases d <;> rfl)
  have refused := closed.operated ⟨2, by decide⟩ (.openSession .readWrite false) rfl
    (.of_idle _ fun d => by cases d <;> rfl)
  obtain ⟨-, -, ended, reopen⟩ := fifo_within_lifetime refused
  obtain ⟨away, none⟩ := ended rfl
  obtain ⟨began, empty⟩ := reopen ⟨16, by decide⟩ .readWrite false _ 1 away rfl
  exact ⟨_, _, _, read, refused,
    ⟨_, rfl, by decide, by decide, ((fifo_within_lifetime read).2.1 _ rfl).1⟩,
    by decide, rfl, away, none, rfl, rfl, began, empty⟩

end BytePipe
