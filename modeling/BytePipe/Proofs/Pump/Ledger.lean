import BytePipe.Proofs.Pump.Staff
import BytePipe.Proofs.Ring.Books

/-!
Where the bytes of a pump are. Every byte that has been put into the ring is tagged with the worker
that sent it; without the tags, these are the bytes received followed by those in the ring. What is
tagged with one producer, followed by what it has still to send, is its payload, and the readers
are still owed what has not been received (`Ledger`).
-/
namespace BytePipe

/-- The bytes of one worker among bytes tagged with those who sent them. -/
def sentBy (i : Nat) (tagged : List (Nat × UInt8)) : List UInt8 :=
  (tagged.filter (·.1 == i)).map (·.2)

theorem sentBy_append (i : Nat) (tagged later : List (Nat × UInt8)) :
    sentBy i (tagged ++ later) = sentBy i tagged ++ sentBy i later := by
  simp [sentBy]

theorem sentBy_map (i j : Nat) (data : List UInt8) :
    sentBy i (data.map (Prod.mk j)) = if j = i then data else [] := by
  by_cases same : j = i
  · simp [sentBy, List.filter_map, Function.comp_def, same]
  · simp [sentBy, List.filter_map, Function.comp_def, same]

namespace Pump

theorem transfer_read (p : Pump) (i : Nat) (w : Worker) (n : Nat) :
    p.transfer i w (.read n) =
      { p with
        channel := { p.channel with ring := (p.channel.ring.take n).2 }
        received := p.received ++ (p.channel.ring.take n).1
        workers := p.workers.set i
          { w with work := w.work.after (.bytes (p.channel.ring.take n).1), phase := .notifying } } :=
  rfl

theorem transfer_write (p : Pump) (i : Nat) (w : Worker) (data : List UInt8) :
    p.transfer i w (.write data) =
      { p with
        channel := { p.channel with ring := (p.channel.ring.put data).2 }
        workers := p.workers.set i
          { w with work := w.work.after (.count (p.channel.ring.put data).1), phase := .notifying } } :=
  rfl

end Pump

/-- The bytes that a worker of a direction has still to move. -/
def Worker.remaining (d : Direction) (w : Worker) : Nat :=
  if w.work.direction = d then Pump.bytesToSend w.work else 0

/-- Sending part of a piece, or all of it, leaves the rest of the bytes. -/
theorem flatten_rest {piece : List UInt8} {n : Nat} (le : n ≤ piece.length)
    (later : List (List UInt8)) :
    (if n < piece.length then piece.drop n :: later else later).flatten
      = piece.drop n ++ later.flatten := by
  split
  · rw [List.flatten_cons]
  · rename_i whole
    rw [List.drop_eq_nil_of_le (by omega), List.nil_append]

namespace Pump

/-- The books of a pump that sends `payloads`, `total` bytes in all. -/
structure Ledger (payloads : List (List UInt8)) (total : Nat) (p : Pump) : Prop where
  enough : payloads.length ≤ p.workers.length
  consumers : ∀ i w owed, p.workers[i]? = some w → w.work = .consume owed → payloads.length ≤ i
  owed : p.received.toList.length + p.sum (Worker.remaining .reading) = total
  sent : p.received.toList.length + p.channel.ring.used + p.sum (Worker.remaining .writing) = total
  books : ∃ tagged : List (Nat × UInt8),
    p.channel.ring.Booked (tagged.map (·.2)) p.received.toList ∧
    (∀ b ∈ tagged, b.1 < payloads.length) ∧
    ∀ i w pieces, p.workers[i]? = some w → w.work = .produce pieces →
      payloads[i]? = some (sentBy i tagged ++ pieces.flatten)

namespace Ledger

variable {payloads : List (List UInt8)} {total : Nat} {memory : Memory} {p q : Pump} {i : Nat}
  {w old new : Worker}

/-- What a worker does without moving bytes leaves the books as they are. -/
theorem same (ledger : Ledger payloads total p) (found : p.workers[i]? = some old)
    (workers : q.workers = p.workers.set i new) (work : new.work = old.work)
    (ring : q.channel.ring = p.channel.ring) (received : q.received = p.received) :
    Ledger payloads total q := by
  have sums (d : Direction) : q.sum (Worker.remaining d) = p.sum (Worker.remaining d) := by
    have remaining : new.remaining d = old.remaining d := by
      rw [Worker.remaining, Worker.remaining, work]
    rw [sum, sum, workers, map_set_of_eq _ found remaining]
  have works (j : Nat) (v : Worker) (is : q.workers[j]? = some v) :
      ∃ v', p.workers[j]? = some v' ∧ v'.work = v.work := by
    rw [workers] at is
    rcases getElem?_set_cases is with ⟨rfl, rfl⟩ | ⟨-, before⟩
    · exact ⟨old, found, work.symm⟩
    · exact ⟨v, before, rfl⟩
  obtain ⟨tagged, booked, known, sources⟩ := ledger.books
  refine ⟨?_, fun j v owed is consumes => ?_, ?_, ?_, tagged, ?_, known, fun j v pieces is made => ?_⟩
  · rw [workers, List.length_set]
    exact ledger.enough
  · obtain ⟨v', before, kind⟩ := works j v is
    exact ledger.consumers j v' owed before (kind.trans consumes)
  · rw [received, sums]
    exact ledger.owed
  · rw [received, ring, sums]
    exact ledger.sent
  · rw [ring, received]
    exact booked
  · obtain ⟨v', before, kind⟩ := works j v is
    exact sources j v' pieces before (kind.trans made)

/-- Bytes that are read move from the ring to what has been received. -/
theorem took (ledger : Ledger payloads total p) {slot owed : Nat}
    (found : p.workers[i]? = some ⟨slot, .consume (owed + 1), .running⟩)
    (nonempty : p.channel.ring.isEmpty = false) :
    Ledger payloads total
      (p.transfer i ⟨slot, .consume (owed + 1), .running⟩ (.read (min p.readSize (owed + 1)))) := by
  obtain ⟨tagged, booked, known, sources⟩ := ledger.books
  have wellFormed := booked.wellFormed
  have used := Ring.used_take wellFormed nonempty (min p.readSize (owed + 1))
  have run := Ring.readableRun_le_used wellFormed nonempty
  have count := Ring.take_count (r := p.channel.ring) (min p.readSize (owed + 1))
  have taken := booked.take nonempty (min p.readSize (owed + 1))
  rw [transfer_read]
  generalize p.channel.ring.take (min p.readSize (owed + 1)) = result at *
  obtain ⟨data, ring⟩ := result
  have reads := sum_set (Worker.remaining .reading) found
    ⟨slot, .consume (owed + 1 - data.length), .notifying⟩
  have writes := sum_set (Worker.remaining .writing) found
    ⟨slot, .consume (owed + 1 - data.length), .notifying⟩
  have owes := ledger.owed
  have sent := ledger.sent
  have here := ledger.consumers i _ _ found rfl
  simp only [Worker.remaining, Work.direction, bytesToSend, if_true, reduceCtorEq, if_false]
    at reads writes used count
  refine ⟨?_, fun j v left is consumes => ?_, ?_, ?_, tagged, ?_, known,
    fun j v pieces is made => ?_⟩
  · rw [List.length_set]
    exact ledger.enough
  · rcases getElem?_set_cases is with ⟨rfl, -⟩ | ⟨-, before⟩
    · exact here
    · exact ledger.consumers j v left before consumes
  · simp only [sum, Work.after, Array.toList_appendList, List.length_append] at *
    omega
  · simp only [sum, Work.after, Array.toList_appendList, List.length_append] at *
    omega
  · simpa using taken
  · rcases getElem?_set_cases is with ⟨rfl, rfl⟩ | ⟨-, before⟩
    · cases made
    · exact sources j v pieces before made

/-- Bytes that are written move from their producer to the ring and are tagged with it. -/
theorem put (ledger : Ledger payloads total p) {slot : Nat} {piece : List UInt8}
    {later : List (List UInt8)}
    (found : p.workers[i]? = some ⟨slot, .produce (piece :: later), .running⟩) :
    Ledger payloads total
      (p.transfer i ⟨slot, .produce (piece :: later), .running⟩ (.write piece)) := by
  obtain ⟨tagged, booked, known, sources⟩ := ledger.books
  have used := Ring.used_put booked.wellFormed booked.stored piece
  have inside : (p.channel.ring.put piece).1 ≤ piece.length := Nat.min_le_left _ _
  have entered := booked.put piece
  rw [transfer_write]
  generalize p.channel.ring.put piece = result at *
  obtain ⟨n, ring⟩ := result
  have reads := sum_set (Worker.remaining .reading) found
    ⟨slot, .produce (if n < piece.length then piece.drop n :: later else later), .notifying⟩
  have writes := sum_set (Worker.remaining .writing) found
    ⟨slot, .produce (if n < piece.length then piece.drop n :: later else later), .notifying⟩
  have rest := flatten_rest inside later
  have split : piece = piece.take n ++ piece.drop n := (List.take_append_drop n piece).symm
  have owes := ledger.owed
  have sent := ledger.sent
  have here := sources i _ _ found rfl
  simp only [Worker.remaining, Work.direction, bytesToSend, if_true, reduceCtorEq, if_false,
    rest] at reads writes used
  refine ⟨?_, fun j v left is consumes => ?_, ?_, ?_, tagged ++ (piece.take n).map (Prod.mk i), ?_,
    fun b listed => ?_, fun j v pieces is made => ?_⟩
  · rw [List.length_set]
    exact ledger.enough
  · rcases getElem?_set_cases is with ⟨rfl, rfl⟩ | ⟨-, before⟩
    · cases consumes
    · exact ledger.consumers j v left before consumes
  · simp only [sum, Work.after] at *
    omega
  · simp only [sum, Work.after, List.flatten_cons, List.length_append, List.length_drop] at *
    omega
  · simpa [Function.comp_def] using entered
  · rcases List.mem_append.mp listed with before | now
    · exact known b before
    · obtain ⟨byte, -, rfl⟩ := List.mem_map.mp now
      exact (List.getElem?_eq_some_iff.mp here).1
  · rw [sentBy_append, sentBy_map]
    rcases getElem?_set_cases is with ⟨rfl, rfl⟩ | ⟨ne, before⟩
    · obtain rfl := Work.produce.inj made
      rw [if_pos rfl, rest, here, List.append_assoc, ← List.append_assoc (piece.take n), ← split]
      rfl
    · rw [if_neg ne, List.append_nil]
      exact sources j v pieces before made

/-- No step loses a byte, makes one up or puts one in another's place. -/
theorem step (ledger : Ledger payloads total p) (staffed : Staffed p)
    (stepped : Stepped memory p q) : Ledger payloads total q := by
  cases stepped with
  | took found nonempty => exact ledger.took found nonempty
  | put found room => exact ledger.put found
  | slept found running asks unready =>
    exact ledger.same found rfl rfl (Channel.ring_setQueue _ _ _) rfl
  | told found notifying nobody => exact ledger.same found rfl rfl rfl rfl
  | @woke i w c found notifying asleep =>
    have told := ledger.same (q := p.setWorker i { w with phase := .running }) found rfl rfl rfl rfl
    obtain ⟨-, v, is, -, -⟩ := (staffed.told found notifying).asleep _ c asleep
    exact told.same is (Staffed.workers_wake _ _ is) rfl (Channel.ring_setQueue _ _ _) rfl
  | @left i w found running done =>
    have ring : (p.channel.perform memory (.closeSession w.slot)).1.ring = p.channel.ring :=
      staffed.ring_left found running
    exact ledger.same found rfl rfl ring rfl

end Ledger

end Pump

end BytePipe
