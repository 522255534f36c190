import BytePipe.Proofs.Channel.Moves
import BytePipe.Proofs.Ring.Spans

/-!
What calls get of a ring. Every successful call moves exactly one span: what it asks for, what is
there, and what lies before the end of the storage, whichever is least. So all that is buffered is
read by one call or by two, and all the room is filled by one call or by two; the calls after that
find nothing to move (`calls_move_one_span`). Calls that are repeated with nothing moved in between
come down to requests made of the ring alone (`Turn.Repeated.onRing`), so what they add up to is
settled there.
-/
namespace BytePipe

/-- What a call comes to that never sleeps and finds nothing to move. -/
def Request.idle (request : Request) : Outcome :=
  if request.isTrivial then .transferred request.trivialAnswer else .failed .wouldBlock

/-- How many bytes an outcome says have been moved. -/
def Outcome.moved : Outcome → Nat
  | .transferred moved => moved.size
  | _ => 0

namespace Ring

variable {r after : Ring} {n : Nat} {data : List UInt8} {request : Request}
  {tries : List (Request × Outcome)}

/-- The span of a request has been moved, at least a byte: a read takes it off the front of what is
buffered, a write adds it at the end. -/
def MovesSpan (before after : Ring) : Request → Transferred → Prop
  | .read n, .bytes bytes =>
    bytes.length = min n (min before.used (before.capacity - before.readPos)) ∧
      1 ≤ bytes.length ∧ before.contents = bytes ++ after.contents
  | .write data, .count written =>
    written = min data.length (min before.free (before.capacity - before.writePos)) ∧
      1 ≤ written ∧ after.contents = before.contents ++ data.take written
  | _, _ => False

theorem movesSpan_take (wf : r.WellFormed) (ne : r.isEmpty = false) (some : 1 ≤ n) :
    r.MovesSpan (r.take n).2 (.read n) (.bytes (r.take n).1) := by
  constructor
  · rw [take_count, readableRun_eq wf ne]
  · exact ⟨(take_moves wf ne some).1, contents_take wf ne n⟩

theorem movesSpan_put (wf : r.WellFormed) (stored : r.storage ≠ none) (free : 0 < r.free)
    (some : data ≠ []) : r.MovesSpan (r.put data).2 (.write data) (.count (r.put data).1) := by
  constructor
  · rw [put_count, room_eq wf]
  · exact ⟨(put_moves wf stored free some).1, contents_put wf stored data⟩

/-- What calls come to that each read as much as this ring holds: they take its pieces in order, and
those after the last piece find the ring empty. -/
structure Drains (before : Ring) (tries : List (Request × Outcome)) (after : Ring) : Prop where
  outcomes : tries.map (·.2)
    = (before.readPieces.take tries.length).map (.transferred ∘ .bytes)
      ++ (tries.drop before.readPieces.length).map (·.1.idle)
  emptied : before.readPieces.length ≤ tries.length → after.isEmpty = true

/-- What calls come to that write data, each as much as is left of it: they fill the pieces of the
room in order, and those after the last piece find the ring full. -/
structure Fills (before : Ring) (data : List UInt8) (tries : List (Request × Outcome))
    (after : Ring) : Prop where
  outcomes : tries.map (·.2)
    = (before.writePieces.take tries.length).map (.transferred ∘ .count)
      ++ (tries.drop before.writePieces.length).map (·.1.idle)
  filled : before.writePieces.length ≤ tries.length →
    after.free = 0 ∧ after.contents = before.contents ++ data.take before.free

/-- Requests are made of a ring one after the other, none of which waits: each is served, or finds
nothing to move. -/
inductive Tried : Ring → List (Request × Outcome) → Ring → Prop where
  | done {r : Ring} (wf : r.WellFormed) : Tried r [] r
  | taken {r after : Ring} {n : Nat} {tries : List (Request × Outcome)} (wf : r.WellFormed)
    (ne : r.isEmpty = false) (rest : Tried (r.take n).2 tries after) :
    Tried r ((.read n, .transferred (.bytes (r.take n).1)) :: tries) after
  | put {r after : Ring} {data : List UInt8} {tries : List (Request × Outcome)}
    (wf : r.WellFormed) (stored : r.storage ≠ none) (free : 0 < r.free)
    (rest : Tried (r.put data).2 tries after) :
    Tried r ((.write data, .transferred (.count (r.put data).1)) :: tries) after
  | unread {r after : Ring} {n : Nat} {tries : List (Request × Outcome)} (wf : r.WellFormed)
    (none : n = 0 ∨ r.isEmpty = true) (rest : Tried r tries after) :
    Tried r ((.read n, (Request.read n).idle) :: tries) after
  | unwritten {r after : Ring} {data : List UInt8} {tries : List (Request × Outcome)}
    (none : data = [] ∨ r.free = 0) (rest : Tried r tries after) :
    Tried r ((.write data, (Request.write data).idle) :: tries) after

theorem Drains.nil (wf : r.WellFormed) : Drains r [] r where
  outcomes := by simp
  emptied none := by
    rw [isEmpty_iff_used wf, ← readPieces_eq_nil_iff]
    exact List.eq_nil_of_length_eq_zero (Nat.le_zero.mp none)

theorem Drains.take (wf : r.WellFormed) (ne : r.isEmpty = false) (long : r.used ≤ n)
    (rest : Drains (r.take n).2 tries after) :
    Drains r ((request, .transferred (.bytes (r.take n).1)) :: tries) after := by
  have pieces := readPieces_take wf ne long
  constructor
  · simpa [pieces] using rest.outcomes
  · simpa [pieces] using rest.emptied

theorem Drains.idle (wf : r.WellFormed) (empty : r.isEmpty = true)
    (rest : Drains r tries after) : Drains r ((request, request.idle) :: tries) after := by
  have none := readPieces_eq_nil_iff.mpr ((isEmpty_iff_used wf).mp empty)
  obtain ⟨outcomes, emptied⟩ := rest
  rw [none] at outcomes emptied
  constructor
  · simpa [none] using outcomes
  · exact fun _ => emptied (Nat.zero_le _)

theorem Fills.nil (r : Ring) (data : List UInt8) : Fills r data [] r where
  outcomes := by simp
  filled none := by
    have full : r.free = 0 :=
      writePieces_eq_nil_iff.mp (List.eq_nil_of_length_eq_zero (Nat.le_zero.mp none))
    simp [full]

theorem Fills.put (wf : r.WellFormed) (stored : r.storage ≠ none) (free : 0 < r.free)
    (long : r.free ≤ data.length)
    (rest : Fills (r.put data).2 (data.drop (r.put data).1) tries after) :
    Fills r data ((request, .transferred (.count (r.put data).1)) :: tries) after := by
  have pieces := writePieces_put wf stored free long
  have left := free_put wf stored data
  constructor
  · simpa [pieces] using rest.outcomes
  · intro enough
    obtain ⟨full, all⟩ := rest.filled (by simpa [pieces] using enough)
    rw [contents_put wf stored, List.append_assoc] at all
    rw [← left, Nat.add_comm, List.take_add]
    exact ⟨full, all⟩

theorem Fills.idle (full : r.free = 0) (rest : Fills r data tries after) :
    Fills r data ((request, request.idle) :: tries) after := by
  have none := writePieces_eq_nil_iff.mpr full
  obtain ⟨outcomes, filled⟩ := rest
  rw [none] at outcomes filled
  constructor
  · simpa [none] using outcomes
  · exact fun _ => filled (Nat.zero_le _)

end Ring

/-- A call that is served moves the span of its request. -/
theorem Channel.movesSpan_serve {ch : Channel} {c : Call} (wf : ch.ring.WellFormed)
    (stored : ch.ring.storage ≠ none) (nontrivial : c.request.isTrivial = false)
    (ready : ch.ready c.direction = true) :
    ch.ring.MovesSpan (ch.ring.serve c.request).2 c.request (ch.ring.serve c.request).1 := by
  obtain ⟨ticket, slot, request⟩ := c
  cases request with
  | read n =>
    have some : n ≠ 0 := by simpa [Request.isTrivial] using nontrivial
    exact Ring.movesSpan_take wf (Channel.isEmpty_of_ready ready) (Nat.pos_of_ne_zero some)
  | write data =>
    have some : data ≠ [] := by simpa [Request.isTrivial] using nontrivial
    exact Ring.movesSpan_put wf stored (of_decide_eq_true ready) some

namespace Turn

/-- Calls that never sleep are made one after the other, through open sessions that permit them,
each with its outcome. Whatever else happens before, between and after them moves no byte and leaves
the storage where it is. -/
inductive Repeated (memory : Memory) : Turn → List (Request × Outcome) → Turn → Prop where
  | done (t : Turn) : Repeated memory t [] t
  | meanwhile {t u v : Turn} {tries : List (Request × Outcome)} {told : List Notice}
    (next : Next memory t u) (account : u.account = t.account ++ told)
    (still : ∀ n ∈ told, n.mover? = none) (kept : .released ∉ told)
    (rest : Repeated memory u tries v) : Repeated memory t tries v
  | tried {t v : Turn} {tries : List (Request × Outcome)} (c : Call) (s : Session)
    (settled : t.woken = []) (fresh : (Operation.tryCall c).Fresh t.channel)
    (found : t.channel.openSession? c.slot = some s)
    (permits : s.mode.permits c.direction = true)
    (rest : Repeated memory ((Operation.tryCall c).apply memory t).1 tries v) :
    Repeated memory t ((c.request, ((Operation.tryCall c).apply memory t).2) :: tries) v

/-- Each write offers what the ones before it have left of the data. -/
def Sends : List UInt8 → List (Request × Outcome) → Prop
  | _, [] => True
  | data, (request, outcome) :: rest =>
    request = .write data ∧ Sends (data.drop outcome.moved) rest

end Turn

namespace Ring

variable {r after : Ring} {data : List UInt8} {tries : List (Request × Outcome)}

/-- Calls that each read as much as the ring held at first. -/
theorem Tried.drains (tried : Tried r tries after)
    (long : ∀ tried ∈ tries, ∃ n, tried.1 = .read n ∧ r.used ≤ n) : Drains r tries after := by
  induction tried with
  | done wf => exact .nil wf
  | @taken r after n tries wf ne rest ih =>
    obtain ⟨m, same, all⟩ := long _ List.mem_cons_self
    obtain rfl := Request.read.inj same
    have fewer := used_take wf ne n
    refine .take wf ne all (ih fun other member => ?_)
    obtain ⟨m, reads, enough⟩ := long other (List.mem_cons_of_mem _ member)
    exact ⟨m, reads, by omega⟩
  | @unread r after n tries wf none rest ih =>
    obtain ⟨m, same, all⟩ := long _ List.mem_cons_self
    obtain rfl := Request.read.inj same
    have empty : r.isEmpty = true := by
      rw [isEmpty_iff_used wf] at none ⊢
      omega
    exact .idle wf empty (ih fun other member => long other (List.mem_cons_of_mem _ member))
  | put wf stored free rest ih =>
    obtain ⟨m, reads, -⟩ := long _ List.mem_cons_self
    contradiction
  | unwritten none rest ih =>
    obtain ⟨m, reads, -⟩ := long _ List.mem_cons_self
    contradiction

/-- Calls that each write what is left of data, as much at first as the room. -/
theorem Tried.fills (tried : Tried r tries after) (sends : Turn.Sends data tries)
    (long : r.free ≤ data.length) : Fills r data tries after := by
  induction tried generalizing data with
  | done wf => exact .nil _ data
  | @put r after other tries wf stored free rest ih =>
    obtain ⟨same, sends⟩ := sends
    obtain rfl := Request.write.inj same
    have left := free_put wf stored other
    refine .put wf stored free long (ih sends ?_)
    rw [List.length_drop]
    omega
  | @unwritten r after other tries none rest ih =>
    obtain ⟨same, sends⟩ := sends
    obtain rfl := Request.write.inj same
    have full : r.free = 0 := by
      rcases none with none | full
      · simpa [none] using long
      · exact full
    have unmoved : (Request.write other).idle.moved = 0 := by
      unfold Request.idle
      split <;> rfl
    rw [unmoved, List.drop_zero] at sends
    exact .idle full (ih sends long)
  | taken wf ne rest ih =>
    obtain ⟨writes, -⟩ := sends
    contradiction
  | unread wf none rest ih =>
    obtain ⟨writes, -⟩ := sends
    contradiction

end Ring

namespace Turn

variable {memory : Memory} {peak : Nat} {t v : Turn} {c : Call} {tries : List (Request × Outcome)}

/-- A call that never sleeps, through a session that permits it, is served from the ring, or finds
nothing to move. -/
theorem tryCall_cases (memory : Memory) (s : Session)
    (found : t.channel.openSession? c.slot = some s)
    (permits : s.mode.permits c.direction = true) :
    (c.request.isTrivial = false ∧ t.channel.ready c.direction = true ∧
      ((Operation.tryCall c).apply memory t).2
        = .transferred (t.channel.ring.serve c.request).1 ∧
      ((Operation.tryCall c).apply memory t).1.channel.ring
        = (t.channel.ring.serve c.request).2) ∨
    ((c.request.isTrivial = true ∨ t.channel.ready c.direction = false) ∧
      ((Operation.tryCall c).apply memory t).2 = c.request.idle ∧
      ((Operation.tryCall c).apply memory t).1.channel = t.channel) := by
  simp only [Operation.apply, tryCall, arrive, found, permits, Request.idle]
  cases trivial : c.request.isTrivial with
  | true => exact .inr ⟨.inl rfl, rfl, rfl⟩
  | false =>
    cases ready : t.channel.ready c.direction with
    | true =>
      have outcome := congrArg Outcome.ofProgress (progress_transfer_eq t c)
      exact .inl ⟨rfl, rfl, outcome, ring_transfer t c⟩
    | false => exact .inr ⟨.inr rfl, rfl, rfl⟩

/-- The calls are requests made of the ring, which nothing else changes. -/
theorem Repeated.onRing (repeated : Repeated memory t tries v) (life : Life memory peak t)
    (allocated : t.channel.ring.isAllocated = true) :
    t.channel.ring.Tried tries v.channel.ring := by
  induction repeated generalizing peak with
  | done t =>
    obtain ⟨wf, -⟩ := life.wellFormed_of_isAllocated allocated
    exact .done wf
  | @meanwhile t u v tries told next account still kept rest ih =>
    obtain ⟨most, later, -⟩ := next.life life
    have same := (next.moves life account).still allocated still kept
    rw [← same] at allocated ⊢
    exact ih later allocated
  | @tried t v tries c s settled fresh found permits rest ih =>
    obtain ⟨wf, stored⟩ := life.wellFormed_of_isAllocated allocated
    have later := life.operated (.tryCall c) settled fresh
    rcases tryCall_cases memory s found permits with
      ⟨nontrivial, ready, outcome, ring⟩ | ⟨why, outcome, channel⟩
    · have onward := ih later (by rw [ring]; exact (Ring.isAllocated_serve _ _).trans allocated)
      rw [ring] at onward
      rw [outcome]
      obtain ⟨ticket, slot, request⟩ := c
      cases request with
      | read n => exact .taken wf (Channel.isEmpty_of_ready ready) onward
      | write data => exact .put wf stored (of_decide_eq_true ready) onward
    · have onward := ih later (by rw [channel]; exact allocated)
      rw [channel] at onward
      rw [outcome]
      obtain ⟨ticket, slot, request⟩ := c
      cases request with
      | read n =>
        refine .unread wf (why.imp (fun trivial => ?_) Channel.isEmpty_of_ready) onward
        simpa [Request.isTrivial] using trivial
      | write data =>
        refine .unwritten (why.imp (fun trivial => ?_) fun unready => ?_) onward
        · simpa [Request.isTrivial] using trivial
        · exact Nat.eq_zero_of_not_pos (of_decide_eq_false unready)

end Turn

open Turn in
/-- As long as a channel has its storage, every step that tells of a successful call has moved the
span of its request, at least a byte. Calls that never sleep and ask for all that is buffered read
it piece by piece, in one piece when it does not cross the end of the storage and in two otherwise;
calls that offer at least as much as there is room for fill the room in the same way. After the
last piece the ring is empty, or full. -/
theorem calls_move_one_span {memory : Memory} {peak : Nat} {t : Turn} (life : Life memory peak t)
    (allocated : t.channel.ring.isAllocated = true) :
    (∀ u told c moved, Next memory t u → u.account = t.account ++ told →
      .ended c (.ok moved) ∈ told → c.request.isTrivial = false →
        t.channel.ring.MovesSpan u.channel.ring c.request moved) ∧
    (∀ tries v, Repeated memory t tries v →
      (∀ tried ∈ tries, ∃ n, tried.1 = .read n ∧ t.channel.ring.used ≤ n) →
        t.channel.ring.Drains tries v.channel.ring) ∧
    (∀ data tries v, Repeated memory t tries v → Sends data tries →
      t.channel.ring.free ≤ data.length →
        t.channel.ring.Fills data tries v.channel.ring) := by
  refine ⟨fun u told c moved next account tells nontrivial => ?_,
    fun tries v repeated long => (repeated.onRing life allocated).drains long,
    fun data tries v repeated sends long => (repeated.onRing life allocated).fills sends long⟩
  obtain ⟨wf, stored⟩ := life.wellFormed_of_isAllocated allocated
  obtain ⟨-, ready, served⟩ := (next.moves life account).served c moved tells nontrivial
  have moves := Channel.movesSpan_serve wf stored nontrivial ready
  rwa [served] at moves

open Turn in
/-- Three bytes of four lie across the end of the storage: two reads take them and the third would
block, and a write of one more byte finds no room. -/
theorem calls_move_one_span_across_the_end :
    ∃ t u v : Turn, Life ⟨16, by decide⟩ 2 t ∧ t.channel.ring.isAllocated = true ∧
      Next ⟨16, by decide⟩ t u ∧ t.channel.ring.MovesSpan u.channel.ring (.read 1) (.bytes [3]) ∧
      Repeated ⟨16, by decide⟩ t
        [(.read 3, .transferred (.bytes [3, 4])), (.read 9, .transferred (.bytes [5])),
          (.read 3, .failed .wouldBlock)] v ∧
      t.channel.ring.readPieces = [[3, 4], [5]] ∧ v.channel.ring.isEmpty = true ∧
      t.channel.ring.Fills [6] [(.write [6], .failed .wouldBlock)] t.channel.ring := by
  have idle (d : Direction) : (Channel.named "pipe" 4).sleepers d = [] := by cases d <;> rfl
  have created := @Life.created ⟨16, by decide⟩ "pipe" 4 (by decide)
  have opened := created.operated (.openSession .readWrite false) rfl (.of_idle _ idle)
  have filled := opened.operated (.call ⟨0, 0, .write [1, 2, 3]⟩) rfl (.of_idle _ idle)
  have drained := filled.operated (.call ⟨1, 0, .read 2⟩) rfl (.of_idle _ idle)
  have onward := drained.operated (.call ⟨2, 0, .write [4, 5]⟩) rfl (.of_idle _ idle)
  have life := onward.operated (.call ⟨3, 0, .write [5]⟩) rfl (.of_idle _ idle)
  obtain ⟨moves, drains, fills⟩ := calls_move_one_span life rfl
  have long : ∀ tried ∈ [(Request.read 3, Outcome.transferred (.bytes [3, 4])),
      (.read 9, .transferred (.bytes [5])), (.read 3, .failed .wouldBlock)],
      ∃ n, tried.1 = .read n ∧ 3 ≤ n := by simp
  have reads := drains
    [(.read 3, .transferred (.bytes [3, 4])), (.read 9, .transferred (.bytes [5])),
      (.read 3, .failed .wouldBlock)] _
    (.tried ⟨4, 0, .read 3⟩ _ rfl (.of_idle _ idle) rfl rfl
      (.tried ⟨5, 0, .read 9⟩ _ rfl (.of_idle _ idle) rfl rfl
        (.tried ⟨6, 0, .read 3⟩ _ rfl (.of_idle _ idle) rfl rfl (.done _))))
    long
  have full := fills [6] [(.write [6], .failed .wouldBlock)] _
    (.tried ⟨4, 0, .write [6]⟩ _ rfl (.of_idle _ idle) rfl rfl (.done _)) ⟨rfl, trivial⟩ (by decide)
  refine ⟨_, _, _, life, rfl, .operated (.tryCall ⟨4, 0, .read 1⟩) rfl (.of_idle _ idle), ?_,
    .tried ⟨4, 0, .read 3⟩ _ rfl (.of_idle _ idle) rfl rfl
      (.tried ⟨5, 0, .read 9⟩ _ rfl (.of_idle _ idle) rfl rfl
        (.tried ⟨6, 0, .read 3⟩ _ rfl (.of_idle _ idle) rfl rfl (.done _))), rfl, ?_, ?_⟩
  · exact moves _ [.ended ⟨4, 0, .read 1⟩ (.ok (.bytes [3]))] ⟨4, 0, .read 1⟩ _
      (.operated (.tryCall ⟨4, 0, .read 1⟩) rfl (.of_idle _ idle)) rfl List.mem_cons_self rfl
  · exact reads.emptied (by decide)
  · exact full

end BytePipe
