import BytePipe.Copy
import BytePipe.Proofs.Channel.Failures

/-!
The device of a copy: a channel on which nobody ever sleeps, with a reader's session and a writer's,
both non-blocking. The writer's is open until the feeder has finished; the reader's keeps the
storage even then (`Copy.Device.close`). A call on the device moves bytes at once, or would block
and changes nothing (`Channel.perform_call_of_nonBlocking`).
-/
namespace BytePipe

namespace Turn

variable {t : Turn}

/-- Where nobody sleeps a transfer wakes nobody. -/
theorem idle_transfer (idle : ∀ d, t.channel.sleepers d = []) (c : Call) :
    (t.transfer c).1.woken = t.woken ∧ ∀ d, (t.transfer c).1.channel.sleepers d = [] := by
  have alike := alike_transfer t c
  have served (d : Direction) : (t.served c).channel.sleepers d = [] :=
    (sleepers_served t c d).trans (idle d)
  constructor
  · rw [alike.woken, moving, woken_wakeOne, served]
    exact List.append_nil _
  · intro d
    rw [alike.sleepers, moving, sleepers_wakeOne]
    split
    · rw [served]
      rfl
    · exact served d

end Turn

/-- A non-blocking call that has something to move transfers at once or would block, where nobody
sleeps. -/
theorem Channel.perform_call_of_nonBlocking {ch : Channel} {c : Call} {s : Session}
    (memory : Memory) (idle : ∀ d, ch.sleepers d = []) (isOpen : ch.openSession? c.slot = some s)
    (impatient : s.nonBlocking = true) (permits : s.mode.permits c.direction = true)
    (nontrivial : c.request.isTrivial = false) :
    (ch.ready c.direction = true ∧ ch.Fits c ∧
      ch.perform memory (.call c) = (((Turn.start ch).transfer c).1.channel,
        .transferred (ch.ring.serve c.request).1, ((Turn.start ch).transfer c).1.account)) ∨
    (ch.ready c.direction = false ∧ ch.perform memory (.call c)
      = (ch, .failed .wouldBlock, [.ended c (.error .wouldBlock)])) := by
  have called : (Operation.call c).call? = some c := rfl
  obtain ⟨mayBlock, applied, blocking⟩ := Turn.apply_of_call? memory (.start ch) called
  have never : mayBlock ≠ true := by
    intro blocks
    obtain ⟨-, patient⟩ := blocking blocks
    rw [Turn.start, isOpen, Option.any_some, impatient] at patient
    contradiction
  have verdict := Turn.verdict_arrive (.start ch) c mayBlock
  generalize (Turn.start ch).arrive c mayBlock = result at applied verdict
  cases verdict with
  | refused closed => exact absurd (isOpen.symm.trans closed) (Option.some_ne_none s)
  | denied other found forbidden =>
    cases isOpen.symm.trans found
    rw [permits] at forbidden
    contradiction
  | answered other found permitted trivial =>
    rw [nontrivial] at trivial
    contradiction
  | moved fits ready =>
    refine .inl ⟨ready, fits, ?_⟩
    have settled := (Turn.idle_transfer (t := .start ch) idle c).1
    rw [perform_of_settled (by rw [applied]; exact settled), applied, Turn.progress_transfer_eq]
    rfl
  | turnedAway fits unready impatient =>
    refine .inr ⟨unready, ?_⟩
    rw [perform_of_settled (by rw [applied]; rfl), applied]
    rfl
  | cutShort fits unready blocks pending => exact absurd blocks never
  | slept fits unready blocks silent => exact absurd blocks never

namespace Copy

/-- The device while bytes are copied; `fed` tells whether the feeder has finished. -/
structure Device (fed : Bool) (ch : Channel) : Prop where
  counted : ch.Counted
  sessions : ch.sessions = [⟨.readOnly, true, false, true⟩, ⟨.writeOnly, true, false, !fed⟩]
  idle : ∀ d, ch.sleepers d = []
  roomy : 2 ≤ ch.ring.capacity

namespace Device

variable {memory : Memory} {fed : Bool} {ch : Channel} {c : Call}

theorem reader (device : Device fed ch) :
    ch.openSession? readerSlot = some ⟨.readOnly, true, false, true⟩ := by
  rw [Channel.openSession?, device.sessions]
  rfl

theorem writer (device : Device false ch) :
    ch.openSession? writerSlot = some ⟨.writeOnly, true, false, true⟩ := by
  rw [Channel.openSession?, device.sessions]
  rfl

theorem openUses_lt (device : Device fed ch) : ch.openUses < 2 ^ 32 := by
  rw [Channel.openUses, Channel.openFor, Channel.openFor, device.sessions]
  cases fed <;> decide

theorem stored (device : Device fed ch) : ch.ring.storage ≠ none := by
  have isOpen := Channel.openSessions_pos (Channel.roster_of_openSession? device.reader)
  exact Option.isSome_iff_ne_none.mp (device.counted.storage.mpr isOpen)

/-- The device as the two ends are opened, with storage for it. -/
theorem opened (memory : Memory) (name : String) {size : Nat} (roomy : 2 ≤ size)
    (granted : memory.grants size = true) :
    ∃ first ch, Channel.perform memory (.named name size) (.openSession .readOnly true)
        = (first, .opened readerSlot, [.allocated]) ∧
      first.perform memory (.openSession .writeOnly true) = (ch, .opened writerSlot, []) ∧
      Device false ch ∧ ch.ring.contents = [] := by
  have stored : (Ring.empty size).allocate memory = .ok _ := if_pos granted
  have wellFormed := Ring.wellFormed_allocate (r := .empty size) (by change 0 < size; omega) stored
  have reading : (Channel.named name size).perform memory (.openSession .readOnly true) = _ :=
    Channel.perform_openSession_of_granted .readOnly true rfl stored
  refine ⟨_, _, reading, Channel.perform_openSession_of_allocated memory .writeOnly true rfl,
    ⟨?_, rfl, fun d => by cases d <;> rfl, roomy⟩, ?_⟩
  · apply Turn.counted_join
    · exact fun d => by cases d <;> rfl
    · rfl
    · exact wellFormed
    · change 2 < 2 ^ 32
      decide
  · change (List.range ((0 + size - 0) % size)).map _ = []
    rw [Nat.zero_add, Nat.sub_zero, Nat.mod_self]
    rfl

theorem transfer (device : Device fed ch) (fits : ch.Fits c) (ready : ch.ready c.direction = true) :
    Device fed ((Turn.start ch).transfer c).1.channel where
  counted := Turn.counted_transfer (t := .start ch) device.counted fits ready
  sessions := (Turn.sessions_transfer (.start ch) c).trans device.sessions
  idle := (Turn.idle_transfer (t := .start ch) device.idle c).2
  roomy := by
    rw [Turn.ring_transfer, Ring.capacity_serve]
    exact device.roomy

/-- A write puts in the beginning of its data, or would block and there is something to read. -/
theorem write (device : Device false ch) (memory : Memory) {data : List UInt8} (some : data ≠ []) :
    (∃ n after account, 0 < n ∧ ch.perform memory (.call ⟨0, writerSlot, .write data⟩)
        = (after, .transferred (.count n), account) ∧
      Device false after ∧ after.ring.contents = ch.ring.contents ++ data.take n) ∨
    (ch.ring.contents ≠ [] ∧ ∃ account, ch.perform memory (.call ⟨0, writerSlot, .write data⟩)
      = (ch, .failed .wouldBlock, account)) := by
  have wellFormed := device.counted.wellFormed
  have nontrivial : (Request.write data).isTrivial = false := by
    simpa [Request.isTrivial] using some
  rcases Channel.perform_call_of_nonBlocking (c := ⟨0, writerSlot, .write data⟩) memory device.idle
    device.writer rfl rfl nontrivial with ⟨ready, fits, done⟩ | ⟨unready, blocked⟩
  · obtain ⟨count, -⟩ := Ring.put_moves wellFormed device.stored (of_decide_eq_true ready) some
    refine .inl ⟨_, _, _, count, done, device.transfer fits ready, ?_⟩
    rw [Turn.ring_transfer]
    exact Ring.contents_put wellFormed device.stored data
  · refine .inr ⟨?_, _, blocked⟩
    have full : ¬ 0 < ch.ring.free := of_decide_eq_false unready
    have room := Ring.used_add_free wellFormed
    have roomy := device.roomy
    rw [← List.length_pos_iff, Ring.length_contents]
    omega

/-- A read takes out the beginning of what is there, or would block as there is nothing. -/
theorem read (device : Device fed ch) (memory : Memory) :
    (∃ data after account, data ≠ [] ∧ ch.perform memory (.call ⟨0, readerSlot, .read chunkSize⟩)
        = (after, .transferred (.bytes data), account) ∧
      Device fed after ∧ ch.ring.contents = data ++ after.ring.contents) ∨
    (ch.ring.contents = [] ∧ ∃ account, ch.perform memory (.call ⟨0, readerSlot, .read chunkSize⟩)
      = (ch, .failed .wouldBlock, account)) := by
  have wellFormed := device.counted.wellFormed
  rcases Channel.perform_call_of_nonBlocking (c := ⟨0, readerSlot, .read chunkSize⟩) memory
    device.idle device.reader rfl rfl rfl with ⟨ready, fits, done⟩ | ⟨unready, blocked⟩
  · have nonempty : ch.ring.isEmpty = false := Channel.isEmpty_of_ready ready
    obtain ⟨some, -⟩ := Ring.take_moves wellFormed nonempty (n := chunkSize) (by decide)
    refine .inl ⟨_, _, _, List.length_pos_iff.mp some, done, device.transfer fits ready, ?_⟩
    rw [Turn.ring_transfer]
    exact Ring.contents_take wellFormed nonempty chunkSize
  · have empty : ch.ring.isEmpty = true := Channel.isEmpty_of_ready unready
    exact .inr ⟨(Ring.contents_eq_nil_iff wellFormed).mpr empty, _, blocked⟩

/-- The end of the writer's session leaves the ring as it is. -/
theorem close (device : Device false ch) (memory : Memory) :
    Device true (ch.perform memory (.closeSession writerSlot)).1 ∧
      (ch.perform memory (.closeSession writerSlot)).1.ring = ch.ring := by
  have awake : ch.isWaiting writerSlot = false := by
    have reading := device.idle .reading
    have writing := device.idle .writing
    simp only [Channel.sleepers, Channel.queue] at reading writing
    rw [Channel.isWaiting, reading, writing]
    rfl
  have several : 1 < ch.openSessions := by
    rw [Channel.openSessions, device.sessions]
    decide
  obtain ⟨counted, parted, roster, sleepers⟩ :=
    device.counted.perform_ends device.openUses_lt memory .close device.writer awake
  have ring := parted.kept several
  refine ⟨⟨counted, ?_, fun d => (sleepers d).trans (device.idle d), ring ▸ device.roomy⟩, ring⟩
  have endable : (Turn.start ch).endable? writerSlot = some ⟨.writeOnly, true, false, true⟩ := by
    rw [Turn.endable?, Turn.start, awake]
    exact device.writer
  rw [Channel.perform_ends .close, endable]
  simp only [Turn.sessions_releaseCounts, Turn.markClosed, Turn.channel_mapChannel, Turn.start,
    device.sessions]
  rfl

end Device

end Copy

end BytePipe
