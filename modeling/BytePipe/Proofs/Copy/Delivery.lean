import BytePipe.Proofs.Copy.Device

/-!
A copy delivers its input exactly. Whatever the feeder has read and the drainer has not written yet
is on its way: in the ring, or left of a chunk (`Copy.Sound.conserved`). The drainer has looked
whether the feeder has finished before it reads, so when it finds the device empty after that,
nothing can follow any more (`Copy.Sound.sampled`). One lemma for each step shows that it keeps
this, and so every schedule does (`Copy.Schedule.sound`).
-/
namespace BytePipe

namespace Feeder

def isFinished : Feeder → Bool
  | .finished _ => true
  | _ => false

/-- What is left of the chunk that was read last. -/
def unsent : Feeder → List UInt8
  | .sending rest => rest
  | _ => []

/-- The feeder with this much of a chunk left. -/
theorem unsent_ite (rest : List UInt8) :
    (if rest.isEmpty then Feeder.fetching else .sending rest).isFinished = false ∧
      (if rest.isEmpty then Feeder.fetching else .sending rest).unsent = rest ∧
      ∀ left, (if rest.isEmpty then Feeder.fetching else .sending rest) = .sending left →
        left ≠ [] := by
  cases rest with
  | nil => exact ⟨rfl, rfl, fun left sending => by cases sending⟩
  | cons byte rest =>
    refine ⟨rfl, rfl, fun left sending => ?_⟩
    cases sending
    exact List.cons_ne_nil byte rest

end Feeder

namespace Copy

/-- What holds all through a copy of an input. -/
structure Sound (input : List UInt8) (c : Copy) : Prop where
  device : Device c.feeder.isFinished c.channel
  conserved : c.output.toList ++ c.channel.ring.contents ++ c.feeder.unsent ++ c.input = input
  sends : ∀ rest, c.feeder = .sending rest → rest ≠ []
  exhausted : ∀ fault, c.feeder = .finished fault → fault = none ∧ c.input = []
  sampled : c.drainer = .receiving true → c.feeder.isFinished = true
  drained : ∀ fault, c.drainer = .finished fault →
    fault = none ∧ c.feeder.isFinished = true ∧ c.channel.ring.contents = []

/-- A schedule leads from one state to another by steps that are possible. -/
inductive Schedule (memory : Memory) (first : Copy) : Copy → Prop where
  | start : Schedule memory first first
  | step {c : Copy} (action : CopyAction) (before : Schedule memory first c)
    (enabled : c.enabled action = true) : Schedule memory first (c.apply memory action)

variable {memory : Memory} {input : List UInt8} {c : Copy}

theorem take_ne_nil {data : List UInt8} {count : Nat} (more : data ≠ []) (some : 0 < count) :
    data.take count ≠ [] :=
  fun none => (List.take_eq_nil_iff.mp none).elim (Nat.ne_of_gt some) more

/-- As much as the feeder may read is at least one byte while there is some. -/
theorem chunk_pos {data : List UInt8} (more : data ≠ []) : 0 < min chunkSize data.length :=
  Nat.lt_min.mpr ⟨by decide, List.length_pos_iff.mpr more⟩

/-- Reading input gives at least one byte while there is some. -/
theorem enabled_fetch {count : Nat} (enabled : c.enabled (.fetch count) = true) :
    c.feeder = .fetching ∧ (c.input ≠ [] → 0 < count) := by
  obtain ⟨fetching, enough⟩ := of_decide_eq_true enabled
  refine ⟨fetching, fun more => ?_⟩
  have some : c.input.isEmpty = false := by simpa using more
  rw [some, if_neg Bool.false_ne_true] at enough
  exact enough.1

namespace Sound

/-- While the feeder is at work the drainer goes on, whatever the feeder does next. -/
theorem goes_on (sound : Sound input c) (feeding : c.feeder.isFinished = false) :
    c.drainer ≠ .receiving true ∧ ∀ fault, c.drainer ≠ .finished fault := by
  constructor
  · intro drainer
    have ended := sound.sampled drainer
    rw [feeding] at ended
    contradiction
  · intro fault drainer
    obtain ⟨-, ended, -⟩ := sound.drained fault drainer
    rw [feeding] at ended
    contradiction

theorem fetch (sound : Sound input c) (fetching : c.feeder = .fetching) {count : Nat}
    (some : c.input ≠ [] → 0 < count) : Sound input (c.fetch memory count) := by
  have feeding : c.feeder.isFinished = false := by rw [fetching]; rfl
  have conserved := sound.conserved
  have device := sound.device
  obtain ⟨unaware, going⟩ := sound.goes_on feeding
  rw [fetching] at conserved device
  unfold Copy.fetch
  split
  · rename_i ended
    obtain ⟨closed, ring⟩ := device.close memory
    refine ⟨closed, ?_, nofun, fun fault finished => ?_, fun _ => rfl,
      fun fault finished => absurd finished (going fault)⟩
    · simp only [endFeeder, ring]
      exact conserved
    · cases finished
      exact ⟨rfl, List.isEmpty_iff.mp ended⟩
  · rename_i more
    have more : c.input ≠ [] := fun none => more (List.isEmpty_iff.mpr none)
    refine ⟨device, ?_, fun rest sending => ?_, nofun, fun aware => absurd aware unaware,
      fun fault finished => absurd finished (going fault)⟩
    · simp only [Feeder.unsent, List.append_nil] at conserved ⊢
      rw [List.append_assoc, List.take_append_drop]
      exact conserved
    · cases sending
      exact take_ne_nil more (some more)

theorem send (sound : Sound input c) {rest : List UInt8} (sending : c.feeder = .sending rest) :
    Sound input (c.send memory rest) := by
  have feeding : c.feeder.isFinished = false := by rw [sending]; rfl
  have conserved := sound.conserved
  have device : Device false c.channel := feeding ▸ sound.device
  obtain ⟨unaware, going⟩ := sound.goes_on feeding
  unfold Copy.send
  rcases device.write memory (sound.sends rest sending) with
    ⟨n, after, account, -, done, still, contents⟩ | ⟨-, account, blocked⟩
  · rw [done]
    obtain ⟨working, left, sends⟩ := Feeder.unsent_ite (rest.drop n)
    refine ⟨?_, ?_, sends, fun fault finished => ?_, fun aware => absurd aware unaware,
      fun fault finished => absurd finished (going fault)⟩
    · exact working.symm ▸ still
    · rw [sending] at conserved
      simp only [left, contents]
      rw [← conserved]
      simp [Feeder.unsent]
    · have never : Feeder.isFinished (.finished fault) = false := finished ▸ working
      contradiction
  · rw [blocked]
    exact sound

/-- The drainer looks and knows. -/
theorem sample (sound : Sound input c) : Sound input c.sample :=
  ⟨sound.device, sound.conserved, sound.sends, sound.exhausted, Drainer.receiving.inj, nofun⟩

theorem receive (sound : Sound input c) {seen : Bool} (receiving : c.drainer = .receiving seen) :
    Sound input (c.receive memory seen) := by
  unfold Copy.receive
  rcases sound.device.read memory with
    ⟨data, after, account, -, done, still, contents⟩ | ⟨nothing, account, blocked⟩
  · rw [done]
    refine ⟨still, ?_, sound.sends, sound.exhausted, nofun, nofun⟩
    have conserved := sound.conserved
    rw [contents] at conserved
    rw [← conserved]
    simp
  · rw [blocked]
    refine ⟨sound.device, sound.conserved, sound.sends, sound.exhausted, ?_, ?_⟩
    · cases seen <;> nofun
    · intro fault finished
      cases seen with
      | false => cases finished
      | true =>
        cases finished
        exact ⟨rfl, sound.sampled receiving, nothing⟩

theorem step (sound : Sound input c) {action : CopyAction} (enabled : c.enabled action = true) :
    Sound input (c.apply memory action) := by
  cases action with
  | fetch count =>
    obtain ⟨fetching, some⟩ := enabled_fetch enabled
    simp only [Copy.apply, fetching]
    exact sound.fetch fetching some
  | send =>
    simp only [Copy.apply]
    split
    · rename_i rest sending
      exact sound.send sending
    · exact sound
  | sample =>
    simp only [Copy.apply]
    split
    · exact sound.sample
    · exact sound
  | receive =>
    simp only [Copy.apply]
    split
    · rename_i seen receiving
      exact sound.receive receiving
    · exact sound

end Sound

theorem Schedule.sound {first : Copy} (sound : Sound input first)
    (schedule : Schedule memory first c) : Sound input c := by
  induction schedule with
  | start => exact sound
  | step action before enabled ih => exact ih.step enabled

/-- A copy of which nothing has been done yet. -/
def unbegun (ch : Channel) (input : List UInt8) : Copy :=
  ⟨ch, input, #[], .fetching, .sampling⟩

/-- With storage for its device a copy starts. -/
theorem start_eq_ok (memory : Memory) {config : PipeConfig} (valid : config.validate = .ok config)
    (granted : memory.grants config.bufferSize = true) (input : List UInt8) :
    ∃ ch, start memory config input = .ok (unbegun ch input) ∧ Device false ch ∧
      ch.ring.contents = [] := by
  obtain ⟨-, -, roomy⟩ := (PipeConfig.validate_eq_ok_iff _ _).mp valid
  obtain ⟨half, ch, reading, writing, device, nothing⟩ :=
    Device.opened memory (DeviceSet.channelName 0) roomy granted
  refine ⟨ch, ?_, device, nothing⟩
  simp only [start, reading, writing, unbegun]

/-- At the start all of the input is still to come. -/
theorem Sound.initial {ch : Channel} (device : Device false ch) (nothing : ch.ring.contents = []) :
    Sound input (unbegun ch input) := by
  refine ⟨device, ?_, nofun, nofun, nofun, nofun⟩
  simp [unbegun, nothing, Feeder.unsent]

/-- What the feeder writes next: what is left of its chunk, or a chunk that it may read. -/
inductive Sends (c : Copy) : List UInt8 → Prop where
  | rest (data : List UInt8) (sending : c.feeder = .sending data) : Sends c data
  | chunk (count : Nat) (fetching : c.feeder = .fetching) (more : c.input ≠ [])
    (enabled : c.enabled (.fetch count) = true) : Sends c (c.input.take count)

theorem Sends.nonempty {data : List UInt8} (sends : Sends c data) (sound : Sound input c) :
    data ≠ [] ∧ c.feeder.isFinished = false := by
  cases sends with
  | rest data sending => exact ⟨sound.sends data sending, by rw [sending]; rfl⟩
  | chunk count fetching more enabled =>
    exact ⟨take_ne_nil more ((enabled_fetch enabled).2 more), by rw [fetching]; rfl⟩

/-- A feeder that has anything left to send has something to write next. -/
theorem Sound.sends_something (sound : Sound input c)
    (left : c.input ≠ [] ∨ c.feeder.unsent ≠ []) : ∃ data, Sends c data := by
  cases feeder : c.feeder with
  | fetching =>
    rw [feeder] at left
    have more : c.input ≠ [] := left.resolve_right fun some => some rfl
    refine ⟨_, .chunk (min chunkSize c.input.length) feeder more (decide_eq_true ⟨feeder, ?_⟩)⟩
    rw [if_neg (by simpa using more)]
    exact ⟨chunk_pos more, Nat.min_le_left _ _, Nat.min_le_right _ _⟩
  | sending rest => exact ⟨rest, .rest rest feeder⟩
  | finished fault =>
    obtain ⟨-, none⟩ := sound.exhausted fault feeder
    rw [feeder] at left
    rcases left with more | some
    · exact absurd none more
    · exact absurd rfl some

/-- While anything is left to copy, the next write or the next read moves bytes. -/
theorem Sound.moves (sound : Sound input c) (memory : Memory)
    (left : c.input ≠ [] ∨ c.feeder.unsent ≠ [] ∨ c.channel.ring.contents ≠ []) :
    ((∃ data, Sends c data) ∧ ∀ data, Sends c data → ∃ n, 0 < n ∧
      (c.channel.perform memory (.call ⟨0, writerSlot, .write data⟩)).2.1
        = .transferred (.count n)) ∨
    ∃ data, data ≠ [] ∧
      (c.channel.perform memory (.call ⟨0, readerSlot, .read chunkSize⟩)).2.1
        = .transferred (.bytes data) := by
  rcases sound.device.read memory with ⟨data, after, account, some, done, -⟩ | ⟨nothing, -⟩
  · exact .inr ⟨data, some, by rw [done]⟩
  · have unsent : c.input ≠ [] ∨ c.feeder.unsent ≠ [] := by
      rcases left with more | some | buffered
      · exact .inl more
      · exact .inr some
      · exact absurd nothing buffered
    refine .inl ⟨sound.sends_something unsent, fun data sends => ?_⟩
    obtain ⟨some, feeding⟩ := sends.nonempty sound
    rcases (feeding ▸ sound.device : Device false c.channel).write memory some with
      ⟨n, after, account, moved, done, -⟩ | ⟨buffered, -⟩
    · exact ⟨n, moved, by rw [done]⟩
    · exact absurd nothing buffered

/-- A drainer that is done has written all of the input. -/
theorem Sound.done (sound : Sound input c) (done : c.isDone = true) :
    c.result = ⟨0, input.toArray⟩ ∧ c.channel.ring.contents = [] := by
  cases drainer : c.drainer with
  | sampling =>
    rw [isDone, drainer] at done
    contradiction
  | receiving seen =>
    rw [isDone, drainer] at done
    contradiction
  | finished fault =>
    obtain ⟨rfl, ended, nothing⟩ := sound.drained fault drainer
    cases feeder : c.feeder with
    | finished fault =>
      obtain ⟨rfl, none⟩ := sound.exhausted fault feeder
      have conserved := sound.conserved
      rw [nothing, none, feeder] at conserved
      have succeeds : c.succeeded = true := by rw [succeeded, drainer, feeder]
      have output : c.output.toList = input := by simpa [Feeder.unsent] using conserved
      refine ⟨?_, nothing⟩
      rw [result, succeeds, ← output]
      rfl
    | fetching =>
      rw [feeder] at ended
      contradiction
    | sending rest =>
      rw [feeder] at ended
      contradiction

/-- Copies deliver their input exactly, however it is cut into chunks and whatever the order in
which feeder and drainer take their steps. At every moment the output is the beginning of the input.
When the drainer is done, the result is exit code 0 with all of the input, and the device is empty.
Until then the drainer has a step to take, and while anything is left to copy, what the feeder
writes next or the drainer reads next is at least one byte. -/
theorem delivers_exactly {config : PipeConfig} (valid : config.validate = .ok config)
    (granted : memory.grants config.bufferSize = true) (input : List UInt8) :
    ∃ first, start memory config input = .ok first ∧ ∀ c, Schedule memory first c →
      c.output.toList <+: input ∧
      (c.isDone = true → c.result = ⟨0, input.toArray⟩ ∧ c.channel.ring.contents = []) ∧
      (c.isDone = false → c.enabled .sample = true ∨ c.enabled .receive = true) ∧
      (c.input ≠ [] ∨ c.feeder.unsent ≠ [] ∨ c.channel.ring.contents ≠ [] →
        ((∃ data, Sends c data) ∧ ∀ data, Sends c data → ∃ n, 0 < n ∧
          (c.channel.perform memory (.call ⟨0, writerSlot, .write data⟩)).2.1
            = .transferred (.count n)) ∨
        ∃ data, data ≠ [] ∧
          (c.channel.perform memory (.call ⟨0, readerSlot, .read chunkSize⟩)).2.1
            = .transferred (.bytes data)) := by
  obtain ⟨ch, started, device, nothing⟩ := start_eq_ok memory valid granted input
  refine ⟨_, started, fun c schedule => ?_⟩
  have sound := schedule.sound (.initial device nothing)
  refine ⟨?_, sound.done, fun going => ?_, sound.moves memory⟩
  · rw [← sound.conserved, List.append_assoc, List.append_assoc]
    exact List.prefix_append _ _
  · cases drainer : c.drainer with
    | sampling => exact .inl (decide_eq_true drainer)
    | receiving seen =>
      refine .inr ?_
      rw [enabled, drainer]
    | finished fault =>
      rw [isDone, drainer] at going
      contradiction

/-- Two bytes through a ring that has room for one; the feeder finishes after the drainer has looked
and before it reads the last byte. -/
theorem delivers_exactly_late_finish :
    ∃ first, start ⟨16, by decide⟩ ⟨1, 2⟩ [7, 8] = .ok first ∧
      ∃ c, Schedule ⟨16, by decide⟩ first c ∧ c.isDone = true ∧ c.result = ⟨0, #[7, 8]⟩ := by
  obtain ⟨first, started, delivers⟩ :=
    @delivers_exactly ⟨16, by decide⟩ ⟨1, 2⟩ rfl (by decide) [7, 8]
  have finish : ∃ c, Schedule ⟨16, by decide⟩ first c ∧ c.isDone = true := by
    cases started
    exact ⟨_, .step .receive (.step .sample (.step .receive (.step (.fetch 0) (.step .sample
      (.step .send (.step .receive (.step .sample (.step .send (.step (.fetch 2) .start
        rfl) rfl) rfl) rfl) rfl) rfl) rfl) rfl) rfl) rfl, rfl⟩
  obtain ⟨c, schedule, done⟩ := finish
  obtain ⟨-, finished, -⟩ := delivers c schedule
  exact ⟨first, started, c, schedule, done, (finished done).1⟩

end Copy

end BytePipe
