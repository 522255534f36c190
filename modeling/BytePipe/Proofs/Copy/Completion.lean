import BytePipe.Proofs.Copy.Delivery

/-!
The command comes to its end within the rounds it allows itself, with exit code 0 and all of its
input. What is left to do (`Copy.remaining`) becomes less in every round: the feeder's step brings
bytes further or ends its work, unless the ring is full, and then the drainer reads.
-/
namespace BytePipe

/-- Two ways to go for each byte of the chunk, and the end of the feeder's work. -/
def Feeder.remaining : Feeder → Nat
  | .fetching => 1
  | .sending rest => 2 * rest.length + 1
  | .finished _ => 0

theorem Feeder.remaining_ite (rest : List UInt8) :
    (if rest.isEmpty then Feeder.fetching else .sending rest).remaining = 2 * rest.length + 1 := by
  cases rest <;> rfl

def Drainer.remaining : Drainer → Nat
  | .finished _ => 0
  | _ => 1

namespace Copy

variable {memory : Memory} {input : List UInt8} {first c : Copy}

/-- A byte has three ways to go: out of the input, into the device and into the output. -/
def remaining (c : Copy) : Nat :=
  3 * c.input.length + c.feeder.remaining + c.channel.ring.contents.length + c.drainer.remaining

namespace Sound

theorem remaining_fetch (sound : Sound input c) (fetching : c.feeder = .fetching) {count : Nat}
    (some : c.input ≠ [] → 0 < count) : (c.fetch memory count).remaining < c.remaining := by
  have device := sound.device
  rw [fetching] at device
  unfold Copy.fetch
  split
  · obtain ⟨-, ring⟩ := device.close memory
    simp only [Copy.remaining, endFeeder, ring, fetching, Feeder.remaining]
    omega
  · rename_i more
    have more : c.input ≠ [] := fun none => more (List.isEmpty_iff.mpr none)
    have positive := some more
    have length := List.length_pos_iff.mpr more
    simp only [Copy.remaining, fetching, Feeder.remaining, List.length_drop, List.length_take]
    omega

/-- A write brings bytes into the device, or there are some already. -/
theorem remaining_send (sound : Sound input c) {rest : List UInt8}
    (sending : c.feeder = .sending rest) :
    (c.send memory rest).remaining < c.remaining ∨
      c.send memory rest = c ∧ c.channel.ring.contents ≠ [] := by
  have device := sound.device
  rw [sending] at device
  have some := sound.sends rest sending
  have length := List.length_pos_iff.mpr some
  unfold Copy.send
  rcases device.write memory some with
    ⟨n, after, account, moved, done, -, contents⟩ | ⟨buffered, account, blocked⟩
  · rw [done]
    refine .inl ?_
    have before : c.feeder.remaining = 2 * rest.length + 1 := by rw [sending]; rfl
    have after := Feeder.remaining_ite (rest.drop n)
    simp only [Copy.remaining, before, after, contents, List.length_append, List.length_drop,
      List.length_take]
    omega
  · rw [blocked]
    exact .inr ⟨rfl, buffered⟩

/-- A read takes bytes out of the device; if there are none the drainer is done or looks again. -/
theorem remaining_receive (sound : Sound input c) (memory : Memory) {seen : Bool}
    (receiving : c.drainer = .receiving seen) :
    (c.receive memory seen).remaining < c.remaining ∨
      c.receive memory seen = { c with drainer := .sampling } ∧ seen = false ∧
        c.channel.ring.contents = [] := by
  unfold Copy.receive
  rcases sound.device.read memory with
    ⟨data, after, account, some, done, -, contents⟩ | ⟨nothing, account, blocked⟩
  · rw [done]
    refine .inl ?_
    have length := List.length_pos_iff.mpr some
    simp only [Copy.remaining, receiving, Drainer.remaining, contents, List.length_append]
    omega
  · rw [blocked]
    cases seen with
    | false => exact .inr ⟨rfl, rfl, nothing⟩
    | true =>
      refine .inl ?_
      simp only [Copy.remaining, receiving, Drainer.remaining, if_true]
      omega

/-- The feeder's step of a round brings the copy further, unless the feeder has finished or waits
for the drainer. -/
theorem feeder_step (sound : Sound input c) (memory : Memory) :
    Sound input (c.apply memory c.feederAction) ∧
      ((c.apply memory c.feederAction).remaining < c.remaining ∨
        c.apply memory c.feederAction = c ∧
          (c.feeder.isFinished = true ∨ c.channel.ring.contents ≠ [])) := by
  cases feeder : c.feeder with
  | fetching =>
    simp only [feederAction, Copy.apply, feeder]
    exact ⟨sound.fetch feeder chunk_pos, .inl (sound.remaining_fetch feeder chunk_pos)⟩
  | sending rest =>
    simp only [feederAction, Copy.apply, feeder]
    exact ⟨sound.send feeder, (sound.remaining_send feeder).imp_right (.imp_right .inr)⟩
  | finished fault =>
    simp only [feederAction, Copy.apply, feeder]
    exact ⟨sound, .inr ⟨trivial, .inl rfl⟩⟩

end Sound

/-- The feeder leaves the drainer to itself. -/
theorem drainer_feeder_step (memory : Memory) (c : Copy) :
    (c.apply memory c.feederAction).drainer = c.drainer := by
  unfold feederAction
  split
  · simp only [Copy.apply]
    split
    · unfold Copy.fetch endFeeder
      split <;> rfl
    · rfl
  · simp only [Copy.apply]
    split
    · unfold Copy.send endFeeder
      split
      · rfl
      · split <;> rfl
      · rfl
    · rfl

/-- Having read, the drainer is done or about to look again. -/
theorem drainer_receive (seen : Bool) :
    (c.receive memory seen).drainer = .sampling ∨ (c.receive memory seen).isDone = true := by
  unfold Copy.receive
  split
  · exact .inl rfl
  · cases seen
    · exact .inl rfl
    · exact .inr rfl
  · exact .inr rfl
  · exact .inr rfl

/-- A round leaves less to do. -/
theorem Sound.round (sound : Sound input c) (memory : Memory) (sampling : c.drainer = .sampling) :
    Sound input (c.round memory) ∧ (c.round memory).remaining < c.remaining ∧
      ((c.round memory).drainer = .sampling ∨ (c.round memory).isDone = true) := by
  obtain ⟨fed, further⟩ := sound.feeder_step memory
  have still := (drainer_feeder_step memory c).trans sampling
  have unfolded : c.round memory = ((c.apply memory c.feederAction).apply memory .sample).apply
    memory .receive := rfl
  rw [unfolded]
  generalize c.apply memory c.feederAction = after at fed further still
  have looked := fed.sample
  have looking : after.sample.drainer = .receiving after.feeder.isFinished := rfl
  have same : after.sample.remaining = after.remaining := by
    rw [remaining, remaining, still]
    rfl
  have applied : (after.apply memory .sample).apply memory .receive
      = after.sample.receive memory after.feeder.isFinished := by
    simp only [Copy.apply, still, looking]
  rw [applied]
  refine ⟨looked.receive looking, ?_, drainer_receive _⟩
  rcases looked.remaining_receive memory looking with less | ⟨again, unfed, nothing⟩
  · rcases further with moved | ⟨rfl, -⟩ <;> omega
  · have unmoved : (after.sample.receive memory after.feeder.isFinished).remaining
        = after.remaining := by
      rw [again, remaining, remaining, still]
      rfl
    rcases further with moved | ⟨rfl, ended | buffered⟩
    · omega
    · rw [unfed] at ended
      contradiction
    · exact absurd nothing buffered

/-- Run for as many rounds as there are things left to do, a copy is done. -/
theorem Sound.run (sound : Sound input c) (memory : Memory) {fuel : Nat}
    (rests : c.drainer = .sampling ∨ c.isDone = true) (enough : c.remaining ≤ fuel) :
    Sound input (c.run memory fuel) ∧ (c.run memory fuel).isDone = true := by
  induction fuel generalizing c with
  | zero =>
    rcases rests with sampling | done
    · simp only [remaining, sampling, Drainer.remaining] at enough
      omega
    · exact ⟨sound, done⟩
  | succ fuel ih =>
    rw [Copy.run]
    split
    · rename_i done
      exact ⟨sound, done⟩
    · rename_i going
      obtain ⟨after, less, rest⟩ := sound.round memory (rests.resolve_right going)
      exact ih after rest (by omega)

/-- With a pause that is a number, a configuration and storage for its device, the command copies
all of its input and ends with code 0. -/
theorem copyThrough_eq {around : Surroundings} {arguments : List String} {delay : Nat}
    {config : PipeConfig} (numeral : delayOfArguments? arguments = some delay)
    (loaded : PipeConfig.load around none = .ok config)
    (granted : memory.grants config.bufferSize = true) (input : List UInt8) :
    copyThrough memory around arguments input = ⟨0, input.toArray⟩ := by
  obtain ⟨ch, started, device, nothing⟩ :=
    start_eq_ok memory (PipeConfig.validate_of_load loaded) granted input
  have sound : Sound input (unbegun ch input) := .initial device nothing
  have enough : (unbegun ch input).remaining ≤ (unbegun ch input).rounds := by
    simp only [Copy.remaining, unbegun, rounds, nothing, Feeder.remaining, Drainer.remaining,
      List.length_nil]
    omega
  have prepared : prepareCopy memory around arguments input = some (unbegun ch input) := by
    simp [prepareCopy, numeral, loaded, started, Except.toOption]
  obtain ⟨reached, done⟩ := sound.run memory (.inl rfl) enough
  rw [copyThrough, prepared]
  exact (reached.done done).1

end Copy

end BytePipe
