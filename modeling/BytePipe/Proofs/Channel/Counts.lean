import BytePipe.Proofs.Channel.Crowd

/-!
The open counts as 32-bit words. While the counts of a channel add up to less than `2 ^ 32`, every
addition is exact, and the storage goes with the last open session only (`open_counts_are_exact`).
Beyond that the sum wraps around: `closed_crowd` says for how many read-write sessions the end of
one of them takes the storage away from the others, which `2 ^ 31 + 1` of them are enough for.
-/
namespace BytePipe

namespace Channel

variable {memory : Memory} {ch after : Channel} {mode : AccessMode} {nonBlocking : Bool}

/-- A session that is opened is counted in once for each direction that it permits. -/
theorem count_opened {slot : Slot} {account : List Notice}
    (opened : ch.perform memory (.openSession mode nonBlocking) = (after, .opened slot, account))
    (d : Direction) : after.count d = Turn.countIn (ch.count d) (mode.permits d) := by
  cases allocated : ch.ring.isAllocated with
  | true =>
    rw [perform_openSession_of_allocated memory mode nonBlocking allocated] at opened
    cases opened
    exact Turn.count_join _ _ _ d
  | false =>
    cases granted : ch.ring.allocate memory with
    | ok ring =>
      rw [perform_openSession_of_granted mode nonBlocking allocated granted] at opened
      cases opened
      cases d <;> rfl
    | error e =>
      rw [perform_openSession_of_refused mode nonBlocking allocated granted] at opened
      cases opened

/-- Closing the first of `n + 1` sessions leaves `n` of them; the storage goes with it if the two
counts are left at half the words, or at none. -/
theorem closed_crowd {name : String} {capacity : Nat} (granted : memory.grants capacity = true)
    (n : Nat) :
    let closed := ((named name capacity).crowd memory (n + 1)).perform memory (.closeSession 0)
    closed.2.1 = .done ∧ closed.1.openSessions = n ∧
      (closed.1.ring.isAllocated = false ↔ n % 2 ^ 31 = 0 ∨ (n + 1) % 2 ^ 32 = 0) := by
  have found : (Turn.start (crowded name capacity (n + 1))).channel.openSession? 0
      = some ⟨.readWrite, false, false, true⟩ := rfl
  have endable : (Turn.start (crowded name capacity (n + 1))).endable? 0
      = some ⟨.readWrite, false, false, true⟩ := rfl
  rw [crowd_succ granted, perform_ends .close, endable]
  refine ⟨rfl, ?_, ?_⟩
  · have left := Turn.openSessions_markClosed found
    have sessions : (Turn.start (crowded name capacity (n + 1))).channel.openSessions = n + 1 :=
      openSessions_crowded name capacity (n + 1)
    rw [openSessions_eq, Turn.roster_releaseCounts, ← openSessions_eq]
    omega
  · rw [← countOut_add_countOut_eq_zero_iff]
    unfold Turn.releaseCounts
    dsimp only
    split
    · rename_i empty
      exact ⟨fun _ => empty, fun _ => rfl⟩
    · rename_i counted
      exact ⟨fun gone => Bool.noConfusion gone, fun empty => absurd empty counted⟩

end Channel

open Channel in
/-- While the counts add up to less than `2 ^ 32`, they are the numbers of open sessions and their sum
is exact, so it is zero only when no session is open. Opening a session adds exactly one to each
count that it permits, if that leaves the sum below the bound; ending one while another is open
leaves the storage as it is. -/
theorem open_counts_are_exact {memory : Memory} {peak : Nat} {t : Turn} (life : Life memory peak t)
    (few : peak < 2 ^ 32) :
    (∀ d, (t.channel.count d).toNat = t.channel.openFor d) ∧
    (t.channel.readers + t.channel.writers).toNat
      = t.channel.readers.toNat + t.channel.writers.toNat ∧
    (t.channel.readers + t.channel.writers = 0 ↔ t.channel.openSessions = 0) ∧
    (∀ mode nonBlocking after slot account,
      t.channel.perform memory (.openSession mode nonBlocking) = (after, .opened slot, account) →
      t.channel.openUses + 1 < 2 ^ 32 → ∀ d,
        (after.count d).toNat = (t.channel.count d).toNat + if mode.permits d then 1 else 0) ∧
    (∀ op slot s, op.Ends slot → t.channel.openSession? slot = some s →
      t.channel.isWaiting slot = false → 1 < t.channel.openSessions →
        (t.channel.perform memory op).1.ring = t.channel.ring) := by
  have counted := life.counted few
  have uses : t.channel.openUses < 2 ^ 32 := Nat.lt_of_le_of_lt life.openUses_le few
  refine ⟨counted.counts, ?_, Turn.sum_eq_zero_iff t.channel counted.counts uses, ?_, ?_⟩
  · have reads : t.channel.readers.toNat = t.channel.openFor .reading := counted.counts .reading
    have writes : t.channel.writers.toNat = t.channel.openFor .writing := counted.counts .writing
    unfold openUses at uses
    rw [UInt32.toNat_add, Nat.mod_eq_of_lt (by omega)]
  · intro mode nonBlocking after slot account opened room d
    have most := t.channel.openFor_le_uses d
    have before := counted.counts d
    rw [count_opened opened d]
    exact Turn.toNat_countIn _ _ fun _ => by omega
  · intro op slot s ends found idle more
    obtain ⟨-, parted, -⟩ := counted.perform_ends uses memory ends found idle
    exact parted.kept more

/-- Two sessions are open and one is dropped: the other keeps the storage. -/
theorem open_counts_are_exact_two_sessions :
    ∃ t : Turn, Life ⟨16, by decide⟩ 3 t ∧ t.channel.openSessions = 2 ∧
      (t.channel.readers + t.channel.writers).toNat = 3 ∧
      (∀ d, ((t.channel.perform ⟨16, by decide⟩ (.openSession .writeOnly true)).1.count d).toNat
        = (t.channel.count d).toNat + if AccessMode.writeOnly.permits d then 1 else 0) ∧
      (t.channel.perform ⟨16, by decide⟩ (.dropSession 0)).1.ring = t.channel.ring := by
  have idle (d : Direction) : (Channel.named "pipe" 16).sleepers d = [] := by cases d <;> rfl
  have created := @Life.created ⟨16, by decide⟩ "pipe" 16 (by decide)
  have opened := created.operated (.openSession .readWrite false) rfl (.of_idle _ idle)
  have life := opened.operated (.openSession .readOnly false) rfl (.of_idle _ idle)
  obtain ⟨-, sum, -, opens, ends⟩ := open_counts_are_exact life (by decide)
  exact ⟨_, life, rfl, sum, opens .writeOnly true _ _ _ rfl (by decide),
    ends (.dropSession 0) 0 _ .drop rfl rfl (by decide)⟩

open Channel in
/-- With `2 ^ 31 + 1` read-write sessions open, the counts add up to two words, and closing one of the
sessions takes the storage from all the others. -/
theorem closing_one_of_too_many_frees_the_storage :
    let many := (named "pipe" 16).crowd ⟨16, by decide⟩ (2 ^ 31 + 1)
    let closed := many.perform ⟨16, by decide⟩ (.closeSession 0)
    many.ring.isAllocated = true ∧ many.openSessions = 2 ^ 31 + 1 ∧
      many.readers.toNat + many.writers.toNat = 2 ^ 32 + 2 ∧
      (many.readers + many.writers).toNat = 2 ∧
      closed.2.1 = .done ∧ closed.1.openSessions = 2 ^ 31 ∧ closed.1.ring.isAllocated = false := by
  have granted : (Memory.mk 16 (by decide)).grants 16 = true := rfl
  have many := @crowd_succ _ "pipe" _ granted (2 ^ 31)
  obtain ⟨done, sessions, freed⟩ := @closed_crowd _ "pipe" _ granted (2 ^ 31)
  refine ⟨?_, ?_, ?_, ?_, done, sessions, freed.mpr (.inl rfl)⟩
  · rw [many]
    rfl
  · rw [many, openSessions_crowded]
  · rw [many]
    rfl
  · rw [many]
    rfl

end BytePipe
