import BytePipe.Proofs.Channel.Endings

/-!
More sessions than the open counts have room for. A read-write session is counted twice, and the sum
of the two counts is a 32-bit word: with `2 ^ 31 + 1` such sessions it wraps around, and closing one
of them takes the storage from all the others (`perform_closeSession_of_wrapped`).

What can be lost by it is shown on a channel for one byte. One of the sessions fills it and waits
for room with a second byte, and then another one is closed (`stranded`).
-/
namespace BytePipe

/-- A session that ends takes the storage along if the counts it leaves add up to zero. -/
theorem Turn.releaseCounts_of_sum {t : Turn} {mode : AccessMode}
    (zero : countOut t.channel.readers (mode.permits .reading)
      + countOut t.channel.writers (mode.permits .writing) = 0) (slot : Slot) :
    t.releaseCounts slot mode
      = (((t.mapChannel (countModeOut mode)).record [.countedOut slot]).mapChannel
          freeStorage).record [.released] :=
  if_pos zero

namespace Channel

variable {memory : Memory} {ch : Channel}

/-- The channel after so many read-write sessions have been opened, one after the other. -/
def crowd (memory : Memory) (ch : Channel) : Nat → Channel
  | 0 => ch
  | n + 1 => ((ch.crowd memory n).perform memory (.openSession .readWrite false)).1

/-- A channel with its storage still untouched and `n` read-write sessions. -/
def crowded (name : String) (capacity n : Nat) : Channel :=
  { named name capacity with
    ring := ⟨capacity, some #[], 0, 0⟩
    readers := .ofNat n
    writers := .ofNat n
    sessions := .replicate n ⟨.readWrite, false, false, true⟩ }

theorem join_crowded (name : String) (capacity n : Nat) :
    ((Turn.start (crowded name capacity n)).join .readWrite false).channel
      = crowded name capacity (n + 1) := by
  have count : UInt32.ofNat (n + 1) = .ofNat n + 1 := UInt32.ofNat_add n 1
  have listed := List.replicate_succ' (n := n) (a := Session.mk .readWrite false false true)
  simp [crowded, Turn.join, Turn.start, Turn.countModeIn, Turn.countIn, AccessMode.permits, count,
    listed]

/-- The first session brings the storage. -/
theorem perform_openSession_named {name : String} {capacity : Nat}
    (granted : memory.grants capacity = true) :
    (named name capacity).perform memory (.openSession .readWrite false)
      = (crowded name capacity 1, .opened 0, [.allocated]) := by
  have stored : (named name capacity).ring.allocate memory = .ok _ := if_pos granted
  rw [perform_openSession_of_granted .readWrite false rfl stored]
  rfl

theorem perform_openSession_crowded (memory : Memory) (name : String) (capacity n : Nat) :
    (crowded name capacity (n + 1)).perform memory (.openSession .readWrite false)
      = (crowded name capacity (n + 2), .opened (n + 1), []) := by
  have slot : (crowded name capacity (n + 1)).sessions.length = n + 1 := List.length_replicate
  rw [perform_openSession_of_allocated memory .readWrite false rfl, join_crowded, slot]

theorem crowd_succ {name : String} {capacity : Nat} (granted : memory.grants capacity = true)
    (n : Nat) : (named name capacity).crowd memory (n + 1) = crowded name capacity (n + 1) := by
  induction n with
  | zero => rw [crowd, crowd, perform_openSession_named granted]
  | succ n ih => rw [crowd, ih, perform_openSession_crowded]

theorem openSessions_crowded (name : String) (capacity n : Nat) :
    (crowded name capacity n).openSessions = n := by
  simp [crowded, openSessions, List.countP_replicate]

/-- The sum of two counts of `n + 1` with one taken off each. -/
theorem countOut_add_countOut_eq_zero_iff (n : Nat) :
    Turn.countOut (.ofNat (n + 1)) true + Turn.countOut (.ofNat (n + 1)) true = 0 ↔
      n % 2 ^ 31 = 0 ∨ (n + 1) % 2 ^ 32 = 0 := by
  have count : (UInt32.ofNat (n + 1)).toNat = (n + 1) % 2 ^ 32 := UInt32.toNat_ofNat'
  rw [← UInt32.toNat_inj, UInt32.toNat_add, Turn.toNat_countOut_eq_sub, count, UInt32.toNat_zero,
    if_pos rfl]
  omega

/-- The channel whose first session has been closed and whose storage has gone with it. -/
def robbed (ch : Channel) : Channel :=
  { ch with
    ring := ch.ring.release
    readers := Turn.countOut ch.readers true
    writers := Turn.countOut ch.writers true
    sessions := ch.sessions.modify 0 ({ · with isOpen := false }) }

theorem openSessions_robbed_le {s : Session} (found : ch.openSession? 0 = some s) :
    ch.robbed.openSessions ≤ ch.openSessions := by
  have one : ch.robbed.openSessions + 1 = ch.openSessions :=
    Turn.openSessions_markClosed (t := Turn.start ch) found
  omega

/-- With `n` a multiple of `2 ^ 31`, one of `n + 1` read-write sessions takes the storage along. -/
theorem perform_closeSession_of_wrapped {n : Nat} {s : Session} (many : n % 2 ^ 31 = 0)
    (readers : ch.readers = .ofNat (n + 1)) (writers : ch.writers = .ofNat (n + 1))
    (endable : (Turn.start ch).endable? 0 = some s) (mode : s.mode = .readWrite) :
    ch.perform memory (.closeSession 0) = (ch.robbed, .done, [.countedOut 0, .released]) := by
  have wraps : Turn.countOut ch.readers true + Turn.countOut ch.writers true = 0 := by
    rw [readers, writers]
    exact (countOut_add_countOut_eq_zero_iff n).mpr (.inl many)
  have released : ((Turn.start ch).markClosed 0).releaseCounts 0 .readWrite = _ :=
    Turn.releaseCounts_of_sum wraps 0
  rw [perform_ends .close, endable]
  dsimp only
  rw [mode, released]
  rfl

/-! ## A crowd on a channel for one byte -/

/-- The second of so many read-write sessions fills the ring. -/
def fullCrowd (memory : Memory) (sessions : Nat) : Channel :=
  (((named "pipe" 2).crowd memory sessions).perform memory (.call ⟨0, 1, .write [7]⟩)).1

/-- It then waits for room, and meanwhile the first session is closed. -/
def stranded (memory : Memory) (sessions : Nat) : Channel :=
  let waiting := ((fullCrowd memory sessions).perform memory (.call ⟨1, 1, .write [8]⟩)).1
  (waiting.perform memory (.closeSession 0)).1

/-- The second session has filled the ring. -/
def filled (n : Nat) : Channel :=
  { crowded "pipe" 2 n with ring := ⟨2, some #[7], 0, 1⟩ }

/-- The second session waits for room. -/
def jammed (n : Nat) : Channel :=
  { filled n with writeQueue := ⟨[⟨1, 1, .write [8]⟩], []⟩ }

theorem perform_fill (memory : Memory) (n ticket : Nat) :
    (crowded "pipe" 2 (n + 2)).perform memory (.call ⟨ticket, 1, .write [7]⟩)
      = (filled (n + 2), .transferred (.count 1),
        [.ended ⟨ticket, 1, .write [7]⟩ (.ok (.count 1))]) :=
  rfl

theorem perform_jam (memory : Memory) (n : Nat) :
    (filled (n + 2)).perform memory (.call ⟨1, 1, .write [8]⟩)
      = (jammed (n + 2), .asleep, [.slept ⟨1, 1, .write [8]⟩]) :=
  rfl

theorem perform_rob (memory : Memory) {n : Nat} (many : (n + 1) % 2 ^ 31 = 0) :
    (jammed (n + 2)).perform memory (.closeSession 0)
      = ((jammed (n + 2)).robbed, .done, [.countedOut 0, .released]) :=
  perform_closeSession_of_wrapped (s := ⟨.readWrite, false, false, true⟩) many rfl rfl rfl rfl

theorem fullCrowd_eq (granted : memory.grants 2 = true) (n : Nat) :
    fullCrowd memory (n + 2) = filled (n + 2) := by
  rw [fullCrowd, crowd_succ granted (n + 1), perform_fill]

theorem stranded_eq (granted : memory.grants 2 = true) {n : Nat} (many : (n + 1) % 2 ^ 31 = 0) :
    stranded memory (n + 2) = (jammed (n + 2)).robbed := by
  simp only [stranded, fullCrowd_eq granted n, perform_jam, perform_rob memory many]

end Channel

open Channel

namespace Life

variable {memory : Memory}

/-- So many sessions can be opened. -/
theorem crowd (granted : memory.grants 2 = true) (n : Nat) :
    ∃ peak t, Life memory peak t ∧ t.woken = [] ∧ t.channel = crowded "pipe" 2 (n + 1) ∧
      t.account = [.allocated] := by
  induction n with
  | zero =>
    have created := @Life.created memory "pipe" 2 (by decide)
    obtain ⟨u, life, settled, channel, account⟩ :=
      created.perform rfl (.of_silent (.openSession .readWrite false) rfl _)
    have first := @perform_openSession_named memory "pipe" 2 granted
    exact ⟨_, u, life, settled, channel.trans (congrArg (·.1) first),
      account.trans (congrArg (·.2.2) first)⟩
  | succ n ih =>
    obtain ⟨peak, t, before, idle, crowded, told⟩ := ih
    obtain ⟨u, life, settled, channel, account⟩ :=
      before.perform idle (.of_silent (.openSession .readWrite false) rfl _)
    rw [crowded, perform_openSession_crowded] at channel account
    exact ⟨_, u, life, settled, channel, by rw [account, told, List.append_nil]⟩

/-- The sleeping writer that is left without storage, and what has been told by then. -/
theorem stranded (granted : memory.grants 2 = true) {n : Nat} (many : (n + 1) % 2 ^ 31 = 0) :
    ∃ peak t, Life memory peak t ∧ t.woken = [] ∧ t.channel = Channel.stranded memory (n + 2) ∧
      t.channel = (jammed (n + 2)).robbed ∧
      t.account = [.allocated, .ended ⟨0, 1, .write [7]⟩ (.ok (.count 1)),
        .slept ⟨1, 1, .write [8]⟩, .countedOut 0, .released] := by
  obtain ⟨_, t, life, idle, channel, account⟩ := crowd granted (n + 1)
  have alone (d : Direction) : (crowded "pipe" 2 (n + 2)).sleepers d = [] := by cases d <;> rfl
  have unused (d : Direction) : (filled (n + 2)).sleepers d = [] := by cases d <;> rfl
  obtain ⟨full, life, idle, channel', account'⟩ :=
    life.perform idle (.of_idle (.call ⟨0, 1, .write [7]⟩) (channel ▸ alone))
  rw [channel, perform_fill] at channel' account'
  rw [account] at account'
  obtain ⟨waiting, life, idle, channel, account⟩ :=
    life.perform idle (.of_idle (.call ⟨1, 1, .write [8]⟩) (channel' ▸ unused))
  rw [channel', perform_jam] at channel account
  rw [account'] at account
  obtain ⟨u, life, idle, channel', account'⟩ :=
    life.perform idle (.of_silent (.closeSession 0) rfl _)
  rw [channel, perform_rob memory many] at channel' account'
  rw [account] at account'
  have stranded := channel'.trans (stranded_eq granted many).symm
  exact ⟨_, u, life, idle, stranded, channel', account'⟩

end Life

end BytePipe
