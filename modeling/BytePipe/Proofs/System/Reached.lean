import BytePipe.DeviceSet
import BytePipe.Proofs.Channel.Endings

/-!
The systems that can be reached: channels and devices are added at any time, and any operation may
be performed on any channel. The history of a system tells what has happened on which of its
channels. Every channel of a reached system is at a moment of its own life at which nothing is left
to run, and its part of the history is the account of that life (`System.Reached.lived`).
-/
namespace BytePipe

/-- What has happened, and on which channel. -/
abbrev History := List (ChannelId × Notice)

/-- The part of a history that is about one channel. -/
def History.on (history : History) (c : ChannelId) : List Notice :=
  (history.filter (·.1 == c)).map (·.2)

namespace History

variable (history : History)

theorem on_append (later : History) (c : ChannelId) :
    History.on (history ++ later) c = History.on history c ++ History.on later c := by
  simp [on]

theorem on_tagged (account : List Notice) (c : ChannelId) :
    History.on (account.map (Prod.mk c)) c = account := by
  simp [on, List.filter_map, Function.comp_def]

theorem on_tagged_ne (account : List Notice) {c other : ChannelId} (ne : c ≠ other) :
    History.on (account.map (Prod.mk c)) other = [] := by
  simp [on, List.filter_map, Function.comp_def, ne]

theorem mem_tagged {account : List Notice} {c other : ChannelId} {n : Notice} :
    (other, n) ∈ account.map (Prod.mk c) ↔ other = c ∧ n ∈ account := by
  simp only [List.mem_map, Prod.mk.injEq]
  constructor
  · rintro ⟨m, member, rfl, rfl⟩
    exact ⟨rfl, member⟩
  · rintro ⟨rfl, member⟩
    exact ⟨n, member, rfl, rfl⟩

theorem mem_on {c : ChannelId} {n : Notice} : n ∈ History.on history c ↔ (c, n) ∈ history := by
  simp [on]

end History

/-- The channel is at a moment of a life at which nothing is left to run; `account` tells of the
life so far, in which the open counts never added up to more than `most`. -/
def Channel.Lived (memory : Memory) (most : Nat) (ch : Channel) (account : List Notice) : Prop :=
  ∃ peak t, Life memory peak t ∧ peak ≤ most ∧ t.woken = [] ∧ t.channel = ch ∧ t.account = account

namespace Channel.Lived

variable {memory : Memory} {most : Nat} {ch : Channel} {account : List Notice}

theorem named (name : String) {capacity : Nat} (positive : 0 < capacity) :
    Channel.Lived memory most (.named name capacity) [] :=
  ⟨0, _, .created name capacity positive, Nat.zero_le most, rfl, rfl, rfl⟩

theorem life (lived : ch.Lived memory most account) :
    ∃ peak, peak ≤ most ∧ Life memory peak ⟨ch, [], account⟩ := by
  obtain ⟨peak, ⟨channel, woken, told⟩, life, le, settled, same, rest⟩ := lived
  cases settled
  cases same
  cases rest
  exact ⟨peak, le, life⟩

theorem perform (lived : ch.Lived memory most account) {op : Operation} (fresh : op.Fresh ch)
    (few : (ch.perform memory op).1.openUses ≤ most) :
    (ch.perform memory op).1.Lived memory most (account ++ (ch.perform memory op).2.2) := by
  obtain ⟨peak, t, life, le, settled, rfl, rfl⟩ := lived
  obtain ⟨u, after, none, channel, told⟩ := life.perform settled fresh
  exact ⟨_, u, after, Nat.max_le.mpr ⟨le, few⟩, none, channel, told⟩

/-- Whatever order the woken calls run in. -/
theorem runs (lived : ch.Lived memory most account) {op : Operation} (fresh : op.Fresh ch)
    {u : Turn} (runs : (op.apply memory (.start ch)).1.Runs u) (done : u.woken = [])
    (few : u.channel.openUses ≤ most) : u.channel.Lived memory most (account ++ u.account) := by
  obtain ⟨peak, t, life, le, settled, rfl, rfl⟩ := lived
  have applied := Turn.apply_of_settled memory op settled
  have alive := life.operated op settled fresh
  have after := runs.following t.account
  rw [applied] at alive
  have uses := Channel.openUses_congr (alive.roster_runs after)
  refine ⟨_, _, alive.runs after, Nat.max_le.mpr ⟨le, ?_⟩, done, rfl, rfl⟩
  rw [← uses]
  exact few

theorem openUses_le (lived : ch.Lived memory most account) : ch.openUses ≤ most := by
  obtain ⟨peak, t, life, le, -, rfl, -⟩ := lived
  exact Nat.le_trans life.openUses_le le

theorem counted (lived : ch.Lived memory most account) (few : most < 2 ^ 32) : ch.Counted := by
  obtain ⟨peak, t, life, le, -, rfl, -⟩ := lived
  exact life.counted (Nat.lt_of_le_of_lt le few)

theorem tallied (lived : ch.Lived memory most account) (slot : Slot) :
    timesCountedOut slot account = if ch.isClosed slot then 1 else 0 := by
  obtain ⟨peak, t, life, -, -, rfl, rfl⟩ := lived
  exact life.tallied slot

end Channel.Lived

namespace System

/-- The systems of a memory that can be reached while at most `most` sessions of any one channel are
open at once, each with its history. New calls get tickets that no sleeping call has. -/
inductive Reached (memory : Memory) (most : Nat) : System → History → Prop where
  | empty : Reached memory most (.empty memory) []
  | created {s : System} {history : History} {name : String} {capacity : Nat} {ch : Channel}
    (before : Reached memory most s history) (created : Channel.create? name capacity = .ok ch) :
    Reached memory most (s.addChannel ch).1 history
  | installed {s after : System} {history : History} {config : PipeConfig} {devices : DeviceSet}
    (before : Reached memory most s history)
    (installed : DeviceSet.install s config = .ok (after, devices)) :
    Reached memory most after history
  | performed {s : System} {history : History} (c : ChannelId) (op : Operation)
    (before : Reached memory most s history)
    (fresh : ∀ ch, s.channels[c]? = some ch → op.Fresh ch)
    (few : ∀ ch ∈ (s.perform c op).1.channels, ch.openSessions ≤ most) :
    Reached memory most (s.perform c op).1 (history ++ (s.perform c op).2.2.map (Prod.mk c))

variable {memory : Memory} {most : Nat} {s : System} {history : History}

/-- Whatever a configuration describes are new channels that can hold something. -/
theorem named_of_channelsFor {config : PipeConfig} {channels : List Channel}
    (described : DeviceSet.channelsFor config = .ok channels) :
    ∀ ch ∈ channels, ∃ name capacity, 0 < capacity ∧ ch = .named name capacity := by
  unfold DeviceSet.channelsFor at described
  split at described
  · cases described
  · rename_i valid checked
    obtain ⟨rfl, -, size⟩ := (PipeConfig.validate_eq_ok_iff _ _).mp checked
    cases described
    intro ch listed
    obtain ⟨minor, -, rfl⟩ := List.mem_map.mp listed
    exact ⟨_, _, by omega, rfl⟩

theorem named_of_create? {name : String} {capacity : Nat} {ch : Channel}
    (created : Channel.create? name capacity = .ok ch) :
    ∃ name capacity, 0 < capacity ∧ ch = .named name capacity := by
  unfold Channel.create? at created
  split at created
  · cases created
  · rename_i nonzero
    cases created
    exact ⟨_, _, Nat.pos_of_ne_zero nonzero, rfl⟩

/-- A channel that is added by itself is a new one, too. -/
theorem named_of_mem_created {name : String} {capacity : Nat} {ch : Channel}
    (created : Channel.create? name capacity = .ok ch) :
    ∀ added ∈ [ch], ∃ name capacity, 0 < capacity ∧ added = .named name capacity := by
  intro added listed
  rw [List.mem_singleton.mp listed]
  exact named_of_create? created

theorem channels_of_install {config : PipeConfig} {after : System} {devices : DeviceSet}
    (installed : DeviceSet.install s config = .ok (after, devices)) :
    ∃ channels, DeviceSet.channelsFor config = .ok channels ∧
      after = { s with channels := s.channels ++ channels } := by
  unfold DeviceSet.install at installed
  cases described : DeviceSet.channelsFor config with
  | error e => rw [described] at installed; cases installed
  | ok channels =>
    rw [described] at installed
    cases installed
    exact ⟨channels, rfl, rfl⟩

/-- All channels live, and the history tells of no other ones. -/
structure Living (memory : Memory) (most : Nat) (s : System) (history : History) : Prop where
  grants : s.memory = memory
  known : ∀ told ∈ history, told.1 < s.channels.length
  lived : ∀ (c : ChannelId) (ch : Channel), s.channels[c]? = some ch →
    ch.Lived memory (2 * most) (history.on c)

/-- Nothing has been told of a channel that is yet to come. -/
theorem Living.untold (living : Living memory most s history) {c : ChannelId}
    (young : s.channels.length ≤ c) : history.on c = [] := by
  rw [History.on, List.map_eq_nil_iff, List.filter_eq_nil_iff]
  intro told listed
  have inside := living.known told listed
  simp only [beq_iff_eq]
  exact Nat.ne_of_lt (Nat.lt_of_lt_of_le inside young)

/-- New channels begin their lives. -/
theorem Living.add (living : Living memory most s history) {channels : List Channel}
    (new : ∀ ch ∈ channels, ∃ name capacity, 0 < capacity ∧ ch = .named name capacity) :
    Living memory most { s with channels := s.channels ++ channels } history where
  grants := living.grants
  known told listed := by
    rw [List.length_append]
    exact Nat.lt_of_lt_of_le (living.known told listed) (Nat.le_add_right _ _)
  lived c ch found := by
    rcases Nat.lt_or_ge c s.channels.length with old | young
    · rw [List.getElem?_append_left old] at found
      exact living.lived c ch found
    · rw [List.getElem?_append_right young] at found
      obtain ⟨name, capacity, positive, rfl⟩ := new ch (List.mem_of_getElem? found)
      rw [living.untold young]
      exact .named name positive

/-- One channel lives on, and the others are as they were. -/
theorem Living.set (living : Living memory most s history) {c : ChannelId} {ch after : Channel}
    {told : List Notice} (found : s.channels[c]? = some ch)
    (lived : after.Lived memory (2 * most) (history.on c ++ told)) :
    Living memory most { s with channels := s.channels.set c after }
      (history ++ told.map (Prod.mk c)) := by
  have inside : c < s.channels.length := (List.getElem?_eq_some_iff.mp found).1
  refine ⟨living.grants, fun told listed => ?_, fun other other' is => ?_⟩
  · rw [List.length_set]
    rcases List.mem_append.mp listed with before | now
    · exact living.known told before
    · obtain ⟨n, -, rfl⟩ := List.mem_map.mp now
      exact inside
  · simp only at is
    rw [History.on_append]
    by_cases own : c = other
    · subst own
      rw [List.getElem?_set_self inside] at is
      obtain rfl := Option.some.inj is
      rw [History.on_tagged]
      exact lived
    · rw [List.getElem?_set_ne own] at is
      rw [History.on_tagged_ne _ own, List.append_nil]
      exact living.lived other other' is

theorem Living.perform (living : Living memory most s history) (c : ChannelId) {op : Operation}
    (fresh : ∀ ch, s.channels[c]? = some ch → op.Fresh ch)
    (few : ∀ ch ∈ (s.perform c op).1.channels, ch.openSessions ≤ most) :
    Living memory most (s.perform c op).1 (history ++ (s.perform c op).2.2.map (Prod.mk c)) := by
  unfold System.perform at *
  cases found : s.channels[c]? with
  | none => simpa using living
  | some ch =>
    rw [found] at few
    have inside : c < s.channels.length := (List.getElem?_eq_some_iff.mp found).1
    obtain rfl := living.grants
    have le := few _ (List.mem_set inside _)
    have uses := (ch.perform s.memory op).1.openUses_le
    exact living.set found ((living.lived c ch found).perform (fresh ch found) (by omega))

theorem Reached.living (reached : Reached memory most s history) : Living memory most s history := by
  induction reached with
  | empty =>
    refine ⟨rfl, fun told listed => ?_, fun c ch found => ?_⟩
    · contradiction
    · contradiction
  | created before created ih => exact ih.add (named_of_mem_created created)
  | installed before installed ih =>
    obtain ⟨channels, described, rfl⟩ := channels_of_install installed
    exact ih.add (named_of_channelsFor described)
  | performed c op before fresh few ih => exact ih.perform c fresh few

end System

end BytePipe
