import BytePipe.Proofs.Channel.Waiters
import BytePipe.Proofs.System.Onward
import Mathlib.Data.List.Nodup

/-!
The sleeping calls of whole systems. Blocking calls are told apart by their tickets, wherever they
are made, and woken calls may run in any order (`System.Ticketed`). Between two operations the
blocking calls that have not come back are those that are asleep, each of them in one place
(`System.WellQueued`), and while a call sleeps the storage of its channel stays
(`System.Ticketed.stored`).
-/
namespace BytePipe

/-- What has been asked of which channel, and what came of it at once. -/
abbrev Requests := List (ChannelId × Operation × Outcome)

/-- A blocking call gets a ticket that no call has had. Calls that never sleep may share theirs, but
not with a blocking call. -/
def Operation.Named (asked : Requests) : Operation → Prop
  | .call c => ∀ e ∈ asked, ∀ w, e.2.1.call? = some w → w.ticket ≠ c.ticket
  | .tryCall c => ∀ e ∈ asked, ∀ w, e.2.1 = .call w → w.ticket ≠ c.ticket
  | _ => True

theorem Operation.Named.ticket_ne {asked : Requests} {op : Operation} (named : op.Named asked)
    {c w : Call} (called : op.call? = some c) {id : ChannelId} {outcome : Outcome}
    (made : (id, .call w, outcome) ∈ asked) : w.ticket ≠ c.ticket := by
  cases op with
  | call made' =>
    cases called
    exact named _ made w rfl
  | tryCall made' =>
    cases called
    exact named _ made w rfl
  | _ => cases called

theorem Channel.mem_queued {ch : Channel} {w : Call} :
    w ∈ ch.queued ↔ ∃ d, w ∈ ch.sleepers d := by
  rw [queued, List.mem_append]
  constructor
  · rintro (reads | writes)
    · exact ⟨_, reads⟩
    · exact ⟨_, writes⟩
  · rintro ⟨d, asleep⟩
    cases d with
    | reading => exact .inl asleep
    | writing => exact .inr asleep

theorem Channel.tally_queued {ch : Channel}
    (placed : ∀ d, ∀ c ∈ ch.sleepers d, c.direction = d) (d : Direction) :
    Tally.of ch.queued d = (ch.sleepers d).length := by
  rw [Tally.of, List.countP_eq_length_filter, filter_queued placed]

theorem Turn.waiting_of_settled {t : Turn} (settled : t.woken = []) :
    t.waiting = t.channel.queued := by
  rw [waiting, settled, List.append_nil]
  rfl

/-- A call that comes is none of those that sleep. -/
theorem Channel.Lived.nodup_came {memory : Memory} {most : Nat} {ch : Channel}
    {account : List Notice} {op : Operation} (lived : ch.Lived memory most account)
    (fresh : op.Fresh ch) (outcome : Outcome) :
    ((op.came outcome ++ ch.queued).map (·.ticket)).Nodup := by
  obtain ⟨peak, -, life⟩ := lived.life
  rw [← Turn.waiting_of_settled (t := ⟨ch, [], account⟩) rfl]
  exact Turn.nodup_came life rfl fresh outcome

theorem Channel.Lived.waited {memory : Memory} {most : Nat} {ch : Channel} {account : List Notice}
    {op : Operation} {u : Turn} (lived : ch.Lived memory most account) (fresh : op.Fresh ch)
    (runs : (op.apply memory (.start ch)).1.Runs u) :
    Turn.Waited op (op.apply memory (.start ch)).2 (.start ch) u u.account := by
  obtain ⟨peak, -, life⟩ := lived.life
  have applied := Turn.apply_of_settled (t := ⟨ch, [], account⟩) memory op rfl
  have after := runs.following account
  have outcome : (op.apply memory ⟨ch, [], account⟩).2 = (op.apply memory (.start ch)).2 := by
    rw [applied]
  obtain ⟨told, waited⟩ := life.waited (v := u.following account) rfl fresh
    (by rw [applied]; exact after)
  rw [outcome] at waited
  obtain rfl : told = u.account := (List.append_cancel_left waited.account).symm
  exact ⟨rfl, waited.calls, waited.blocking, waited.known, waited.stored⟩

/-- What is known of a call that is asleep: it is in the queue of its direction, once, and has an
open session that permits it and something to move. -/
structure Channel.Rests (ch : Channel) (account : List Notice) (d : Direction) (w : Call) : Prop where
  direction : w.direction = d
  session : ∃ s, ch.openSession? w.slot = some s ∧ s.mode.permits d = true
  nontrivial : w.request.isTrivial = false
  slept : .slept w ∈ account
  once : (ch.sleepers d).count w = 1

theorem Channel.Lived.rests {memory : Memory} {most : Nat} {ch : Channel} {account : List Notice}
    {d : Direction} {w : Call} (lived : ch.Lived memory most account) (asleep : w ∈ ch.sleepers d) :
    ch.Rests account d w := by
  obtain ⟨peak, -, life⟩ := lived.life
  have waits : w ∈ Turn.waiting ⟨ch, [], account⟩ := Turn.mem_waiting.mpr (.inl ⟨d, asleep⟩)
  have own := life.orderly.placed d w asleep
  have fits := life.orderly.fits w waits
  obtain ⟨mode, listed, permits⟩ := fits.session
  obtain ⟨s, found, rfl⟩ := Channel.openSession?_of_roster listed
  refine ⟨own, ⟨s, found, own ▸ permits⟩, fits.nontrivial, life.slept waits, ?_⟩
  obtain ⟨reads, writes, -⟩ := List.nodup_append.mp (life.orderly.nodup_queued rfl)
  cases d with
  | reading => exact List.count_eq_one_of_mem reads asleep
  | writing => exact List.count_eq_one_of_mem writes asleep

/-- After an operation the sleeping calls are those that slept before and the one that has come, but
for those that have come back. -/
theorem Channel.Lived.mem_queued_iff {memory : Memory} {most : Nat} {ch : Channel}
    {account : List Notice} {op : Operation} {u : Turn} {w : Call}
    (lived : ch.Lived memory most account) (fresh : op.Fresh ch)
    (runs : (op.apply memory (.start ch)).1.Runs u) (done : u.woken = []) :
    w ∈ u.channel.queued ↔
      (w ∈ ch.queued ∨ op = .call w ∧ (op.apply memory (.start ch)).2 ≠ .refused) ∧
        ∀ result, .ended w result ∉ u.account := by
  have waited := lived.waited fresh runs
  have distinct := lived.nodup_came fresh (op.apply memory (.start ch)).2
  generalize (op.apply memory (.start ch)).2 = outcome at waited distinct ⊢
  have calls := waited.calls
  rw [Turn.waiting_of_settled done, Turn.waiting_of_settled rfl] at calls
  change (cameBack u.account ++ u.channel.queued).Perm (op.came outcome ++ ch.queued) at calls
  have apart : (cameBack u.account ++ u.channel.queued).Nodup :=
    .of_map _ ((calls.map (·.ticket)).nodup_iff.mpr distinct)
  constructor
  · intro asleep
    refine ⟨?_, fun result ended => ?_⟩
    · have before := waited.blocking w (by rw [Turn.waiting_of_settled done]; exact asleep)
      rw [Turn.waiting_of_settled rfl] at before
      rcases before with slept | made
      · exact .inl slept
      · rcases List.mem_append.mp (calls.subset (List.mem_append_right _ asleep)) with came | slept
        · refine .inr ⟨made, fun refused => ?_⟩
          rw [Operation.came, if_pos refused] at came
          contradiction
        · exact .inl slept
    · obtain ⟨-, -, other⟩ := List.nodup_append.mp apart
      exact other w (mem_cameBack.mpr ⟨result, ended⟩) w asleep rfl
  · rintro ⟨waits, unended⟩
    have among : w ∈ op.came outcome ++ ch.queued := by
      rcases waits with slept | ⟨rfl, taken⟩
      · exact List.mem_append_right _ slept
      · rw [Operation.came, if_neg taken]
        exact List.mem_cons_self
    refine (List.mem_append.mp (calls.symm.subset among)).resolve_left fun back => ?_
    obtain ⟨result, ended⟩ := mem_cameBack.mp back
    exact unended result ended

namespace System

/-- The systems that can be reached, with all that has happened and been asked, while at most `most`
sessions of any one channel are open at once. After each operation the woken calls run in any
order, until there are none. -/
inductive Ticketed (memory : Memory) (most : Nat) : System → History → Requests → Prop where
  | empty : Ticketed memory most (.empty memory) [] []
  | created {s : System} {history : History} {asked : Requests} {name : String} {capacity : Nat}
    {ch : Channel} (before : Ticketed memory most s history asked)
    (created : Channel.create? name capacity = .ok ch) :
    Ticketed memory most (s.addChannel ch).1 history asked
  | installed {s after : System} {history : History} {asked : Requests} {config : PipeConfig}
    {devices : DeviceSet} (before : Ticketed memory most s history asked)
    (installed : DeviceSet.install s config = .ok (after, devices)) :
    Ticketed memory most after history asked
  | performed {s : System} {history : History} {asked : Requests} {ch : Channel} {u : Turn}
    (c : ChannelId) (op : Operation) (before : Ticketed memory most s history asked)
    (found : s.channels[c]? = some ch) (named : op.Named asked)
    (runs : (op.apply memory (.start ch)).1.Runs u) (done : u.woken = [])
    (few : u.channel.openSessions ≤ most) :
    Ticketed memory most { s with channels := s.channels.set c u.channel }
      (history ++ u.account.map (Prod.mk c))
      (asked ++ [(c, op, (op.apply memory (.start ch)).2)])

/-- A blocking call that has been made and has not come back. -/
def Unfinished (asked : Requests) (history : History) (c : ChannelId) (w : Call) : Prop :=
  (∃ outcome, (c, .call w, outcome) ∈ asked ∧ outcome ≠ .refused) ∧
    ∀ result, (c, .ended w result) ∉ history

/-- Calls are told of only after they have been made, and blocking calls each under a ticket of its
own; those that are unfinished are asleep. -/
structure WellQueued (memory : Memory) (most : Nat) (s : System) (history : History)
    (asked : Requests) : Prop where
  living : Living memory most s history
  known : ∀ c n w, (c, n) ∈ history → n.call? = some w →
    ∃ op outcome, (c, op, outcome) ∈ asked ∧ op.call? = some w
  unique : ∀ c w outcome, (c, .call w, outcome) ∈ asked → ∀ e ∈ asked, ∀ v,
    e.2.1.call? = some v → v.ticket = w.ticket → e.1 = c ∧ v = w
  asleep : ∀ c w, Unfinished asked history c w ↔ ∃ ch, s.channels[c]? = some ch ∧ w ∈ ch.queued

variable {memory : Memory} {most : Nat} {s : System} {history : History} {asked : Requests}
  {c : ChannelId} {ch : Channel} {op : Operation} {u : Turn} {w : Call}

/-- New channels have no sleepers. -/
theorem asleep_add {channels : List Channel}
    (new : ∀ ch ∈ channels, ∃ name capacity, 0 < capacity ∧ ch = .named name capacity) :
    (∃ ch, (s.channels ++ channels)[c]? = some ch ∧ w ∈ ch.queued) ↔
      ∃ ch, s.channels[c]? = some ch ∧ w ∈ ch.queued := by
  constructor
  · rintro ⟨ch, found, asleep⟩
    rcases Nat.lt_or_ge c s.channels.length with old | young
    · rw [List.getElem?_append_left old] at found
      exact ⟨ch, found, asleep⟩
    · rw [List.getElem?_append_right young] at found
      obtain ⟨name, capacity, -, rfl⟩ := new ch (List.mem_of_getElem? found)
      exact absurd asleep List.not_mem_nil
  · rintro ⟨ch, found, asleep⟩
    have inside : c < s.channels.length := (List.getElem?_eq_some_iff.mp found).1
    exact ⟨ch, (List.getElem?_append_left inside).trans found, asleep⟩

namespace WellQueued

theorem add (queued : WellQueued memory most s history asked) {channels : List Channel}
    (new : ∀ ch ∈ channels, ∃ name capacity, 0 < capacity ∧ ch = .named name capacity) :
    WellQueued memory most { s with channels := s.channels ++ channels } history asked where
  living := queued.living.add new
  known := queued.known
  unique := queued.unique
  asleep c w := (queued.asleep c w).trans (asleep_add new).symm

/-- A sleeping call has been made as a blocking one. -/
theorem made (queued : WellQueued memory most s history asked) (found : s.channels[c]? = some ch)
    (asleep : w ∈ ch.queued) : ∃ outcome, (c, .call w, outcome) ∈ asked := by
  obtain ⟨⟨outcome, made, -⟩, -⟩ := (queued.asleep c w).mpr ⟨ch, found, asleep⟩
  exact ⟨outcome, made⟩

theorem fresh (queued : WellQueued memory most s history asked) (found : s.channels[c]? = some ch)
    (named : op.Named asked) : op.Fresh ch := by
  intro call called d other asleep
  obtain ⟨outcome, made⟩ := queued.made found (Channel.mem_queued.mpr ⟨d, asleep⟩)
  exact named.ticket_ne called made

/-- Of a blocking call that is yet to be made nothing has been told. -/
theorem untold (queued : WellQueued memory most s history asked)
    (named : (Operation.call w).Named asked) {n : Notice} (called : n.call? = some w) :
    (c, n) ∉ history := by
  intro told
  obtain ⟨op, outcome, made, own⟩ := queued.known c n w told called
  exact named _ made w own rfl

theorem unique_performed (queued : WellQueued memory most s history asked)
    (named : op.Named asked) (outcome : Outcome) {id : ChannelId} {first : Outcome}
    (made : (id, .call w, first) ∈ asked ++ [(c, op, outcome)]) {e : ChannelId × Operation × Outcome}
    (also : e ∈ asked ++ [(c, op, outcome)]) {v : Call} (called : e.2.1.call? = some v)
    (same : v.ticket = w.ticket) : e.1 = id ∧ v = w := by
  rcases List.mem_append.mp made with before | now <;>
    rcases List.mem_append.mp also with earlier | last
  · exact queued.unique id w first before e earlier v called same
  · obtain rfl := List.mem_singleton.mp last
    exact absurd same.symm (named.ticket_ne called before)
  · cases List.mem_singleton.mp now
    exact absurd same (named e earlier v called)
  · cases List.mem_singleton.mp now
    obtain rfl := List.mem_singleton.mp last
    cases called
    exact ⟨rfl, rfl⟩

theorem performed (queued : WellQueued memory most s history asked)
    (found : s.channels[c]? = some ch) (named : op.Named asked)
    (runs : (op.apply memory (.start ch)).1.Runs u) (done : u.woken = [])
    (few : u.channel.openSessions ≤ most) :
    WellQueued memory most { s with channels := s.channels.set c u.channel }
      (history ++ u.account.map (Prod.mk c))
      (asked ++ [(c, op, (op.apply memory (.start ch)).2)]) := by
  have fresh := queued.fresh found named
  have lived := queued.living.lived c ch found
  have inside : c < s.channels.length := (List.getElem?_eq_some_iff.mp found).1
  have waited := lived.waited fresh runs
  refine ⟨?_, fun id n w listed called => ?_, fun id w first made e also v called same =>
    queued.unique_performed named _ made also called same, fun id w => ?_⟩
  · have uses := u.channel.openUses_le
    exact queued.living.set found (lived.runs fresh runs done (by omega))
  · rcases List.mem_append.mp listed with before | now
    · obtain ⟨earlier, outcome, made, own⟩ := queued.known id n w before called
      exact ⟨earlier, outcome, List.mem_append_left _ made, own⟩
    · obtain ⟨rfl, member⟩ := History.mem_tagged.mp now
      rcases waited.known n member w called with own | waits
      · exact ⟨op, _, List.mem_append_right _ (List.mem_singleton_self _), own⟩
      · rw [Turn.waiting_of_settled rfl] at waits
        obtain ⟨outcome, made⟩ := queued.made found waits
        exact ⟨_, outcome, List.mem_append_left _ made, rfl⟩
  · have asleep := lived.mem_queued_iff (w := w) fresh runs done
    by_cases own : id = c
    · subst own
      simp only [List.getElem?_set_self inside, Option.some.injEq, exists_eq_left', asleep]
      have before := queued.asleep id w
      simp only [found, Option.some.injEq, exists_eq_left'] at before
      constructor
      · rintro ⟨⟨outcome, made, taken⟩, unended⟩
        refine ⟨?_, fun result ended => unended result
          (List.mem_append_right _ (History.mem_tagged.mpr ⟨rfl, ended⟩))⟩
        rcases List.mem_append.mp made with earlier | last
        · exact .inl (before.mp ⟨⟨outcome, earlier, taken⟩, fun result ended =>
            unended result (List.mem_append_left _ ended)⟩)
        · cases List.mem_singleton.mp last
          exact .inr ⟨rfl, taken⟩
      · rintro ⟨slept | ⟨rfl, taken⟩, unended⟩
        · obtain ⟨⟨outcome, earlier, taken⟩, silent⟩ := before.mpr slept
          refine ⟨⟨outcome, List.mem_append_left _ earlier, taken⟩, fun result ended => ?_⟩
          rcases List.mem_append.mp ended with told | now
          · exact silent result told
          · exact unended result (History.mem_tagged.mp now).2
        · refine ⟨⟨_, List.mem_append_right _ (List.mem_singleton_self _), taken⟩,
            fun result ended => ?_⟩
          rcases List.mem_append.mp ended with told | now
          · exact queued.untold named rfl told
          · exact unended result (History.mem_tagged.mp now).2
    · simp only [List.getElem?_set_ne (Ne.symm own), ← queued.asleep]
      simp [Unfinished, own, History.mem_tagged]

end WellQueued

theorem Ticketed.wellQueued (run : Ticketed memory most s history asked) :
    WellQueued memory most s history asked := by
  induction run with
  | empty =>
    refine ⟨Reached.empty.living, nofun, nofun, fun c w => ⟨?_, ?_⟩⟩
    · rintro ⟨⟨outcome, made, -⟩, -⟩
      contradiction
    · rintro ⟨ch, found, -⟩
      contradiction
  | created before created ih => exact ih.add (named_of_mem_created created)
  | installed before installed ih =>
    obtain ⟨channels, described, rfl⟩ := channels_of_install installed
    exact ih.add (named_of_channelsFor described)
  | performed c op before found named runs done few ih => exact ih.performed found named runs done few

/-- Performing an operation is one of the ways it can go. -/
theorem Ticketed.perform (run : Ticketed memory most s history asked) (c : ChannelId)
    (op : Operation) (named : op.Named asked)
    (few : ∀ ch ∈ (s.perform c op).1.channels, ch.openSessions ≤ most)
    (found : s.channels[c]? = some ch) :
    Ticketed memory most (s.perform c op).1 (history ++ (s.perform c op).2.2.map (Prod.mk c))
      (asked ++ [(c, op, (s.perform c op).2.1)]) := by
  have inside : c < s.channels.length := (List.getElem?_eq_some_iff.mp found).1
  obtain rfl := run.wellQueued.living.grants
  rw [perform_eq found] at few ⊢
  exact run.performed c op found named (Turn.runs_settle _) (Turn.woken_settle _)
    (few _ (List.mem_set inside _))

/-! ## More sessions than can be counted -/

/-- An operation on the only channel there is. -/
theorem Ticketed.perform_only {after : Channel} {outcome : Outcome} {told : List Notice}
    (run : Ticketed memory most ⟨memory, [ch]⟩ history asked)
    (performed : ch.perform memory op = (after, outcome, told)) (named : op.Named asked)
    (few : after.openSessions ≤ most) :
    Ticketed memory most ⟨memory, [after]⟩ (history ++ told.map (Prod.mk 0))
      (asked ++ [(0, op, outcome)]) := by
  have next := run.perform 0 op named (openSessions_perform_only performed few) rfl
  rwa [System.perform_only performed] at next

/-- Any number of sessions can be open before the first call is made. -/
theorem Ticketed.crowd (granted : memory.grants 2 = true) {n : Nat} (room : n + 1 ≤ most) :
    ∃ history asked, Ticketed memory most ⟨memory, [.crowded "pipe" 2 (n + 1)]⟩ history asked ∧
      ∀ e ∈ asked, e.2.1.call? = none := by
  induction n with
  | zero =>
    have born := (@Ticketed.empty memory most).created
      (show Channel.create? "pipe" 2 = .ok _ from rfl)
    have opened := born.perform_only (Channel.perform_openSession_named granted) trivial room
    refine ⟨_, _, opened, fun e made => ?_⟩
    rw [List.mem_singleton.mp made]
    rfl
  | succ n ih =>
    obtain ⟨history, asked, run, silent⟩ := ih (Nat.le_of_succ_le room)
    have within : (Channel.crowded "pipe" 2 (n + 2)).openSessions ≤ most := by
      rw [Channel.openSessions_crowded]
      exact room
    have opened := run.perform_only (Channel.perform_openSession_crowded memory _ _ n) trivial within
    refine ⟨_, _, opened, fun e made => ?_⟩
    rcases List.mem_append.mp made with before | now
    · exact silent e before
    · rw [List.mem_singleton.mp now]
      rfl

/-- A crowd that is large enough can be left without storage while one of it sleeps. -/
theorem Ticketed.stranded (granted : memory.grants 2 = true) {n : Nat}
    (many : (n + 1) % 2 ^ 31 = 0) (room : n + 2 ≤ most) :
    ∃ history asked, Ticketed memory most ⟨memory, [.stranded memory (n + 2)]⟩ history asked := by
  have within : (Channel.crowded "pipe" 2 (n + 2)).openSessions ≤ most := by
    rw [Channel.openSessions_crowded]
    exact room
  have fewer : (Channel.jammed (n + 2)).robbed.openSessions ≤ most :=
    Nat.le_trans (Channel.openSessions_robbed_le rfl) within
  obtain ⟨history, asked, crowd, silent⟩ := Ticketed.crowd granted room
  have unasked : ∀ e ∈ asked, ∀ w, e.2.1.call? ≠ some w := by
    intro e made w called
    rw [silent e made] at called
    contradiction
  have full := crowd.perform_only (Channel.perform_fill memory n 0)
    (fun e made w called => absurd called (unasked e made w)) within
  have jammed := full.perform_only (Channel.perform_jam memory n) (fun e made w called => by
    rcases List.mem_append.mp made with before | now
    · exact absurd called (unasked e before w)
    · rw [List.mem_singleton.mp now] at called
      obtain rfl := Option.some.inj called
      decide) within
  have robbed := jammed.perform_only (Channel.perform_rob memory many) trivial fewer
  rw [← Channel.stranded_eq granted many] at robbed
  exact ⟨_, _, robbed⟩

/-! ## Storage -/

/-- A call that has gone to sleep, with no word of the storage since it first did. -/
structure Undisturbed (w : Call) (account : List Notice) : Prop where
  slept : .slept w ∈ account
  silent : ∀ before after, account = before ++ .slept w :: after → ∀ n ∈ after, n.isStorage = false

theorem Undisturbed.append {account told : List Notice}
    (before : .slept w ∈ account → Undisturbed w account) (slept : .slept w ∈ account ++ told)
    (silent : ∀ n ∈ told, n.isStorage = false) : Undisturbed w (account ++ told) where
  slept := slept
  silent := by
    intro first rest split n later
    obtain ⟨more, -, now⟩ | ⟨more, earlier, rest'⟩ := List.append_eq_append_iff.mp split
    · exact silent n (now ▸ List.mem_append_right more (List.mem_cons_of_mem _ later))
    · cases more with
      | nil =>
        rw [List.nil_append] at rest'
        exact silent n (rest' ▸ List.mem_cons_of_mem _ later)
      | cons head more =>
        obtain ⟨rfl, rfl⟩ := List.cons.inj rest'
        rcases List.mem_append.mp later with old | new
        · have asleep : .slept w ∈ account := earlier ▸ by simp
          exact (before asleep).silent first more earlier n old
        · exact silent n new

/-- A channel on which a call sleeps has storage. -/
theorem Living.isAllocated_of_asleep (living : Living memory most s history) (few : most < 2 ^ 31)
    (found : s.channels[c]? = some ch) (asleep : w ∈ ch.queued) : ch.ring.isAllocated = true := by
  obtain ⟨d, asleep⟩ := Channel.mem_queued.mp asleep
  obtain ⟨session, isOpen, -⟩ := ((living.lived c ch found).rests asleep).session
  exact living.stored few found (Channel.roster_of_openSession? isOpen)

/-- While a call sleeps nothing is told of the storage of its channel. -/
def Still (s : System) (history : History) : Prop :=
  ∀ c w, (∃ ch, s.channels[c]? = some ch ∧ w ∈ ch.queued) → Undisturbed w (history.on c)

theorem Still.add (still : Still s history) {channels : List Channel}
    (new : ∀ ch ∈ channels, ∃ name capacity, 0 < capacity ∧ ch = .named name capacity) :
    Still { s with channels := s.channels ++ channels } history :=
  fun c w asleep => still c w ((asleep_add new).mp asleep)

theorem Still.performed (still : Still s history) (queued : WellQueued memory most s history asked)
    (bounded : most < 2 ^ 31) (found : s.channels[c]? = some ch) (named : op.Named asked)
    (runs : (op.apply memory (.start ch)).1.Runs u) (done : u.woken = [])
    (few : u.channel.openSessions ≤ most) :
    Still { s with channels := s.channels.set c u.channel }
      (history ++ u.account.map (Prod.mk c)) := by
  have inside : c < s.channels.length := (List.getElem?_eq_some_iff.mp found).1
  have after := (queued.performed found named runs done few).living
  rintro id w ⟨ch', is, asleep⟩
  by_cases own : id = c
  · subst own
    have stored := after.isAllocated_of_asleep bounded is asleep
    have lived := after.lived id ch' is
    rw [List.getElem?_set_self inside] at is
    obtain rfl := Option.some.inj is
    have waited := (queued.living.lived id ch found).waited (queued.fresh found named) runs
    rw [History.on_append, History.on_tagged] at lived ⊢
    obtain ⟨d, sleeps⟩ := Channel.mem_queued.mp asleep
    have waits : w ∈ u.waiting := by rw [Turn.waiting_of_settled done]; exact asleep
    have silent := waited.stored w waits (fun slept => by
      rw [Turn.waiting_of_settled rfl] at slept
      exact queued.living.isAllocated_of_asleep bounded found slept) stored
    refine .append (fun told => still id w ⟨ch, found, ?_⟩) (lived.rests sleeps).slept silent
    rcases waited.blocking w waits with slept | rfl
    · rw [Turn.waiting_of_settled rfl] at slept
      exact slept
    · exact absurd ((History.mem_on _).mp told) (queued.untold named rfl)
  · simp only [List.getElem?_set_ne (Ne.symm own)] at is
    rw [History.on_append, History.on_tagged_ne _ (Ne.symm own), List.append_nil]
    exact still id w ⟨ch', is, asleep⟩

theorem Ticketed.still (run : Ticketed memory most s history asked) (bounded : most < 2 ^ 31) :
    Still s history := by
  induction run with
  | empty => exact fun c w ⟨ch, found, _⟩ => nomatch found
  | created before created ih => exact ih.add (named_of_mem_created created)
  | installed before installed ih =>
    obtain ⟨channels, described, rfl⟩ := channels_of_install installed
    exact ih.add (named_of_channelsFor described)
  | performed c op before found named runs done few ih =>
    exact ih.performed before.wellQueued bounded found named runs done few

/-! ## The wait queues -/

/-- In every system that can be reached, whatever the order in which woken calls have run:

* the blocking calls that have been made and have not come back are those that are asleep;
* each of them is in one place only, which is in the queue of its direction, on the channel it was
  made on; its session is still open and permits it, and it has something to move;
* its channel has storage, which has neither come nor gone since the call first slept, as long as
  fewer sessions of a channel are open at once than a word can count;
* calls that count themselves in before they sleep, and out when they are woken, never count
  themselves out of nothing, and between two operations their counters are what a status shows. -/
theorem wait_queues_are_well_formed (run : Ticketed memory most s history asked) :
    (∀ c w, Unfinished asked history c w ↔
      ∃ ch, s.channels[c]? = some ch ∧ w ∈ ch.sleepers w.direction) ∧
    (∀ (c : ChannelId) (ch : Channel) d, ∀ w ∈ ch.sleepers d, s.channels[c]? = some ch →
      ch.Rests (history.on c) d w ∧
      (∀ (id : ChannelId) (other : Channel) e, ∀ v ∈ other.sleepers e,
        s.channels[id]? = some other → v.ticket = w.ticket → id = c ∧ e = d ∧ v = w) ∧
      (most < 2 ^ 31 → ch.ring.isAllocated = true ∧ Undisturbed w (history.on c))) ∧
    (∀ t n, Turn.Metered memory t n → n = some (.of t.waiting)) ∧
    (∀ (c : ChannelId) (ch : Channel), s.channels[c]? = some ch →
      ∃ n : Tally, Turn.Metered memory ⟨ch, [], history.on c⟩ (some n) ∧
        (∀ d, n d = (ch.sleepers d).length) ∧
        ch.status.readersWaiting = n .reading ∧ ch.status.writersWaiting = n .writing) := by
  have queued := run.wellQueued
  have rests {c : ChannelId} {ch : Channel} {d : Direction} {w : Call}
      (found : s.channels[c]? = some ch) (asleep : w ∈ ch.sleepers d) :
      ch.Rests (history.on c) d w := (queued.living.lived c ch found).rests asleep
  refine ⟨fun c w => (queued.asleep c w).trans ⟨?_, ?_⟩, fun c ch d w asleep found =>
    ⟨rests found asleep, fun id other e v sleeps is same => ?_, fun bounded => ?_⟩,
    fun t n metered => metered.tally_eq, fun c ch found => ?_⟩
  · rintro ⟨ch, found, asleep⟩
    obtain ⟨d, asleep⟩ := Channel.mem_queued.mp asleep
    obtain rfl := (rests found asleep).direction
    exact ⟨ch, found, asleep⟩
  · rintro ⟨ch, found, asleep⟩
    exact ⟨ch, found, Channel.mem_queued.mpr ⟨_, asleep⟩⟩
  · obtain ⟨outcome, made⟩ := queued.made found (Channel.mem_queued.mpr ⟨d, asleep⟩)
    obtain ⟨also, entry⟩ := queued.made is (Channel.mem_queued.mpr ⟨e, sleeps⟩)
    obtain ⟨rfl, rfl⟩ := queued.unique c w outcome made _ entry v rfl same
    exact ⟨rfl, (rests is sleeps).direction.symm.trans (rests found asleep).direction, rfl⟩
  · have listed := Channel.mem_queued.mpr ⟨d, asleep⟩
    exact ⟨queued.living.isAllocated_of_asleep bounded found listed,
      run.still bounded c w ⟨ch, found, listed⟩⟩
  · obtain ⟨peak, -, life⟩ := (queued.living.lived c ch found).life
    have counts (d : Direction) :
        Tally.of (Turn.waiting ⟨ch, [], history.on c⟩) d = (ch.sleepers d).length := by
      rw [Turn.waiting_of_settled rfl]
      exact Channel.tally_queued life.orderly.placed d
    exact ⟨_, life.metered, counts, (counts .reading).symm, (counts .writing).symm⟩

/-- A reader that an interrupt of another session has woken in vain. -/
theorem wait_queues_are_well_formed_woken_in_vain :
    ∃ s history asked, Ticketed ⟨16, by decide⟩ 2 s history asked ∧
      ∃ ch, s.channels[0]? = some ch ∧ ch.sleepers .reading = [⟨0, 0, .read 1⟩] ∧
        ch.Rests (history.on 0) .reading ⟨0, 0, .read 1⟩ ∧
        Undisturbed ⟨0, 0, .read 1⟩ (history.on 0) ∧ ch.status.readersWaiting = 1 := by
  have born := (@Ticketed.empty ⟨16, by decide⟩ 2).created
    (show Channel.create? "a" 4 = .ok _ from rfl)
  have first := born.perform 0 (.openSession .readOnly false) trivial (by decide) rfl
  have second := first.perform 0 (.openSession .readWrite false) trivial (by decide) rfl
  have slept := second.perform 0 (.call ⟨0, 0, .read 1⟩)
    (by simp [Operation.Named, Operation.call?]) (by decide) rfl
  have woken := slept.perform 0 (.interrupt 1) trivial (by decide) rfl
  refine ⟨_, _, _, woken, _, rfl, rfl, ?_⟩
  obtain ⟨-, rests, -, counted⟩ := wait_queues_are_well_formed woken
  obtain ⟨own, -, stored⟩ := rests 0 _ .reading ⟨0, 0, .read 1⟩ (by decide) rfl
  obtain ⟨n, -, lengths, waiting, -⟩ := counted 0 _ rfl
  exact ⟨own, (stored (by decide)).2, waiting.trans (lengths .reading)⟩

/-- With `2 ^ 31 + 1` read-write sessions, a close takes the storage from under a writer. -/
theorem sleeper_without_storage :
    ∃ history asked ch, Ticketed ⟨16, by decide⟩ (2 ^ 31 + 1) ⟨⟨16, by decide⟩, [ch]⟩ history asked ∧
      ch = .stranded ⟨16, by decide⟩ (2 ^ 31 + 1) ∧
      ⟨1, 1, .write [8]⟩ ∈ ch.sleepers .writing ∧ ch.ring.isAllocated = false := by
  have granted : (Memory.mk 16 (by decide)).grants 2 = true := rfl
  have many : (2 ^ 31 - 1 + 1) % 2 ^ 31 = 0 := rfl
  obtain ⟨history, asked, run⟩ := Ticketed.stranded granted many (Nat.le_refl _)
  have bereft := Channel.stranded_eq granted many
  refine ⟨history, asked, _, run, rfl, ?_⟩
  rw [bereft]
  exact ⟨List.mem_cons_self, rfl⟩

end System

end BytePipe
