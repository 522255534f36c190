import BytePipe.Proofs.Channel.Crowd

/-!
Which calls may stay asleep although their direction is ready. A transfer wakes one sleeper of the
other side, so while the last transfer went against a call, someone of the call's side has been
woken for it. What is left is the call that was overtaken: the last transfer was made by another
call of its own direction, after it fell asleep (`asleep_only_if_overtaken`).

`Attended` is the invariant behind this. It tells for each sleeper what has moved since it fell
asleep, and for each direction that is ready because of the other side that a call of it has been
woken, if it has sleepers at all.
-/
namespace BytePipe

def Transferred.size : Transferred → Nat
  | .bytes data => data.length
  | .count written => written

/-- The call that has just moved bytes, if any. -/
def Notice.mover? : Notice → Option Call
  | .ended c (.ok moved) => if moved.size = 0 then none else some c
  | _ => none

/-- The last call that moved bytes. -/
def lastMover (account : List Notice) : Option Call :=
  (account.filterMap Notice.mover?).getLast?

/-- What has happened since a call last fell asleep. -/
def SinceSleep (account : List Notice) (c : Call) (since : List Notice) : Prop :=
  ∃ before, account = before ++ .slept c :: since ∧ .slept c ∉ since

/-- Since the call fell asleep, another call of its direction moved bytes, and no call has done so
after that one. -/
def Overtaken (account : List Notice) (c : Call) : Prop :=
  ∃ since other, SinceSleep account c since ∧ lastMover since = some other ∧
    other.direction = c.direction ∧ other.ticket ≠ c.ticket

/-- No call of the same direction has come back since the call fell asleep. -/
def Unrivalled (account : List Notice) (c : Call) : Prop :=
  ∀ since, SinceSleep account c since →
    ∀ other result, .ended other result ∈ since → other.direction ≠ c.direction

/-- A notice that tells nothing of the call. -/
structure Notice.Spares (n : Notice) (c : Call) : Prop where
  slept : n ≠ .slept c
  ended : ∀ other result, n = .ended other result → other.ticket ≠ c.ticket

theorem lastMover_append (account notices : List Notice) :
    lastMover (account ++ notices) = (lastMover notices).or (lastMover account) := by
  rw [lastMover, List.filterMap_append, List.getLast?_append]
  rfl

theorem lastMover_still {notices : List Notice} (still : ∀ n ∈ notices, n.mover? = none)
    (account : List Notice) : lastMover (account ++ notices) = lastMover account := by
  have none : lastMover notices = none := by
    rw [lastMover, List.filterMap_eq_nil_iff.mpr still]
    rfl
  rw [lastMover_append, none, Option.none_or]

theorem mem_of_lastMover {account : List Notice} {c : Call} (last : lastMover account = some c) :
    ∃ result, .ended c result ∈ account := by
  obtain ⟨n, told, moved⟩ := List.mem_filterMap.mp (List.mem_of_getLast? last)
  cases n with
  | ended other result =>
    cases result with
    | error e => cases moved
    | ok answer =>
      simp only [Notice.mover?] at moved
      split at moved
      · cases moved
      · obtain rfl := Option.some.inj moved
        exact ⟨_, told⟩
  | _ => cases moved

theorem SinceSleep.append {account since notices : List Notice} {c : Call}
    (asleep : SinceSleep account c since) (spared : ∀ n ∈ notices, n.Spares c) :
    SinceSleep (account ++ notices) c (since ++ notices) := by
  obtain ⟨before, rfl, once⟩ := asleep
  refine ⟨before, by simp, fun again => ?_⟩
  rcases List.mem_append.mp again with earlier | later
  · exact once earlier
  · exact (spared _ later).slept rfl

/-- What comes after the last time that a call fell asleep. -/
theorem SinceSleep.suffix {account since other : List Notice} {c : Call}
    (asleep : SinceSleep account c other) (before : List Notice)
    (split : account = before ++ .slept c :: since) (once : .slept c ∉ since) : other = since := by
  obtain ⟨earlier, rfl, last⟩ := asleep
  obtain ⟨more, -, rest⟩ | ⟨more, -, rest⟩ := List.append_eq_append_iff.mp split
  · cases more with
    | nil => exact (List.cons.inj rest).2
    | cons n more =>
      have again := (List.cons.inj rest).2
      exact absurd (again ▸ List.mem_append_right more List.mem_cons_self) last
  · cases more with
    | nil => exact (List.cons.inj rest).2.symm
    | cons n more =>
      have again := (List.cons.inj rest).2
      exact absurd (again ▸ List.mem_append_right more List.mem_cons_self) once

theorem Overtaken.lastMover {account : List Notice} {c : Call} (overtaken : Overtaken account c) :
    ∃ other, lastMover account = some other ∧ other.direction = c.direction ∧
      other.ticket ≠ c.ticket := by
  obtain ⟨since, other, ⟨before, rfl, -⟩, last, direction, ticket⟩ := overtaken
  refine ⟨other, ?_, direction, ticket⟩
  have told : BytePipe.lastMover (.slept c :: since) = some other := last
  rw [lastMover_append, told, Option.some_or]

theorem spares_woke {wakers : List Waker} (c : Call) : ∀ n ∈ wakers.map Notice.woke, n.Spares c := by
  intro n told
  obtain ⟨w, -, rfl⟩ := List.mem_map.mp told
  constructor
  · intro same
    cases same
  · intro other result same
    cases same

theorem still_woke {wakers : List Waker} : ∀ n ∈ wakers.map Notice.woke, n.mover? = none := by
  intro n told
  obtain ⟨w, -, rfl⟩ := List.mem_map.mp told
  rfl

theorem spares_ended {c w : Call} (ne : w.ticket ≠ c.ticket) (result : CallResult) :
    Notice.Spares (.ended c result) w := by
  constructor
  · intro same
    cases same
  · intro other result' same
    obtain ⟨rfl, -⟩ := Notice.ended.inj same
    exact Ne.symm ne

theorem still_trivialAnswer (c : Call) :
    (Notice.ended c (.ok c.request.trivialAnswer)).mover? = none := by
  obtain ⟨ticket, slot, request⟩ := c
  cases request <;> rfl

namespace Channel

variable {ch : Channel} {c : Call}

/-- A waiting call that is served moves bytes, and the other direction is ready after it. -/
theorem Counted.serve_moves (counted : ch.Counted) (fits : ch.Fits c)
    (ready : ch.ready c.direction = true) :
    (ch.ring.serve c.request).1.size ≠ 0 ∧
      Channel.ready { ch with ring := (ch.ring.serve c.request).2 } c.direction.opposite
        = true := by
  have stored := counted.stored fits
  obtain ⟨-, nontrivial⟩ := fits
  obtain ⟨ticket, slot, request⟩ := c
  cases request with
  | read n =>
    have some : 0 < n := by
      simp only [Request.isTrivial, beq_eq_false_iff_ne] at nontrivial
      exact Nat.pos_of_ne_zero nontrivial
    have nonempty : ch.ring.isEmpty = false := Channel.isEmpty_of_ready ready
    obtain ⟨count, free⟩ := Ring.take_moves counted.wellFormed nonempty some
    exact ⟨Nat.ne_of_gt count, decide_eq_true free⟩
  | write data =>
    have some : data ≠ [] := by simpa [Request.isTrivial] using nontrivial
    obtain ⟨count, nonempty⟩ :=
      Ring.put_moves counted.wellFormed stored (of_decide_eq_true ready) some
    refine ⟨Nat.ne_of_gt count, ?_⟩
    change (!(ch.ring.put data).2.isEmpty) = true
    rw [nonempty]
    rfl

/-- With a capacity of at least two, some byte or some room is always there. -/
theorem ready_or_ready (wellFormed : ch.ring.WellFormed) (capacity : 2 ≤ ch.ring.capacity)
    (d : Direction) : ch.ready d = true ∨ ch.ready d.opposite = true := by
  have balance := Ring.used_add_free wellFormed
  have nonempty := Ring.isEmpty_iff_used wellFormed
  have either : ch.ready .reading = true ∨ ch.ready .writing = true := by
    by_cases empty : ch.ring.isEmpty = true
    · have none := nonempty.mp empty
      exact .inr (decide_eq_true (by omega))
    · exact .inl (by simpa [ready] using empty)
  cases d with
  | reading => exact either
  | writing => exact either.symm

end Channel

namespace Turn

variable {t u : Turn}

/-- What is known of a sleeper: no call of its ticket has come back since it fell asleep, something
has moved if its direction has become ready, and what moved last left the other direction
ready. -/
structure Since (t : Turn) (c : Call) (since : List Notice) : Prop where
  slept : SinceSleep t.account c since
  others : ∀ other result, .ended other result ∈ since → other.ticket ≠ c.ticket
  moved : t.channel.ready c.direction = true → lastMover since ≠ none
  served : ∀ other, lastMover since = some other →
    t.channel.ready other.direction.opposite = true

/-- If a direction is ready because of the last transfer, a call of it has been woken. -/
def Answered (t : Turn) (d : Direction) : Prop :=
  ∀ other, t.channel.ready d = true → lastMover t.account = some other →
    other.direction = d.opposite → t.channel.sleepers d = [] ∨ ∃ c ∈ t.woken, c.direction = d

/-- Everything is known of the sleepers. -/
def Watched (t : Turn) : Prop :=
  ∀ d, ∀ c ∈ t.channel.sleepers d, ∃ since, t.Since c since

structure Attended (t : Turn) : Prop where
  watched : t.Watched
  answered : ∀ d, t.Answered d

theorem Since.others_append {c : Call} {since notices : List Notice} (known : t.Since c since)
    (spared : ∀ n ∈ notices, n.Spares c) :
    ∀ other result, .ended other result ∈ since ++ notices → other.ticket ≠ c.ticket := by
  intro other result told
  rcases List.mem_append.mp told with earlier | later
  · exact known.others other result earlier
  · exact (spared _ later).ended other result rfl

/-- What is known of a sleeper stays known while nothing moves. -/
theorem Since.still {c : Call} {since notices : List Notice} (known : t.Since c since)
    (ring : u.channel.ring = t.channel.ring) (account : u.account = t.account ++ notices)
    (spared : ∀ n ∈ notices, n.Spares c) (still : ∀ n ∈ notices, n.mover? = none) :
    u.Since c (since ++ notices) := by
  have same := lastMover_still still since
  refine ⟨?_, known.others_append spared, ?_, ?_⟩
  · rw [account]
    exact known.slept.append spared
  · intro ready
    rw [same]
    exact known.moved (Channel.ready_congr ring c.direction ▸ ready)
  · intro other last
    rw [same] at last
    rw [Channel.ready_congr ring]
    exact known.served other last

theorem Watched.still (watched : Watched t) {notices : List Notice}
    (ring : u.channel.ring = t.channel.ring) (account : u.account = t.account ++ notices)
    (fewer : ∀ d, ∀ c ∈ u.channel.sleepers d, c ∈ t.channel.sleepers d)
    (spared : ∀ d, ∀ c ∈ t.channel.sleepers d, ∀ n ∈ notices, n.Spares c)
    (still : ∀ n ∈ notices, n.mover? = none) : Watched u := by
  intro d c asleep
  obtain ⟨since, known⟩ := watched d c (fewer d c asleep)
  exact ⟨_, known.still ring account (spared d c (fewer d c asleep)) still⟩

theorem Answered.still {d : Direction} (answered : Answered t d) {notices : List Notice}
    (ring : u.channel.ring = t.channel.ring) (account : u.account = t.account ++ notices)
    (sleepers : u.channel.sleepers d = t.channel.sleepers d) (woken : ∀ c ∈ t.woken, c ∈ u.woken)
    (still : ∀ n ∈ notices, n.mover? = none) : Answered u d := by
  intro other ready last against
  rw [account, lastMover_still still] at last
  rw [Channel.ready_congr ring] at ready
  rcases answered other ready last against with none | ⟨c, wakes, direction⟩
  · exact .inl (sleepers ▸ none)
  · exact .inr ⟨c, woken c wakes, direction⟩

theorem Attended.of_eq (attended : Attended t) (ring : u.channel.ring = t.channel.ring)
    (sleepers : ∀ d, u.channel.sleepers d = t.channel.sleepers d) (woken : u.woken = t.woken)
    (account : u.account = t.account) : Attended u := by
  have account : u.account = t.account ++ [] := by rw [account, List.append_nil]
  refine ⟨attended.watched.still ring account ?_ ?_ ?_, fun d => ?_⟩
  · intro d c asleep
    rw [← sleepers d]
    exact asleep
  · simp
  · simp
  · refine (attended.answered d).still ring account (sleepers d) ?_ (by simp)
    rw [woken]
    exact fun _ woken => woken

theorem attended_of_no_sleepers (none : ∀ d, t.channel.sleepers d = []) : Attended t := by
  refine ⟨fun d c asleep => ?_, fun d other ready last against => .inl (none d)⟩
  rw [none d] at asleep
  contradiction

/-- A notice that tells of no sleeper and of no transfer changes nothing. -/
theorem Attended.record (attended : Attended t) {n : Notice}
    (spared : ∀ d, ∀ c ∈ t.channel.sleepers d, n.Spares c) (still : n.mover? = none) :
    Attended (t.record [n]) := by
  have stillAll : ∀ m ∈ [n], m.mover? = none := by simpa using still
  refine ⟨attended.watched.still rfl rfl (fun _ _ asleep => asleep) ?_ stillAll, fun d => ?_⟩
  · intro d c asleep m told
    rw [List.mem_singleton.mp told]
    exact spared d c asleep
  · exact (attended.answered d).still rfl rfl rfl (fun _ woken => woken) stillAll

/-! ## Wake-ups -/

theorem Watched.wakeOne (watched : Watched t) (d : Direction) : Watched (t.wakeOne d) := by
  obtain ⟨wakers, account⟩ := account_wakeOne t d
  refine watched.still (ring_wakeOne t d) account ?_ (fun _ c _ => spares_woke c) still_woke
  intro e c asleep
  rw [sleepers_wakeOne] at asleep
  split at asleep
  · rename_i same
    exact same ▸ List.mem_of_mem_tail asleep
  · exact asleep

/-- A wake-up answers its direction: the queue was empty, or its first sleeper is woken. -/
theorem answered_wakeOne (orderly : Orderly t) (d : Direction) : (t.wakeOne d).Answered d := by
  intro other ready last against
  rw [sleepers_wakeOne, if_pos rfl, woken_wakeOne]
  cases asleep : t.channel.sleepers d with
  | nil => exact .inl rfl
  | cons c rest =>
    have direction : c.direction = d :=
      orderly.placed d c (by rw [asleep]; exact List.mem_cons_self)
    exact .inr ⟨c, by simp, direction⟩

theorem Answered.wakeOne {d e : Direction} (answered : Answered t e) (ne : e ≠ d) :
    (t.wakeOne d).Answered e := by
  obtain ⟨wakers, account⟩ := account_wakeOne t d
  refine answered.still (ring_wakeOne t d) account ?_ ?_ still_woke
  · rw [sleepers_wakeOne, if_neg ne]
  · intro c woken
    rw [woken_wakeOne]
    exact List.mem_append_left _ woken

/-! ## One step -/

theorem Watched.cutShort (watched : Watched t) {c : Call}
    (fresh : ∀ w ∈ t.waiting, w.ticket ≠ c.ticket) : Watched (t.cutShort c) := by
  refine watched.still rfl (account_cutShort t c) ?_ ?_ (by simp [Notice.mover?])
  · intro d w asleep
    rw [← sleepers_cutShort t c d]
    exact asleep
  · intro d w asleep n told
    rw [List.mem_singleton.mp told]
    exact spares_ended (fresh w (mem_waiting.mpr (.inl ⟨d, asleep⟩))) _

theorem Answered.cutShort {d : Direction} (answered : Answered t d) (c : Call) :
    (t.cutShort c).Answered d := by
  exact answered.still rfl (account_cutShort t c) (sleepers_cutShort t c d)
    (fun _ woken => woken) (by simp [Notice.mover?])

/-- A call that falls asleep finds its direction not ready and waits behind the others. -/
theorem Watched.sleep (watched : Watched t) {c : Call}
    (fresh : ∀ w ∈ t.waiting, w.ticket ≠ c.ticket) (unready : t.channel.ready c.direction = false) :
    Watched (t.sleep c) := by
  have ring : (t.sleep c).channel.ring = t.channel.ring := ring_sleep t c
  intro d w asleep
  have place : w ∈ t.channel.sleepers d ∨ w = c := by
    rw [sleepers_sleep] at asleep
    split at asleep
    · rename_i same
      rcases List.mem_append.mp asleep with before | last
      · exact .inl (same ▸ before)
      · exact .inr (List.mem_singleton.mp last)
    · exact .inl asleep
  rcases place with before | rfl
  · have ne := fresh w (mem_waiting.mpr (.inl ⟨d, before⟩))
    have spared : ∀ n ∈ [Notice.slept c], n.Spares w := by
      intro n told
      rw [List.mem_singleton.mp told]
      constructor
      · intro same
        obtain rfl := Notice.slept.inj same
        exact ne rfl
      · intro other result same
        cases same
    obtain ⟨since, known⟩ := watched d w before
    exact ⟨_, known.still ring (account_sleep t c) spared (by simp [Notice.mover?])⟩
  · refine ⟨[], ⟨t.account, rfl, List.not_mem_nil⟩, ?_, ?_, ?_⟩
    · intro other result told
      contradiction
    · intro ready
      rw [Channel.ready_congr ring, unready] at ready
      contradiction
    · intro other last
      cases last

/-- A transfer that moved bytes is the last one from then on. -/
theorem lastMover_served {c : Call} (moved : (t.channel.ring.serve c.request).1.size ≠ 0)
    (account : List Notice) :
    lastMover (account ++ [.ended c (.ok (t.channel.ring.serve c.request).1)]) = some c := by
  have told : lastMover [.ended c (.ok (t.channel.ring.serve c.request).1)] = some c := by
    simp [lastMover, Notice.mover?, moved]
  rw [lastMover_append, told, Option.some_or]

theorem Watched.served (watched : Watched t) (counted : t.channel.Counted) {c : Call}
    (fresh : ∀ w ∈ t.waiting, w.ticket ≠ c.ticket) (fits : t.channel.Fits c)
    (ready : t.channel.ready c.direction = true) : Watched (t.served c) := by
  obtain ⟨moved, opposite⟩ := counted.serve_moves fits ready
  intro d w asleep
  rw [sleepers_served] at asleep
  have ne := fresh w (mem_waiting.mpr (.inl ⟨d, asleep⟩))
  have spared : ∀ n ∈ [Notice.ended c (.ok (t.channel.ring.serve c.request).1)], n.Spares w := by
    intro n told
    rw [List.mem_singleton.mp told]
    exact spares_ended ne _
  obtain ⟨since, known⟩ := watched d w asleep
  refine ⟨since ++ [.ended c (.ok (t.channel.ring.serve c.request).1)], ?_, ?_, ?_, ?_⟩
  · rw [account_served]
    exact known.slept.append spared
  · exact known.others_append spared
  · rw [lastMover_served moved]
    exact fun _ => Option.some_ne_none c
  · intro other last
    rw [lastMover_served moved] at last
    obtain rfl := Option.some.inj last
    exact opposite

theorem attended_transfer (orderly : Orderly t) (counted : t.channel.Counted) {c : Call}
    (fresh : ∀ w ∈ t.waiting, w.ticket ≠ c.ticket) (watched : Watched t)
    (fits : t.channel.Fits c) (ready : t.channel.ready c.direction = true) :
    Attended (t.transfer c).1 := by
  have moved := (counted.serve_moves fits ready).1
  have orderlyAfter : Orderly (t.served c) := by
    refine orderly.of_perm rfl (.refl _) fun d w asleep => ?_
    rw [sleepers_served] at asleep
    exact orderly.placed d w asleep
  have woken : Attended ((t.served c).wakeOne c.direction.opposite) := by
    refine ⟨(watched.served counted fresh fits ready).wakeOne _, fun d => ?_⟩
    by_cases same : d = c.direction.opposite
    · subst same
      exact answered_wakeOne orderlyAfter _
    · refine Answered.wakeOne (fun other _ last against => ?_) same
      rw [account_served, lastMover_served moved] at last
      obtain rfl := Option.some.inj last
      rw [against, Direction.opposite_opposite] at same
      contradiction
  have alike := alike_transfer t c
  exact woken.of_eq alike.ring alike.sleepers alike.woken alike.account

/-- One call goes on. What was woken for its own direction may have been the call itself. -/
theorem attended_ran (orderly : Orderly t) (counted : t.channel.Counted) {c : Call}
    (fresh : ∀ w ∈ t.waiting, w.ticket ≠ c.ticket) (watched : Watched t)
    (answered : ∀ d, d ≠ c.direction → t.Answered d) (ran : Ran t c u) : Attended u := by
  cases ran with
  | interrupted unready =>
    refine ⟨watched.cutShort fresh, fun d => ?_⟩
    by_cases own : d = c.direction
    · subst own
      intro other ready
      rw [Channel.ready_congr (ring_cutShort t c), unready] at ready
      contradiction
    · exact (answered d own).cutShort c
  | passedOn ready =>
    refine ⟨(watched.cutShort fresh).wakeOne _, fun d => ?_⟩
    by_cases own : d = c.direction
    · subst own
      exact answered_wakeOne (orderly.cutShort c) _
    · exact ((answered d own).cutShort c).wakeOne own
  | moved fits ready => exact attended_transfer orderly counted fresh watched fits ready
  | slept fits unready =>
    refine ⟨watched.sleep fresh unready, fun d => ?_⟩
    by_cases own : d = c.direction
    · subst own
      intro other ready
      rw [Channel.ready_congr (ring_sleep t c), unready] at ready
      contradiction
    · refine (answered d own).still (ring_sleep t c) (account_sleep t c) ?_ (fun _ woken => woken)
        (by simp [Notice.mover?])
      rw [sleepers_sleep, if_neg own]

theorem Attended.arrived (attended : Attended t) (orderly : Orderly t)
    (counted : t.channel.Counted) {c : Call} (fresh : ∀ w ∈ t.waiting, w.ticket ≠ c.ticket)
    (arrived : Arrived t c u) : Attended u := by
  have spared (result : CallResult) (d : Direction) :
      ∀ w ∈ t.channel.sleepers d, Notice.Spares (.ended c result) w := by
    intro w asleep
    exact spares_ended (fresh w (mem_waiting.mpr (.inl ⟨d, asleep⟩))) _
  cases arrived with
  | refused => exact attended
  | failed e => exact attended.record (spared _) rfl
  | answered trivial => exact attended.record (spared _) (still_trivialAnswer c)
  | ran ran =>
    exact attended_ran orderly counted fresh attended.watched (fun d _ => attended.answered d) ran

/-- Nobody can be asleep on a channel that has no storage. -/
theorem no_sleepers_of_unallocated (orderly : Orderly t) (counted : t.channel.Counted)
    (unallocated : t.channel.ring.isAllocated = false) (d : Direction) :
    t.channel.sleepers d = [] := by
  cases asleep : t.channel.sleepers d with
  | nil => rfl
  | cons c rest =>
    have waits : c ∈ t.waiting :=
      mem_waiting.mpr (.inl ⟨d, by rw [asleep]; exact List.mem_cons_self⟩)
    obtain ⟨mode, listed, -⟩ := (orderly.fits c waits).session
    rw [counted.storage.mpr (Channel.openSessions_pos listed)] at unallocated
    contradiction

theorem Attended.ended (attended : Attended t) {slot : Slot} {mode : AccessMode}
    (orderly : Orderly ((t.markClosed slot).releaseCounts slot mode))
    (counted : ((t.markClosed slot).releaseCounts slot mode).channel.Counted) :
    Attended ((t.markClosed slot).releaseCounts slot mode) := by
  by_cases allocated :
      ((t.markClosed slot).releaseCounts slot mode).channel.ring.isAllocated = true
  · obtain ⟨ring, account⟩ := releaseCounts_of_allocated allocated
    have sleepers (d : Direction) :
        ((t.markClosed slot).releaseCounts slot mode).channel.sleepers d
          = t.channel.sleepers d := by
      rw [sleepers_releaseCounts]
      cases d <;> rfl
    have still : ∀ n ∈ [Notice.countedOut slot], n.mover? = none := by simp [Notice.mover?]
    refine ⟨attended.watched.still ring account ?_ ?_ still, fun d => ?_⟩
    · intro d c asleep
      rw [← sleepers d]
      exact asleep
    · intro d c asleep n told
      rw [List.mem_singleton.mp told]
      constructor
      · intro same
        cases same
      · intro other result same
        cases same
    · refine (attended.answered d).still ring account (sleepers d) ?_ still
      rw [woken_releaseCounts]
      exact fun _ woken => woken
  · exact attended_of_no_sleepers
      (no_sleepers_of_unallocated orderly counted (by simpa using allocated))

theorem Attended.applied {memory : Memory} {op : Operation} (attended : Attended t)
    (orderly : Orderly t) (settled : t.woken = []) (fresh : op.Fresh t.channel)
    (counted : t.channel.Counted) (orderlyAfter : Orderly u) (countedAfter : u.channel.Counted)
    (applied : Applied memory t op u) : Attended u := by
  cases applied with
  | alike alike => exact attended.of_eq alike.ring alike.sleepers alike.woken alike.account
  | joined mode nonBlocking opens allocated =>
    refine attended.of_eq rfl (fun d => ?_) rfl rfl
    cases d <;> rfl
  | allocated mode nonBlocking ring opens unallocated granted =>
    have idle := no_sleepers_of_unallocated orderly counted unallocated
    refine attended_of_no_sleepers fun d => ?_
    cases d with
    | reading => exact idle .reading
    | writing => exact idle .writing
  | ended slot s found idle => exact attended.ended orderlyAfter countedAfter
  | arrived c called arrived =>
    refine attended.arrived orderly counted (fun w waits => ?_) arrived
    rcases mem_waiting.mp waits with ⟨d, asleep⟩ | woken
    · exact fresh c called d w asleep
    · rw [settled] at woken
      contradiction
  | signalled slot =>
    refine attended_of_no_sleepers fun d => ?_
    rw [interrupt, sleepers_wakeAll, sleepers_wakeAll]
    cases d <;> rfl

end Turn

theorem Life.attended {memory : Memory} {peak : Nat} {t : Turn} (life : Life memory peak t)
    (few : peak < 2 ^ 32) : t.Attended := by
  induction life with
  | created name capacity positive =>
    refine Turn.attended_of_no_sleepers fun d => ?_
    cases d <;> rfl
  | @operated peak t op before settled fresh ih =>
    have earlier : peak < 2 ^ 32 := Nat.lt_of_le_of_lt (Nat.le_max_left _ _) few
    have after := before.operated op settled fresh
    exact (ih earlier).applied before.orderly settled fresh (before.counted earlier) after.orderly
      (after.counted few) (Turn.applied_apply memory t op)
  | @ran peak t earlier c later before woken ih =>
    obtain ⟨orderly, fits, others⟩ := before.orderly.take woken
    have attended := ih few
    have watched : Turn.Watched { t with woken := earlier ++ later } :=
      attended.watched.still rfl (List.append_nil _).symm (fun _ _ asleep => asleep) (by simp)
        (by simp)
    refine Turn.attended_ran orderly (before.counted few) others watched ?_ (Turn.ran_resume fits)
    intro d own other ready last against
    rcases attended.answered d other ready last against with none | ⟨w, wakes, direction⟩
    · exact .inl none
    · refine .inr ⟨w, ?_, direction⟩
      rw [woken] at wakes
      rcases List.mem_append.mp wakes with early | late
      · exact List.mem_append_left _ early
      · rcases List.mem_cons.mp late with rfl | late
        · exact absurd direction.symm own
        · exact List.mem_append_right _ late

namespace Turn

variable {t : Turn} {c : Call} {d : Direction}

/-- Nobody is woken any more, so the last transfer did not go against a sleeper that is ready. -/
theorem Attended.overtaken (attended : Attended t) (orderly : Orderly t) (settled : t.woken = [])
    (asleep : c ∈ t.channel.sleepers d) (ready : t.channel.ready d = true) :
    Overtaken t.account c ∧ t.channel.ready d.opposite = true := by
  have placed := orderly.placed d c asleep
  obtain ⟨since, known⟩ := attended.watched d c asleep
  obtain ⟨other, last⟩ := Option.ne_none_iff_exists'.mp (known.moved (placed ▸ ready))
  obtain ⟨result, told⟩ := mem_of_lastMover last
  have same : other.direction = d := by
    by_cases against : other.direction = d.opposite
    · have whole : lastMover t.account = some other := by
        obtain ⟨before, account, -⟩ := known.slept
        have told : lastMover (.slept c :: since) = some other := last
        rw [account, lastMover_append, told, Option.some_or]
      rcases attended.answered d other ready whole against with none | ⟨w, woken, -⟩
      · rw [none] at asleep
        contradiction
      · rw [settled] at woken
        contradiction
    · revert against
      cases other.direction <;> cases d <;> decide
  have ticket := known.others other result told
  refine ⟨⟨since, other, known.slept, last, ?_, ticket⟩, ?_⟩
  · rw [same, placed]
  · exact same ▸ known.served other last

/-- Someone asleep in one direction means that the other direction is ready. -/
theorem Attended.ready_opposite (attended : Attended t) (orderly : Orderly t)
    (settled : t.woken = []) (wellFormed : t.channel.ring.WellFormed)
    (capacity : 2 ≤ t.channel.ring.capacity) (asleep : c ∈ t.channel.sleepers d) :
    t.channel.ready d.opposite = true := by
  rcases Channel.ready_or_ready wellFormed capacity d with ready | opposite
  · exact (attended.overtaken orderly settled asleep ready).2
  · exact opposite

theorem Attended.not_both (attended : Attended t) (orderly : Orderly t) (settled : t.woken = [])
    (wellFormed : t.channel.ring.WellFormed) (capacity : 2 ≤ t.channel.ring.capacity)
    {reader writer : Call} (reads : reader ∈ t.channel.sleepers .reading)
    (writes : writer ∈ t.channel.sleepers .writing) : False := by
  have nonempty := attended.ready_opposite orderly settled wellFormed capacity writes
  have room := attended.ready_opposite orderly settled wellFormed capacity reads
  obtain ⟨other, last, read, -⟩ :=
    (attended.overtaken orderly settled reads nonempty).1.lastMover
  obtain ⟨same, again, write, -⟩ := (attended.overtaken orderly settled writes room).1.lastMover
  rw [last] at again
  obtain rfl := Option.some.inj again
  rw [orderly.placed _ _ reads] at read
  rw [orderly.placed _ _ writes, read] at write
  contradiction

/-- What has no rival is not overtaken. -/
theorem Attended.unready (attended : Attended t) (orderly : Orderly t) (settled : t.woken = [])
    (asleep : c ∈ t.channel.sleepers d) (unrivalled : Unrivalled t.account c) :
    t.channel.ready d = false := by
  cases ready : t.channel.ready d with
  | false => rfl
  | true =>
    obtain ⟨since, other, slept, last, same, -⟩ :=
      (attended.overtaken orderly settled asleep ready).1
    obtain ⟨result, told⟩ := mem_of_lastMover last
    exact absurd same (unrivalled since slept other result told)

end Turn

/-- When nothing is left to run, a call asleep in a ready direction has been overtaken, and so the
last transfer of the channel was not its own. Hence a reader and a writer are never asleep
together, no reader sleeps on a full ring and no writer on an empty one, and a call without rivals
sleeps only as long as nothing can be moved for it. The bound is that of the open counts, whose sum
is a 32-bit word: were it to wrap around, the storage could go under a sleeper. -/
theorem asleep_only_if_overtaken {memory : Memory} {peak : Nat} {t : Turn}
    (life : Life memory peak t) (few : peak < 2 ^ 32) (settled : t.woken = [])
    (capacity : 2 ≤ t.channel.ring.capacity) :
    (∀ d, ∀ c ∈ t.channel.sleepers d, t.channel.ready d = true →
      Overtaken t.account c ∧
      ∃ other, lastMover t.account = some other ∧ other.direction = d ∧
        other.ticket ≠ c.ticket) ∧
    (t.channel.sleepers .reading = [] ∨ t.channel.sleepers .writing = []) ∧
    (t.channel.ring.free = 0 → t.channel.sleepers .reading = []) ∧
    (t.channel.ring.isEmpty = true → t.channel.sleepers .writing = []) ∧
    (∀ c ∈ t.channel.sleepers .reading, Unrivalled t.account c →
      t.channel.ring.isEmpty = true) ∧
    (∀ c ∈ t.channel.sleepers .writing, Unrivalled t.account c →
      t.channel.ring.free = 0) := by
  have attended := life.attended few
  have orderly := life.orderly
  have wellFormed := (life.counted few).wellFormed
  refine ⟨fun d c asleep ready => ?_, ?_, fun full => ?_, fun empty => ?_, fun c asleep alone => ?_,
    fun c asleep alone => ?_⟩
  · have overtaken := (attended.overtaken orderly settled asleep ready).1
    have placed := orderly.placed d c asleep
    exact ⟨overtaken, placed ▸ overtaken.lastMover⟩
  · cases reads : t.channel.sleepers .reading with
    | nil => exact .inl rfl
    | cons reader _ =>
      refine .inr (List.eq_nil_iff_forall_not_mem.mpr fun writer writes => ?_)
      exact attended.not_both orderly settled wellFormed capacity
        (reads ▸ List.mem_cons_self) writes
  · refine List.eq_nil_iff_forall_not_mem.mpr fun reader reads => ?_
    have room := attended.ready_opposite orderly settled wellFormed capacity reads
    have free : 0 < t.channel.ring.free := of_decide_eq_true room
    omega
  · refine List.eq_nil_iff_forall_not_mem.mpr fun writer writes => ?_
    have nonempty := attended.ready_opposite orderly settled wellFormed capacity writes
    change (!t.channel.ring.isEmpty) = true at nonempty
    rw [empty] at nonempty
    contradiction
  · have unready := attended.unready orderly settled asleep alone
    change (!t.channel.ring.isEmpty) = false at unready
    simpa using unready
  · have unready := attended.unready orderly settled asleep alone
    have none := of_decide_eq_false unready
    omega

/-- Two readers sleep, two bytes are written, and the reader that is woken takes only one of them:
the other one is left asleep beside a byte. -/
theorem asleep_only_if_overtaken_second_reader :
    ∃ t : Turn, Life ⟨16, by decide⟩ 2 t ∧ t.woken = [] ∧ 2 ≤ t.channel.ring.capacity ∧
      ∃ c ∈ t.channel.sleepers .reading, t.channel.ready .reading = true ∧
        Overtaken t.account c := by
  have created := @Life.created ⟨16, by decide⟩ "pipe" 4 (by decide)
  have opened := created.operated (.openSession .readWrite false) rfl
    (.of_idle _ fun d => by cases d <;> rfl)
  have first := opened.operated (.call ⟨0, 0, .read 1⟩) rfl
    (.of_idle _ fun d => by cases d <;> rfl)
  have second := first.operated (.call ⟨1, 0, .read 1⟩) rfl
    (fun c called d s asleep => by cases called; cases d <;> revert s <;> decide)
  have written := second.operated (.call ⟨2, 0, .write [7, 8]⟩) rfl
    (fun c called d s asleep => by cases called; cases d <;> revert s <;> decide)
  have read := written.ran [] ⟨0, 0, .read 1⟩ [] rfl
  refine ⟨_, read, rfl, by decide, ⟨1, 0, .read 1⟩, by decide, by decide, ?_⟩
  exact ((asleep_only_if_overtaken read (by decide) rfl (by decide)).1 .reading ⟨1, 0, .read 1⟩
    (by decide) (by decide)).1

open Channel in
/-- With `2 ^ 31 + 1` read-write sessions, a close empties the ring under a writer that sleeps, which
nobody has overtaken and nobody wakes. -/
theorem stranded_writer_is_not_overtaken :
    ∃ peak t, Life ⟨16, by decide⟩ peak t ∧ t.woken = [] ∧
      t.channel = stranded ⟨16, by decide⟩ (2 ^ 31 + 1) ∧ 2 ≤ t.channel.ring.capacity ∧
      ⟨1, 1, .write [8]⟩ ∈ t.channel.sleepers .writing ∧ t.channel.ready .writing = true ∧
      t.channel.ring.isEmpty = true ∧ ¬ Overtaken t.account ⟨1, 1, .write [8]⟩ := by
  have granted : (Memory.mk 16 (by decide)).grants 2 = true := rfl
  obtain ⟨peak, t, life, settled, channel, bereft, account⟩ :=
    Life.stranded granted (n := 2 ^ 31 - 1) rfl
  refine ⟨peak, t, life, settled, channel, ?_⟩
  rw [bereft, account]
  refine ⟨Nat.le_refl 2, List.mem_cons_self, rfl, rfl, ?_⟩
  rintro ⟨since, other, asleep, last, -⟩
  have told : since = [.countedOut 0, .released] := asleep.suffix [.allocated, _] rfl (by simp)
  rw [told] at last
  cases last

end BytePipe
