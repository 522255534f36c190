import BytePipe.Proofs.Channel.Observers
import BytePipe.Proofs.Channel.Fifo

/-!
The events of an account: one for each write that has put in bytes, with the bytes buffered right
after it. They are read off the account alone, by a running count that agrees with the ring at every
moment (`Life.used`). Whatever a channel does, every subscription is given exactly the events of what
the account goes on to tell (`Turn.Published`).
-/
namespace BytePipe

/-- How many bytes are buffered after a notice, if there were `n` before it. -/
def bufferedAfter (n : Nat) : Notice → Nat
  | .ended _ (.ok (.bytes data)) => n - data.length
  | .ended _ (.ok (.count written)) => n + written
  | .allocated => 0
  | .released => 0
  | _ => n

/-- How many bytes are buffered according to an account. -/
def buffered (account : List Notice) : Nat :=
  account.foldl bufferedAfter 0

/-- The event of a write that has put in at least one byte. -/
def eventAfter (n : Nat) : Notice → Option WriteEvent
  | .ended _ (.ok (.count written)) => if written = 0 then none else some ⟨written, n + written⟩
  | _ => none

/-- The events of the writes that notices tell of, if `n` bytes were buffered before. -/
def eventsFrom (n : Nat) : List Notice → List WriteEvent
  | [] => []
  | notice :: rest => (eventAfter n notice).toList ++ eventsFrom (bufferedAfter n notice) rest

/-- A notice of neither bytes nor storage. -/
def Notice.isMute : Notice → Bool
  | .ended _ (.ok moved) => moved.size == 0
  | .allocated => false
  | .released => false
  | _ => true

theorem eventsFrom_append (n : Nat) (earlier later : List Notice) :
    eventsFrom n (earlier ++ later)
      = eventsFrom n earlier ++ eventsFrom (earlier.foldl bufferedAfter n) later := by
  induction earlier generalizing n with
  | nil => rfl
  | cons notice rest ih =>
    rw [List.cons_append, eventsFrom, ih, ← List.append_assoc]
    rfl

theorem bufferedAfter_of_mute {notice : Notice} (mute : notice.isMute = true) (n : Nat) :
    bufferedAfter n notice = n := by
  cases notice with
  | ended c result =>
    cases result with
    | error e => rfl
    | ok moved =>
      have none : moved.size = 0 := eq_of_beq mute
      cases moved with
      | bytes data => exact congrArg (n - ·) none
      | count written => exact congrArg (n + ·) none
  | allocated => contradiction
  | released => contradiction
  | _ => rfl

theorem eventAfter_of_mute {notice : Notice} (mute : notice.isMute = true) (n : Nat) :
    eventAfter n notice = none := by
  cases notice with
  | ended c result =>
    cases result with
    | error e => rfl
    | ok moved =>
      cases moved with
      | bytes data => rfl
      | count written => exact if_pos (eq_of_beq mute)
  | _ => rfl

theorem accepted_of_mute {notice : Notice} (mute : notice.isMute = true) :
    notice.accepted = [] := by
  cases notice with
  | ended c result =>
    obtain ⟨ticket, slot, request⟩ := c
    cases result with
    | error e => cases request <;> rfl
    | ok moved =>
      have none : moved.size = 0 := eq_of_beq mute
      cases moved with
      | bytes data => cases request <;> rfl
      | count written =>
        obtain rfl : written = 0 := none
        cases request with
        | read length => rfl
        | write data => exact data.take_zero
  | _ => rfl

/-- Mute notices leave the count as it is, and have no events. -/
theorem events_of_mute {told : List Notice} (mute : ∀ n ∈ told, n.isMute = true) (k : Nat) :
    told.foldl bufferedAfter k = k ∧ eventsFrom k told = [] ∧ accepted told = [] := by
  induction told with
  | nil => exact ⟨rfl, rfl, rfl⟩
  | cons n rest ih =>
    have first := mute n List.mem_cons_self
    obtain ⟨count, events, bytes⟩ := ih fun m later => mute m (List.mem_cons_of_mem n later)
    refine ⟨?_, ?_, ?_⟩
    · rw [List.foldl_cons, bufferedAfter_of_mute first, count]
    · rw [eventsFrom, eventAfter_of_mute first, bufferedAfter_of_mute first, events]
      rfl
    · rw [accepted, List.flatMap_cons, accepted_of_mute first]
      exact bytes

theorem mute_woke (wakers : List Waker) : ∀ n ∈ wakers.map Notice.woke, n.isMute = true := by
  intro n told
  obtain ⟨w, -, rfl⟩ := List.mem_map.mp told
  rfl

theorem mute_trivialAnswer (c : Call) :
    Notice.isMute (.ended c (.ok c.request.trivialAnswer)) = true := by
  obtain ⟨ticket, slot, request⟩ := c
  cases request <;> rfl

@[simp] theorem Channel.feeds_setQueue (ch : Channel) (q : WaitQueue) (d : Direction) :
    (ch.setQueue q d).feeds = ch.feeds := by
  cases d <;> rfl

/-- The bytes buffered after a request has been served are those that its notice leaves. -/
theorem Ring.used_serve {r : Ring} {c : Call} (inside : r.Inside)
    (ready : c.direction = .reading → r.isEmpty = false) :
    (r.serve c.request).2.used = bufferedAfter r.used (.ended c (.ok (r.serve c.request).1)) := by
  obtain ⟨ticket, slot, request⟩ := c
  cases request with
  | read length =>
    have taken := used_take inside.filled (ready rfl) length
    rw [take_count] at taken
    change (r.take length).2.used = r.used - (r.take length).1.length
    rw [take_count]
    exact taken
  | write data =>
    have put := used_put inside.filled (Option.some_ne_none _) data
    exact put

namespace Turn

variable {t u v : Turn} {c : Call} {told more : List Notice}

/-- The account goes on with what is told, the running count stays that of the ring, and every
subscription has been given the events of what is told, as many bytes as were accepted. -/
structure Published (t u : Turn) (told : List Notice) : Prop where
  account : u.account = t.account ++ told
  used : told.foldl bufferedAfter t.channel.ring.used = u.channel.ring.used
  feeds : u.channel.feeds = t.channel.feeds.map
    (Option.map fun f => (eventsFrom t.channel.ring.used told).foldl WriteFeed.publish f)
  accepted : ((eventsFrom t.channel.ring.used told).map (·.written)).sum = (accepted told).length

namespace Published

/-- What moves no bytes publishes nothing. -/
theorem of_mute (account : u.account = t.account ++ told) (mute : ∀ n ∈ told, n.isMute = true)
    (ring : u.channel.ring = t.channel.ring) (feeds : u.channel.feeds = t.channel.feeds) :
    Published t u told := by
  obtain ⟨count, events, bytes⟩ := events_of_mute mute t.channel.ring.used
  refine ⟨account, ?_, ?_, ?_⟩
  · rw [count, ring]
  · simp [events, feeds]
  · rw [events, bytes]
    rfl

theorem quiet {n : Notice} (mute : n.isMute = true) (account : u.account = t.account ++ [n])
    (ring : u.channel.ring = t.channel.ring) (feeds : u.channel.feeds = t.channel.feeds) :
    Published t u [n] :=
  .of_mute account (fun _ told => List.mem_singleton.mp told ▸ mute) ring feeds

theorem silent (account : u.account = t.account) (ring : u.channel.ring = t.channel.ring)
    (feeds : u.channel.feeds = t.channel.feeds) : Published t u [] :=
  .of_mute (account.trans (List.append_nil _).symm) (fun _ never => absurd never List.not_mem_nil)
    ring feeds

theorem refl (t : Turn) : Published t t [] :=
  .silent rfl rfl rfl

theorem trans (first : Published t u told) (second : Published u v more) :
    Published t v (told ++ more) := by
  have events : eventsFrom t.channel.ring.used (told ++ more)
      = eventsFrom t.channel.ring.used told ++ eventsFrom u.channel.ring.used more := by
    rw [eventsFrom_append, first.used]
  refine ⟨?_, ?_, ?_, ?_⟩
  · rw [second.account, first.account, List.append_assoc]
  · rw [List.foldl_append, first.used, second.used]
  · rw [second.feeds, first.feeds, List.map_map, events]
    refine List.map_congr_left fun f _ => ?_
    cases f with
    | none => rfl
    | some f => exact congrArg some List.foldl_append.symm
  · rw [events, List.map_append, List.sum_append, first.accepted, second.accepted,
      BytePipe.accepted, BytePipe.accepted, BytePipe.accepted, List.flatMap_append,
      List.length_append]

theorem wakeOne (t : Turn) (d : Direction) : ∃ told, Published t (t.wakeOne d) told := by
  obtain ⟨wakers, account⟩ := account_wakeOne t d
  exact ⟨_, .of_mute account (mute_woke wakers) (ring_wakeOne t d) (Channel.feeds_setQueue _ _ d)⟩

theorem wakeAll (t : Turn) (d : Direction) : ∃ told, Published t (t.wakeAll d) told := by
  obtain ⟨wakers, account⟩ := account_wakeAll t d
  exact ⟨_, .of_mute account (mute_woke wakers) (ring_wakeAll t d) (Channel.feeds_setQueue _ _ d)⟩

theorem sleep (t : Turn) (c : Call) : Published t (t.sleep c) [.slept c] :=
  .quiet rfl (account_sleep t c) (ring_sleep t c) (Channel.feeds_setQueue _ _ _)

theorem cutShort (t : Turn) (c : Call) :
    Published t (t.cutShort c) [.ended c (.error .interrupted)] :=
  .quiet rfl (account_cutShort t c) rfl rfl

end Published

/-- A transfer gives every subscription the event of its notice, if it has one. -/
theorem feeds_transfer (inside : t.channel.ring.Inside) (nontrivial : c.request.isTrivial = false)
    (ready : t.channel.ready c.direction = true) :
    (t.transfer c).1.channel.feeds = t.channel.feeds.map (Option.map fun f =>
      (eventAfter t.channel.ring.used
        (.ended c (.ok (t.channel.ring.serve c.request).1))).toList.foldl WriteFeed.publish f) := by
  have moved := Channel.size_serve inside nontrivial ready
  obtain ⟨ticket, slot, request⟩ := c
  cases request with
  | read length =>
    have same : t.channel.feeds = t.channel.feeds.map (Option.map fun f => f) := by simp
    exact same
  | write data =>
    have used : (t.channel.ring.put data).2.used
        = t.channel.ring.used + (t.channel.ring.put data).1 :=
      Ring.used_serve (c := ⟨ticket, slot, .write data⟩) inside nofun
    have event : eventAfter t.channel.ring.used
        (.ended ⟨ticket, slot, .write data⟩ (.ok (.count (t.channel.ring.put data).1)))
          = some ⟨(t.channel.ring.put data).1, (t.channel.ring.put data).2.used⟩ := by
      rw [used]
      exact if_neg moved
    change _ = t.channel.feeds.map (Option.map fun f => (eventAfter t.channel.ring.used
      (.ended ⟨ticket, slot, .write data⟩ (.ok (.count (t.channel.ring.put data).1)))).toList.foldl
        WriteFeed.publish f)
    rw [event]
    rfl

/-- The bytes of an event are those accepted. -/
theorem written_serve (r : Ring) (c : Call) (n : Nat) :
    ((eventAfter n (.ended c (.ok (r.serve c.request).1))).toList.map (·.written)).sum
      = (Notice.accepted (.ended c (.ok (r.serve c.request).1))).length := by
  obtain ⟨ticket, slot, request⟩ := c
  cases request with
  | read length => rfl
  | write data =>
    have within : (r.put data).1 ≤ data.length := Nat.min_le_left _ _
    change ((eventAfter n (.ended _ (.ok (.count (r.put data).1)))).toList.map (·.written)).sum
      = (data.take (r.put data).1).length
    rw [List.length_take, Nat.min_eq_left within, eventAfter]
    split
    · rename_i none
      rw [none]
      rfl
    · simp

/-- A transfer publishes its write, if it is one, with the bytes buffered right after it. -/
theorem published_transfer (inside : t.channel.ring.Inside)
    (nontrivial : c.request.isTrivial = false) (ready : t.channel.ready c.direction = true) :
    ∃ told, Published t (t.transfer c).1 told := by
  obtain ⟨wakers, account⟩ := account_transfer t c
  have used : bufferedAfter t.channel.ring.used (.ended c (.ok (t.channel.ring.serve c.request).1))
      = (t.transfer c).1.channel.ring.used := by
    rw [ring_transfer, Ring.used_serve inside fun reads => ?_]
    rw [reads] at ready
    exact Channel.isEmpty_of_ready ready
  obtain ⟨count, silent, bytes⟩ :=
    events_of_mute (mute_woke wakers) (t.transfer c).1.channel.ring.used
  have events : eventsFrom t.channel.ring.used
      (.ended c (.ok (t.channel.ring.serve c.request).1) :: wakers.map .woke)
        = (eventAfter t.channel.ring.used
          (.ended c (.ok (t.channel.ring.serve c.request).1))).toList := by
    rw [eventsFrom, used, silent, List.append_nil]
  refine ⟨_, account, ?_, ?_, ?_⟩
  · rw [List.foldl_cons, used, count]
  · rw [events]
    exact feeds_transfer inside nontrivial ready
  · rw [events, written_serve, accepted, List.flatMap_cons]
    change _ = (_ ++ accepted (wakers.map .woke)).length
    rw [bytes, List.append_nil]

theorem published_resume (inside : t.channel.ring.Inside) (fits : t.channel.Fits c) :
    ∃ told, Published t (t.resume c) told := by
  cases signal : t.channel.hasSignal c.slot with
  | true =>
    rw [resume_of_signal signal]
    split
    · obtain ⟨told, woke⟩ := Published.wakeOne (t.cutShort c) c.direction
      exact ⟨_, (Published.cutShort t c).trans woke⟩
    · exact ⟨_, .cutShort t c⟩
  | false =>
    rw [resume, signal, if_neg Bool.false_ne_true]
    split
    · rename_i ready
      exact published_transfer inside fits.nontrivial ready
    · exact ⟨_, .sleep t c⟩

theorem published_arrive (inside : t.channel.ring.Inside) (c : Call) (mayBlock : Bool) :
    ∃ told, Published t (t.arrive c mayBlock).1 told := by
  have verdict := verdict_arrive t c mayBlock
  generalize t.arrive c mayBlock = result at verdict
  cases verdict with
  | refused closed => exact ⟨_, .refl t⟩
  | denied s found forbidden => exact ⟨_, .quiet rfl rfl rfl rfl⟩
  | answered s found permitted trivial => exact ⟨_, .quiet (mute_trivialAnswer c) rfl rfl rfl⟩
  | moved fits ready => exact published_transfer inside fits.nontrivial ready
  | turnedAway fits unready impatient => exact ⟨_, .quiet rfl rfl rfl rfl⟩
  | cutShort fits unready blocks pending => exact ⟨_, .cutShort t c⟩
  | slept fits unready blocks silent => exact ⟨_, .sleep t c⟩

/-- Storage that comes or goes leaves no bytes buffered. -/
theorem Published.reset {n : Notice} (account : u.account = t.account ++ [n])
    (storage : n = .allocated ∨ n = .released) (used : u.channel.ring.used = 0)
    (feeds : u.channel.feeds = t.channel.feeds) : Published t u [n] := by
  refine ⟨account, ?_, ?_, ?_⟩
  · rw [used]
    rcases storage with rfl | rfl <;> rfl
  · rcases storage with rfl | rfl <;> simp [eventsFrom, eventAfter, feeds]
  · rcases storage with rfl | rfl <;> rfl

theorem published_openSession (memory : Memory) (t : Turn) (mode : AccessMode)
    (nonBlocking : Bool) : ∃ told, Published t (t.openSession memory mode nonBlocking).1 told := by
  unfold openSession
  dsimp only
  split
  · exact ⟨_, .silent rfl rfl rfl⟩
  · split
    · exact ⟨_, .refl t⟩
    · rename_i ring granted
      obtain rfl := Ring.allocate_eq_ok granted
      exact ⟨_, .reset rfl (.inl rfl) (by simp [Turn.join, Turn.countModeIn, Ring.used]) rfl⟩

theorem published_dropSession (t : Turn) (slot : Slot) :
    ∃ told, Published t (t.dropSession slot).1 told := by
  unfold dropSession letGo
  split
  · exact ⟨_, .refl t⟩
  · dsimp only
    split
    · exact ⟨_, .refl t⟩
    · rename_i s found
      have counted : Published t
          (((t.markClosed slot).mapChannel (countModeOut s.mode)).record [.countedOut slot])
          [.countedOut slot] := .quiet rfl rfl rfl rfl
      unfold releaseCounts
      dsimp only
      split
      · refine ⟨_, counted.trans (.reset rfl (.inr rfl) ?_ rfl)⟩
        simp [freeStorage, Ring.release, Ring.empty, Ring.used]
      · exact ⟨_, counted⟩

end Turn

/-- Operations on subscriptions. -/
def Operation.subscribes : Operation → Bool
  | .subscribe => true
  | .unsubscribe _ => true
  | .receive _ => true
  | _ => false

namespace Turn

variable {op : Operation} {t : Turn}

/-- Every operation but those on subscriptions publishes what it tells. -/
theorem published_apply (memory : Memory) (inside : t.channel.ring.Inside)
    (other : op.subscribes = false) : ∃ told, Published t (op.apply memory t).1 told := by
  cases op with
  | openSession mode nonBlocking =>
    have opened := published_openSession memory t mode nonBlocking
    simp only [Operation.apply]
    split <;> rename_i done <;> rw [done] at opened <;> exact opened
  | closeSession slot =>
    rw [Operation.apply, closeSession_eq_dropSession]
    exact published_dropSession t slot
  | dropSession slot => exact published_dropSession t slot
  | setNonBlocking slot nonBlocking => exact ⟨_, .silent rfl rfl rfl⟩
  | call c => exact published_arrive inside c _
  | tryCall c => exact published_arrive inside c _
  | poll slot waker =>
    simp only [Operation.apply]
    split
    · cases waker <;> exact ⟨_, .silent rfl rfl rfl⟩
    · exact ⟨_, .refl t⟩
  | interrupt slot =>
    obtain ⟨first, readers⟩ := Published.wakeAll (t.mapChannel (·.setSignal slot true)) .reading
    obtain ⟨second, writers⟩ :=
      Published.wakeAll ((t.mapChannel (·.setSignal slot true)).wakeAll .reading) .writing
    have raised : Published t (t.mapChannel (·.setSignal slot true)) [] := .silent rfl rfl rfl
    exact ⟨_, (raised.trans readers).trans writers⟩
  | subscribe => contradiction
  | unsubscribe feed => contradiction
  | receive feed => contradiction

/-- Operations on subscriptions tell nothing and leave the ring alone. -/
theorem alike_of_subscribes (memory : Memory) (t : Turn) (subscribes : op.subscribes = true) :
    Alike t (op.apply memory t).1 := by
  cases op with
  | subscribe => exact alike_subscribe t
  | unsubscribe feed => exact alike_unsubscribe t feed
  | receive feed => exact alike_receive t feed
  | _ => contradiction

end Turn

/-- At every moment the running count of the account is the number of bytes in the ring. -/
theorem Life.used {memory : Memory} {peak : Nat} {t : Turn} (life : Life memory peak t) :
    buffered t.account = t.channel.ring.used := by
  induction life with
  | created name capacity positive =>
    simp [buffered, Turn.start, Channel.named, Ring.empty, Ring.used]
  | @operated peak t op before settled fresh ih =>
    cases subscribes : op.subscribes with
    | true =>
      have alike := Turn.alike_of_subscribes memory t subscribes
      rw [alike.account, alike.ring, ih]
    | false =>
      obtain ⟨told, published⟩ := Turn.published_apply memory before.inside subscribes
      rw [published.account, buffered, List.foldl_append, ← published.used, ← ih]
      rfl
  | @ran peak t earlier c later before woken ih =>
    obtain ⟨-, fits, -⟩ := before.orderly.take woken
    obtain ⟨told, published⟩ :=
      Turn.published_resume (t := { t with woken := earlier ++ later }) before.inside fits
    rw [published.account, buffered, List.foldl_append, ← published.used]
    exact congrArg (told.foldl bufferedAfter ·) ih

end BytePipe
