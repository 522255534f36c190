import BytePipe.Channel.Operation
import BytePipe.Channel.Settling

/-!
What each part of a turn does to the data path of a channel, and what it leaves alone. The data path
is the ring, the open counts, the modes and open sessions, the sleeping and the woken calls, and the
account. Two turns that agree on it are `Alike`: signals, observers, blocking modes and
subscriptions are outside of it.

`Ran` lists once what a call can do that goes on when it is woken, and `Arrived` what a call can do
that has just come; `Verdict` says why it does so.
-/
namespace BytePipe

namespace Channel

/-- The mode of every session and whether it is open. -/
def roster (ch : Channel) : List (AccessMode × Bool) :=
  ch.sessions.map fun s => (s.mode, s.isOpen)

/-- How many sessions are open. -/
def openSessions (ch : Channel) : Nat :=
  ch.sessions.countP (·.isOpen)

theorem openSessions_eq (ch : Channel) : ch.openSessions = ch.roster.countP (·.2) := by
  simp [openSessions, roster, List.countP_map, Function.comp_def]

/-- How many open sessions permit a direction. -/
def openFor (ch : Channel) (d : Direction) : Nat :=
  ch.sessions.countP fun s => s.isOpen && s.mode.permits d

theorem openFor_eq (ch : Channel) (d : Direction) :
    ch.openFor d = ch.roster.countP fun r => r.2 && r.1.permits d := by
  simp [openFor, roster, List.countP_map, Function.comp_def]

/-- What the open counts add up to: a read-write session is in both. -/
def openUses (ch : Channel) : Nat :=
  ch.openFor .reading + ch.openFor .writing

theorem openUses_congr {ch ch' : Channel} (roster : ch'.roster = ch.roster) :
    ch'.openUses = ch.openUses := by
  simp only [openUses, openFor_eq, roster]

/-- The calls asleep in a direction, the first to be woken in front. -/
def sleepers (ch : Channel) (d : Direction) : List Call :=
  (ch.queue d).sleepers

/-- A call that may have to wait: its session is open for its direction, and there is something to
move. -/
structure Fits (ch : Channel) (c : Call) : Prop where
  session : ∃ mode, ch.roster[c.slot]? = some (mode, true) ∧ mode.permits c.direction = true
  nontrivial : c.request.isTrivial = false

theorem Fits.of_roster {ch ch' : Channel} {c : Call} (fits : ch.Fits c)
    (roster : ch'.roster = ch.roster) : ch'.Fits c :=
  ⟨roster ▸ fits.session, fits.nontrivial⟩

theorem roster_of_openSession? {ch : Channel} {slot : Slot} {s : Session}
    (found : ch.openSession? slot = some s) : ch.roster[slot]? = some (s.mode, true) := by
  rw [openSession?, Option.filter_eq_some_iff] at found
  rw [roster, List.getElem?_map, found.1, Option.map_some, found.2]

theorem openSession?_of_roster {ch : Channel} {slot : Slot} {mode : AccessMode}
    (listed : ch.roster[slot]? = some (mode, true)) :
    ∃ s, ch.openSession? slot = some s ∧ s.mode = mode := by
  rw [roster, List.getElem?_map, Option.map_eq_some_iff] at listed
  obtain ⟨s, found, pair⟩ := listed
  obtain ⟨same, isOpen⟩ := Prod.mk.inj pair
  exact ⟨s, by rw [openSession?, found]; simp [isOpen], same⟩

theorem hasSignal_of_openSession? {ch : Channel} {slot : Slot} {s : Session}
    (found : ch.openSession? slot = some s) : ch.hasSignal slot = s.signal := by
  rw [openSession?, Option.filter_eq_some_iff] at found
  rw [hasSignal, found.1, Option.any_some]

@[simp] theorem ring_setQueue (ch : Channel) (q : WaitQueue) (d : Direction) :
    (ch.setQueue q d).ring = ch.ring := by
  cases d <;> rfl

@[simp] theorem readers_setQueue (ch : Channel) (q : WaitQueue) (d : Direction) :
    (ch.setQueue q d).readers = ch.readers := by
  cases d <;> rfl

@[simp] theorem writers_setQueue (ch : Channel) (q : WaitQueue) (d : Direction) :
    (ch.setQueue q d).writers = ch.writers := by
  cases d <;> rfl

@[simp] theorem roster_setQueue (ch : Channel) (q : WaitQueue) (d : Direction) :
    (ch.setQueue q d).roster = ch.roster := by
  cases d <;> rfl

theorem sleepers_setQueue (ch : Channel) (q : WaitQueue) (d e : Direction) :
    (ch.setQueue q d).sleepers e = if e = d then q.sleepers else ch.sleepers e := by
  cases d <;> cases e <;> rfl

/-- Reading is possible exactly when there is something to read. -/
theorem isEmpty_of_ready {ch : Channel} {answer : Bool} (ready : ch.ready .reading = answer) :
    ch.ring.isEmpty = !answer := by
  rw [← ready, Channel.ready, Bool.not_not]

theorem ready_congr {ch ch' : Channel} (ring : ch'.ring = ch.ring) (d : Direction) :
    ch'.ready d = ch.ready d := by
  cases d <;> simp [ready, ring]

theorem roster_modify (ch : Channel) (slot : Slot) (f : Session → Session)
    (mode : ∀ s, (f s).mode = s.mode) (isOpen : ∀ s, (f s).isOpen = s.isOpen) :
    (ch.sessions.modify slot f).map (fun s => (s.mode, s.isOpen)) = ch.roster := by
  apply List.ext_getElem?
  intro i
  rw [roster, List.getElem?_map, List.getElem?_map, List.getElem?_modify]
  cases ch.sessions[i]? with
  | none => rfl
  | some s =>
    by_cases chosen : slot = i
    · simp [chosen, mode, isOpen]
    · simp [chosen]

end Channel

namespace Ring

/-- What a request moves when its direction is ready: its answer and the ring afterwards. -/
def serve (r : Ring) : Request → Transferred × Ring
  | .read length => (.bytes (r.take length).1, (r.take length).2)
  | .write data => (.count (r.put data).1, (r.put data).2)

theorem capacity_serve (r : Ring) (request : Request) :
    (r.serve request).2.capacity = r.capacity := by
  cases request <;> rfl

theorem isAllocated_serve (r : Ring) (request : Request) :
    (r.serve request).2.isAllocated = r.isAllocated := by
  cases request with
  | read length => rfl
  | write data => exact Option.isSome_map

end Ring

namespace Turn

/-- The same data path. -/
structure Alike (t u : Turn) : Prop where
  ring : u.channel.ring = t.channel.ring
  readers : u.channel.readers = t.channel.readers
  writers : u.channel.writers = t.channel.writers
  roster : u.channel.roster = t.channel.roster
  sleepers : ∀ d, u.channel.sleepers d = t.channel.sleepers d
  woken : u.woken = t.woken
  account : u.account = t.account

@[simp] theorem channel_mapChannel (t : Turn) (f : Channel → Channel) :
    (t.mapChannel f).channel = f t.channel := rfl

@[simp] theorem account_mapChannel (t : Turn) (f : Channel → Channel) :
    (t.mapChannel f).account = t.account := rfl

@[simp] theorem account_record (t : Turn) (notices : List Notice) :
    (t.record notices).account = t.account ++ notices := rfl

theorem alike_setSignal (t : Turn) (slot : Slot) (signal : Bool) :
    Alike t (t.mapChannel (·.setSignal slot signal)) :=
  ⟨rfl, rfl, rfl, t.channel.roster_modify slot _ (fun _ => rfl) fun _ => rfl,
    fun d => by cases d <;> rfl, rfl, rfl⟩

theorem alike_setNonBlocking (t : Turn) (slot : Slot) (nonBlocking : Bool) :
    Alike t (t.setNonBlocking slot nonBlocking) :=
  ⟨rfl, rfl, rfl, t.channel.roster_modify slot _ (fun _ => rfl) fun _ => rfl,
    fun d => by cases d <;> rfl, rfl, rfl⟩

theorem alike_publish (t : Turn) (e : WriteEvent) : Alike t (t.mapChannel (publish · e)) :=
  ⟨rfl, rfl, rfl, rfl, fun d => by cases d <;> rfl, rfl, rfl⟩

theorem alike_poll (t : Turn) (waker : Option Waker) : Alike t (t.poll waker).1 := by
  cases waker with
  | none => exact ⟨rfl, rfl, rfl, rfl, fun _ => rfl, rfl, rfl⟩
  | some w =>
    refine ⟨rfl, rfl, rfl, rfl, fun d => ?_, rfl, rfl⟩
    cases d <;> exact WaitQueue.sleepers_register _ w

theorem alike_subscribe (t : Turn) : Alike t t.subscribe.1 :=
  ⟨rfl, rfl, rfl, rfl, fun d => by cases d <;> rfl, rfl, rfl⟩

theorem alike_unsubscribe (t : Turn) (feed : Nat) : Alike t (t.unsubscribe feed) :=
  ⟨rfl, rfl, rfl, rfl, fun d => by cases d <;> rfl, rfl, rfl⟩

theorem alike_receive (t : Turn) (feed : Nat) : Alike t (t.receive feed).1 := by
  unfold receive
  split
  · exact ⟨rfl, rfl, rfl, rfl, fun _ => rfl, rfl, rfl⟩
  · exact ⟨rfl, rfl, rfl, rfl, fun d => by cases d <;> rfl, rfl, rfl⟩

/-! ## Waking and sleeping -/

@[simp] theorem ring_wakeOne (t : Turn) (d : Direction) :
    (t.wakeOne d).channel.ring = t.channel.ring :=
  Channel.ring_setQueue _ _ d

@[simp] theorem readers_wakeOne (t : Turn) (d : Direction) :
    (t.wakeOne d).channel.readers = t.channel.readers :=
  Channel.readers_setQueue _ _ d

@[simp] theorem writers_wakeOne (t : Turn) (d : Direction) :
    (t.wakeOne d).channel.writers = t.channel.writers :=
  Channel.writers_setQueue _ _ d

@[simp] theorem roster_wakeOne (t : Turn) (d : Direction) :
    (t.wakeOne d).channel.roster = t.channel.roster :=
  Channel.roster_setQueue _ _ d

theorem sleepers_wakeOne (t : Turn) (d e : Direction) :
    (t.wakeOne d).channel.sleepers e
      = if e = d then (t.channel.sleepers d).tail else t.channel.sleepers e :=
  Channel.sleepers_setQueue _ _ d e

theorem woken_wakeOne (t : Turn) (d : Direction) :
    (t.wakeOne d).woken = t.woken ++ (t.channel.sleepers d).take 1 := rfl

/-- A wake-up notes the wakers it wakes and nothing else. -/
theorem account_wakeOne (t : Turn) (d : Direction) :
    ∃ wakers : List Waker, (t.wakeOne d).account = t.account ++ wakers.map .woke :=
  ⟨_, rfl⟩

@[simp] theorem ring_wakeAll (t : Turn) (d : Direction) :
    (t.wakeAll d).channel.ring = t.channel.ring :=
  Channel.ring_setQueue _ _ d

@[simp] theorem readers_wakeAll (t : Turn) (d : Direction) :
    (t.wakeAll d).channel.readers = t.channel.readers :=
  Channel.readers_setQueue _ _ d

@[simp] theorem writers_wakeAll (t : Turn) (d : Direction) :
    (t.wakeAll d).channel.writers = t.channel.writers :=
  Channel.writers_setQueue _ _ d

@[simp] theorem roster_wakeAll (t : Turn) (d : Direction) :
    (t.wakeAll d).channel.roster = t.channel.roster :=
  Channel.roster_setQueue _ _ d

theorem sleepers_wakeAll (t : Turn) (d e : Direction) :
    (t.wakeAll d).channel.sleepers e = if e = d then [] else t.channel.sleepers e :=
  Channel.sleepers_setQueue _ _ d e

theorem woken_wakeAll (t : Turn) (d : Direction) :
    (t.wakeAll d).woken = t.woken ++ t.channel.sleepers d := rfl

theorem account_wakeAll (t : Turn) (d : Direction) :
    ∃ wakers : List Waker, (t.wakeAll d).account = t.account ++ wakers.map .woke :=
  ⟨_, rfl⟩

/-- An interrupt notes the wakers it wakes and nothing else. -/
theorem account_interrupt (t : Turn) (slot : Slot) :
    ∃ wakers : List Waker, (t.interrupt slot).account = t.account ++ wakers.map .woke := by
  obtain ⟨readers, woke⟩ := account_wakeAll (t.mapChannel (·.setSignal slot true)) .reading
  obtain ⟨writers, also⟩ :=
    account_wakeAll ((t.mapChannel (·.setSignal slot true)).wakeAll .reading) .writing
  refine ⟨readers ++ writers, ?_⟩
  rw [interrupt, also, woke, List.append_assoc, ← List.map_append]
  rfl

theorem ring_interrupt (t : Turn) (slot : Slot) :
    (t.interrupt slot).channel.ring = t.channel.ring := by
  rw [interrupt, ring_wakeAll, ring_wakeAll]
  rfl

@[simp] theorem ring_sleep (t : Turn) (c : Call) : (t.sleep c).channel.ring = t.channel.ring :=
  Channel.ring_setQueue _ _ _

@[simp] theorem readers_sleep (t : Turn) (c : Call) :
    (t.sleep c).channel.readers = t.channel.readers :=
  Channel.readers_setQueue _ _ _

@[simp] theorem writers_sleep (t : Turn) (c : Call) :
    (t.sleep c).channel.writers = t.channel.writers :=
  Channel.writers_setQueue _ _ _

@[simp] theorem roster_sleep (t : Turn) (c : Call) :
    (t.sleep c).channel.roster = t.channel.roster :=
  Channel.roster_setQueue _ _ _

theorem sleepers_sleep (t : Turn) (c : Call) (e : Direction) :
    (t.sleep c).channel.sleepers e
      = if e = c.direction then t.channel.sleepers c.direction ++ [c] else t.channel.sleepers e :=
  Channel.sleepers_setQueue _ _ _ e

@[simp] theorem woken_sleep (t : Turn) (c : Call) : (t.sleep c).woken = t.woken := rfl

@[simp] theorem account_sleep (t : Turn) (c : Call) :
    (t.sleep c).account = t.account ++ [.slept c] := rfl

/-! ## Ending a session -/

theorem sessions_releaseCounts (t : Turn) (slot : Slot) (mode : AccessMode) :
    (t.releaseCounts slot mode).channel.sessions = t.channel.sessions := by
  unfold releaseCounts
  dsimp only
  split <;> rfl

theorem roster_markClosed_ne (t : Turn) {slot other : Slot} (ne : slot ≠ other) :
    (t.markClosed slot).channel.roster[other]? = t.channel.roster[other]? := by
  simp only [markClosed, Channel.roster, channel_mapChannel, List.getElem?_map,
    List.getElem?_modify, if_neg ne]
  cases t.channel.sessions[other]? <;> rfl

theorem roster_releaseCounts (t : Turn) (slot : Slot) (mode : AccessMode) :
    (t.releaseCounts slot mode).channel.roster = t.channel.roster := by
  rw [Channel.roster, sessions_releaseCounts, Channel.roster]

theorem sleepers_releaseCounts (t : Turn) (slot : Slot) (mode : AccessMode) (d : Direction) :
    (t.releaseCounts slot mode).channel.sleepers d = t.channel.sleepers d := by
  unfold releaseCounts
  dsimp only
  split <;> cases d <;> rfl

theorem woken_releaseCounts (t : Turn) (slot : Slot) (mode : AccessMode) :
    (t.releaseCounts slot mode).woken = t.woken := by
  unfold releaseCounts
  dsimp only
  split <;> rfl

/-! ## Calls that run -/

/-- A transfer up to its wake-up. -/
def served (t : Turn) (c : Call) : Turn :=
  let (moved, ring) := t.channel.ring.serve c.request
  (t.mapChannel ({ · with ring })).record [.ended c (.ok moved)]

/-- A transfer up to the notices to subscribers. -/
def moving (t : Turn) (c : Call) : Turn :=
  (t.served c).wakeOne c.direction.opposite

theorem account_served (t : Turn) (c : Call) :
    (t.served c).account = t.account ++ [.ended c (.ok (t.channel.ring.serve c.request).1)] := rfl

theorem ring_served (t : Turn) (c : Call) :
    (t.served c).channel.ring = (t.channel.ring.serve c.request).2 := rfl

theorem sleepers_served (t : Turn) (c : Call) (d : Direction) :
    (t.served c).channel.sleepers d = t.channel.sleepers d := by
  cases d <;> rfl

theorem alike_transfer (t : Turn) (c : Call) : Alike (t.moving c) (t.transfer c).1 := by
  obtain ⟨ticket, slot, request⟩ := c
  cases request with
  | read length => exact ⟨rfl, rfl, rfl, rfl, fun _ => rfl, rfl, rfl⟩
  | write data => exact alike_publish _ _

/-- A transfer tells of its call, then of the wakers it wakes. -/
theorem account_transfer (t : Turn) (c : Call) :
    ∃ wakers : List Waker, (t.transfer c).1.account
      = t.account ++ .ended c (.ok (t.channel.ring.serve c.request).1) :: wakers.map .woke := by
  obtain ⟨wakers, account⟩ := account_wakeOne (t.served c) c.direction.opposite
  rw [account_served, List.append_assoc] at account
  exact ⟨wakers, (alike_transfer t c).account.trans account⟩

theorem sleepers_transfer (t : Turn) (c : Call) (d : Direction) :
    (t.transfer c).1.channel.sleepers d
      = if d = c.direction.opposite then (t.channel.sleepers c.direction.opposite).tail
        else t.channel.sleepers d := by
  rw [(alike_transfer t c).sleepers, moving, sleepers_wakeOne, sleepers_served, sleepers_served]

theorem woken_transfer (t : Turn) (c : Call) :
    (t.transfer c).1.woken = t.woken ++ (t.channel.sleepers c.direction.opposite).take 1 := by
  rw [(alike_transfer t c).woken, moving, woken_wakeOne, sleepers_served]
  rfl

/-- A call that takes its session's signal and comes back with it. -/
def cutShort (t : Turn) (c : Call) : Turn :=
  (t.mapChannel (·.setSignal c.slot false)).record [.ended c (.error .interrupted)]

theorem ring_cutShort (t : Turn) (c : Call) :
    (t.cutShort c).channel.ring = t.channel.ring := rfl

theorem account_cutShort (t : Turn) (c : Call) :
    (t.cutShort c).account = t.account ++ [.ended c (.error .interrupted)] := rfl

/-- A call that passes a wake-up on tells of itself, then of the wakers it wakes. -/
theorem account_passedOn (t : Turn) (c : Call) :
    ∃ wakers : List Waker, ((t.cutShort c).wakeOne c.direction).account
      = t.account ++ .ended c (.error .interrupted) :: wakers.map .woke := by
  obtain ⟨wakers, account⟩ := account_wakeOne (t.cutShort c) c.direction
  rw [account_cutShort, List.append_assoc] at account
  exact ⟨wakers, account⟩

theorem sleepers_cutShort (t : Turn) (c : Call) (d : Direction) :
    (t.cutShort c).channel.sleepers d = t.channel.sleepers d := by
  cases d <;> rfl

theorem resume_of_signal {t : Turn} {c : Call} (signal : t.channel.hasSignal c.slot = true) :
    t.resume c =
      if t.channel.ready c.direction then (t.cutShort c).wakeOne c.direction else t.cutShort c := by
  rw [resume, if_pos signal]
  rfl

/-- What becomes of a turn when a call that may go on does so. -/
inductive Ran (t : Turn) (c : Call) : Turn → Prop where
  | interrupted (unready : t.channel.ready c.direction = false) : Ran t c (t.cutShort c)
  | passedOn (ready : t.channel.ready c.direction = true) :
    Ran t c ((t.cutShort c).wakeOne c.direction)
  | moved (fits : t.channel.Fits c) (ready : t.channel.ready c.direction = true) :
    Ran t c (t.transfer c).1
  | slept (fits : t.channel.Fits c) (unready : t.channel.ready c.direction = false) :
    Ran t c (t.sleep c)

/-- What becomes of a turn when a call arrives. -/
inductive Arrived (t : Turn) (c : Call) : Turn → Prop where
  | refused : Arrived t c t
  | failed (e : ChannelError) : Arrived t c (t.record [.ended c (.error e)])
  | answered (trivial : c.request.isTrivial = true) :
    Arrived t c (t.record [.ended c (.ok c.request.trivialAnswer)])
  | ran {u : Turn} (ran : Ran t c u) : Arrived t c u

/-- How a call that arrives comes out, and why. -/
inductive Verdict (t : Turn) (c : Call) (mayBlock : Bool) : Turn × Progress → Prop where
  | refused (closed : t.channel.openSession? c.slot = none) : Verdict t c mayBlock (t, .refused)
  | denied (s : Session) (found : t.channel.openSession? c.slot = some s)
    (forbidden : s.mode.permits c.direction = false) :
    Verdict t c mayBlock (t.finish c (.error .badAccess))
  | answered (s : Session) (found : t.channel.openSession? c.slot = some s)
    (permitted : s.mode.permits c.direction = true) (trivial : c.request.isTrivial = true) :
    Verdict t c mayBlock (t.finish c (.ok c.request.trivialAnswer))
  | moved (fits : t.channel.Fits c) (ready : t.channel.ready c.direction = true) :
    Verdict t c mayBlock (t.transfer c)
  | turnedAway (fits : t.channel.Fits c) (unready : t.channel.ready c.direction = false)
    (impatient : mayBlock = false) : Verdict t c mayBlock (t.finish c (.error .wouldBlock))
  | cutShort (fits : t.channel.Fits c) (unready : t.channel.ready c.direction = false)
    (blocks : mayBlock = true) (pending : t.channel.hasSignal c.slot = true) :
    Verdict t c mayBlock (t.cutShort c, .ended (.error .interrupted))
  | slept (fits : t.channel.Fits c) (unready : t.channel.ready c.direction = false)
    (blocks : mayBlock = true) (silent : t.channel.hasSignal c.slot = false) :
    Verdict t c mayBlock (t.sleep c, .asleep)

theorem verdict_arrive (t : Turn) (c : Call) (mayBlock : Bool) :
    Verdict t c mayBlock (t.arrive c mayBlock) := by
  unfold arrive
  split
  · rename_i closed
    exact .refused closed
  · rename_i s found
    split
    · rename_i forbidden
      exact .denied s found (by simpa using forbidden)
    · rename_i permitted
      have permits : s.mode.permits c.direction = true := by simpa using permitted
      split
      · rename_i trivial
        exact .answered s found permits trivial
      · rename_i nontrivial
        have fits : t.channel.Fits c :=
          ⟨⟨s.mode, Channel.roster_of_openSession? found, permits⟩, by simpa using nontrivial⟩
        split
        · rename_i ready
          exact .moved fits ready
        · rename_i notReady
          have unready : t.channel.ready c.direction = false := by simpa using notReady
          split
          · rename_i impatient
            exact .turnedAway fits unready (by simpa using impatient)
          · rename_i blocking
            have blocks : mayBlock = true := by simpa using blocking
            have signal := Channel.hasSignal_of_openSession? found
            split
            · rename_i pending
              exact .cutShort fits unready blocks (signal.trans pending)
            · rename_i silent
              exact .slept fits unready blocks (signal.trans (by simpa using silent))

theorem arrived_arrive (t : Turn) (c : Call) (mayBlock : Bool) :
    Arrived t c (t.arrive c mayBlock).1 := by
  have verdict := verdict_arrive t c mayBlock
  generalize t.arrive c mayBlock = result at verdict
  cases verdict with
  | refused closed => exact .refused
  | denied s found forbidden => exact .failed .badAccess
  | answered s found permitted trivial => exact .answered trivial
  | moved fits ready => exact .ran (.moved fits ready)
  | turnedAway fits unready impatient => exact .failed .wouldBlock
  | cutShort fits unready blocks pending => exact .ran (.interrupted unready)
  | slept fits unready blocks silent => exact .ran (.slept fits unready)

theorem ran_resume {t : Turn} {c : Call} (fits : t.channel.Fits c) : Ran t c (t.resume c) := by
  cases signal : t.channel.hasSignal c.slot with
  | true =>
    rw [resume_of_signal signal]
    split
    · rename_i ready
      exact .passedOn ready
    · rename_i unready
      exact .interrupted (by simpa using unready)
  | false =>
    rw [resume, signal, if_neg Bool.false_ne_true]
    split
    · rename_i ready
      exact .moved fits ready
    · rename_i unready
      exact .slept fits (by simpa using unready)

end Turn

end BytePipe
