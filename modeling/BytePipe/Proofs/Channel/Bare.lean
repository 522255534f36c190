import BytePipe.Channel.Status
import BytePipe.Proofs.Channel.Endings
import BytePipe.Proofs.Channel.Events

/-!
A channel without its observers. `bare f` drops subscriptions and the wakers that go by name, and
renumbers tickets by `f`; the wakers of tasks stay. Nothing that a channel does depends on what is
dropped or on the numbers, so every operation comes to the same on the bare channel
(`bare_perform`), and one that only observes leaves the bare channel as it was
(`bare_perform_of_observes`).
-/
namespace BytePipe

variable {f : Nat → Nat}

def Call.relabel (f : Nat → Nat) (c : Call) : Call :=
  { c with ticket := f c.ticket }

def Waker.bare? (f : Nat → Nat) : Waker → Option Waker
  | .named _ => none
  | .task ticket => some (.task (f ticket))

def WaitQueue.bare (f : Nat → Nat) (q : WaitQueue) : WaitQueue :=
  ⟨q.sleepers.map (Call.relabel f), q.observers.filterMap (Waker.bare? f)⟩

def Channel.bare (f : Nat → Nat) (ch : Channel) : Channel :=
  { ch with readQueue := ch.readQueue.bare f, writeQueue := ch.writeQueue.bare f, feeds := [] }

def Notice.bare? (f : Nat → Nat) : Notice → Option Notice
  | .ended c result => some (.ended (c.relabel f) result)
  | .slept c => some (.slept (c.relabel f))
  | .woke w => (w.bare? f).map .woke
  | n => some n

def Turn.bare (f : Nat → Nat) (t : Turn) : Turn :=
  ⟨t.channel.bare f, t.woken.map (Call.relabel f), t.account.filterMap (Notice.bare? f)⟩

/-- The operation with its call renumbered, and without a waker that goes by name. -/
def Operation.relabel (f : Nat → Nat) : Operation → Operation
  | .call c => .call (c.relabel f)
  | .tryCall c => .tryCall (c.relabel f)
  | .poll slot waker => .poll slot (waker.bind (Waker.bare? f))
  | op => op

/-- Operations that only observe: looks at the readiness that leave at most a waker with a name, and
all that is about subscriptions. -/
def Operation.observes : Operation → Bool
  | .poll _ none => true
  | .poll _ (some (.named _)) => true
  | op => op.subscribes

@[simp] theorem Call.request_relabel (c : Call) : (c.relabel f).request = c.request := rfl

@[simp] theorem Call.slot_relabel (c : Call) : (c.relabel f).slot = c.slot := rfl

@[simp] theorem Call.direction_relabel (c : Call) : (c.relabel f).direction = c.direction := rfl

@[simp] theorem Call.ticket_relabel (c : Call) : (c.relabel f).ticket = f c.ticket := rfl

/-- Notices of wakers that are dropped are dropped as well. -/
theorem filterMap_bare?_woke (wakers : List Waker) :
    (wakers.map .woke).filterMap (Notice.bare? f) = (wakers.filterMap (Waker.bare? f)).map .woke := by
  rw [List.filterMap_map, List.map_filterMap]
  rfl

namespace WaitQueue

@[simp] theorem bare_empty : WaitQueue.empty.bare f = .empty := rfl

@[simp] theorem bare_enqueue (q : WaitQueue) (c : Call) :
    (q.enqueue c).bare f = (q.bare f).enqueue (c.relabel f) := by
  simp [bare, enqueue]

@[simp] theorem bare_afterOne (q : WaitQueue) : q.afterOne.bare f = (q.bare f).afterOne := by
  simp [bare, afterOne]

theorem mem_bare_iff (inj : Function.Injective f) (q : WaitQueue) (ticket : Nat) :
    .task (f ticket) ∈ (q.bare f).observers ↔ .task ticket ∈ q.observers := by
  constructor
  · intro member
    obtain ⟨w, registered, kept⟩ := List.mem_filterMap.mp member
    cases w with
    | named name => cases kept
    | task other =>
      have same : f other = f ticket := by simpa [Waker.bare?] using kept
      exact inj same ▸ registered
  · exact fun registered => List.mem_filterMap.mpr ⟨_, registered, rfl⟩

theorem bare_register (inj : Function.Injective f) (q : WaitQueue) (w : Waker) :
    (q.register w).bare f = (w.bare? f).elim (q.bare f) (q.bare f).register := by
  unfold register
  cases w with
  | named name =>
    split
    · rfl
    · simp [bare, Waker.bare?]
  | task ticket =>
    have member := mem_bare_iff inj q ticket
    split
    · rename_i registered
      simp [Waker.bare?, member, registered]
    · rename_i absent
      simp [Waker.bare?, member, absent]
      simp [bare, Waker.bare?]

end WaitQueue

namespace Channel

variable (ch : Channel)

@[simp] theorem ring_bare : (ch.bare f).ring = ch.ring := rfl

@[simp] theorem sessions_bare : (ch.bare f).sessions = ch.sessions := rfl

@[simp] theorem queue_bare (d : Direction) : (ch.bare f).queue d = (ch.queue d).bare f := by
  cases d <;> rfl

@[simp] theorem bare_setQueue (q : WaitQueue) (d : Direction) :
    (ch.setQueue q d).bare f = (ch.bare f).setQueue (q.bare f) d := by
  cases d <;> rfl

@[simp] theorem ready_bare (d : Direction) : (ch.bare f).ready d = ch.ready d := by
  cases d <;> rfl

@[simp] theorem openSession?_bare (slot : Slot) :
    (ch.bare f).openSession? slot = ch.openSession? slot := rfl

@[simp] theorem hasSignal_bare (slot : Slot) : (ch.bare f).hasSignal slot = ch.hasSignal slot := rfl

@[simp] theorem isWaiting_bare (slot : Slot) :
    (ch.bare f).isWaiting slot = ch.isWaiting slot := by
  simp [isWaiting, bare, WaitQueue.bare, Function.comp_def]

@[simp] theorem asleep_bare : (ch.bare f).asleep = ch.asleep := by
  simp [asleep, bare, WaitQueue.bare]

@[simp] theorem status_bare : (ch.bare f).status = ch.status := by
  simp only [status, bare, WaitQueue.bare, List.length_map]
  rfl

@[simp] theorem bare_named (name : String) (capacity : Nat) :
    (named name capacity).bare f = named name capacity := rfl

end Channel

namespace Turn

variable (t : Turn) (c : Call)

@[simp] theorem channel_bare : (t.bare f).channel = t.channel.bare f := rfl

@[simp] theorem bare_start (ch : Channel) : (start ch).bare f = start (ch.bare f) := rfl

@[simp] theorem bare_record (notices : List Notice) :
    (t.record notices).bare f = (t.bare f).record (notices.filterMap (Notice.bare? f)) := by
  simp [bare, record]

@[simp] theorem bare_wakeOne (d : Direction) : (t.wakeOne d).bare f = (t.bare f).wakeOne d := by
  simp only [bare, wakeOne, Channel.bare_setQueue, Channel.queue_bare, WaitQueue.bare_afterOne,
    List.map_append, List.map_take, List.filterMap_append, filterMap_bare?_woke]
  rfl

@[simp] theorem bare_wakeAll (d : Direction) : (t.wakeAll d).bare f = (t.bare f).wakeAll d := by
  simp only [bare, wakeAll, Channel.bare_setQueue, Channel.queue_bare, WaitQueue.bare_empty,
    List.map_append, List.filterMap_append, filterMap_bare?_woke]
  rfl

@[simp] theorem bare_sleep : (t.sleep c).bare f = (t.bare f).sleep (c.relabel f) := by
  simp [sleep, mapChannel, record, bare, Notice.bare?]

@[simp] theorem bare_finish (result : CallResult) :
    (t.bare f).finish (c.relabel f) result
      = ((t.finish c result).1.bare f, (t.finish c result).2) := by
  simp [finish, Notice.bare?]

/-- There is no subscription that a notice could go to. -/
@[simp] theorem bare_publish (e : WriteEvent) :
    (t.mapChannel (publish · e)).bare f = (t.bare f).mapChannel (publish · e) := rfl

@[simp] theorem bare_transfer :
    (t.bare f).transfer (c.relabel f) = ((t.transfer c).1.bare f, (t.transfer c).2) := by
  obtain ⟨ticket, slot, request⟩ := c
  cases request with
  | read length =>
    have served : ((t.bare f).mapChannel ({ · with ring := (t.channel.ring.take length).2 }))
        = (t.mapChannel ({ · with ring := (t.channel.ring.take length).2 })).bare f := rfl
    simp [transfer, served]
  | write data =>
    have served : ((t.bare f).mapChannel ({ · with ring := (t.channel.ring.put data).2 }))
        = (t.mapChannel ({ · with ring := (t.channel.ring.put data).2 })).bare f := rfl
    simp [transfer, served]

@[simp] theorem bare_arrive (mayBlock : Bool) :
    (t.bare f).arrive (c.relabel f) mayBlock
      = ((t.arrive c mayBlock).1.bare f, (t.arrive c mayBlock).2) := by
  have signalled : (t.bare f).mapChannel (·.setSignal c.slot false)
      = (t.mapChannel (·.setSignal c.slot false)).bare f := rfl
  simp only [arrive, channel_bare, Channel.openSession?_bare, Channel.ready_bare,
    Call.slot_relabel, Call.direction_relabel, Call.request_relabel, signalled]
  cases t.channel.openSession? c.slot with
  | none => rfl
  | some session =>
    dsimp only
    repeat' split
    all_goals simp [finish, Notice.bare?]

@[simp] theorem bare_resume : (t.resume c).bare f = (t.bare f).resume (c.relabel f) := by
  have signalled : (t.bare f).mapChannel (·.setSignal c.slot false)
      = (t.mapChannel (·.setSignal c.slot false)).bare f := rfl
  simp only [resume, channel_bare, Channel.hasSignal_bare, Channel.ready_bare, Call.slot_relabel,
    Call.direction_relabel, signalled, bare_finish, bare_transfer]
  repeat' split
  all_goals simp

theorem bare_runNext : t.runNext.bare f = (t.bare f).runNext := by
  unfold runNext
  cases woken : t.woken with
  | nil =>
    have none : (t.bare f).woken = [] := by simp [bare, woken]
    simp [none]
  | cons c rest =>
    have some : (t.bare f).woken = c.relabel f :: rest.map (Call.relabel f) := by
      simp [bare, woken]
    simp [some]
    rfl

@[simp] theorem pendingRuns_bare : (t.bare f).pendingRuns = t.pendingRuns := by
  simp [pendingRuns, bare]

theorem bare_runWoken (fuel : Nat) : (t.runWoken fuel).bare f = (t.bare f).runWoken fuel := by
  induction fuel generalizing t with
  | zero => rfl
  | succ fuel ih =>
    have empty : (t.bare f).woken.isEmpty = t.woken.isEmpty := by simp [bare]
    rw [runWoken, runWoken, empty]
    split
    · rfl
    · rw [ih, bare_runNext]

@[simp] theorem bare_settle : t.settle.bare f = (t.bare f).settle := by
  rw [settle, settle, pendingRuns_bare, bare_runWoken]

/-! ## Operations -/

theorem bare_openSession (memory : Memory) (mode : AccessMode) (nonBlocking : Bool) :
    (t.bare f).openSession memory mode nonBlocking
      = ((t.openSession memory mode nonBlocking).1.bare f,
        (t.openSession memory mode nonBlocking).2) := by
  have joined (u : Turn) : (u.bare f).join mode nonBlocking = (u.join mode nonBlocking).bare f := rfl
  cases allocated : t.channel.ring.isAllocated with
  | true => simp [openSession, allocated, joined]
  | false =>
    cases granted : t.channel.ring.allocate memory with
    | error e => simp [openSession, allocated, granted]
    | ok ring =>
      have stored : ((t.bare f).mapChannel ({ · with ring })).record [.allocated]
          = ((t.mapChannel ({ · with ring })).record [.allocated]).bare f := by
        simp [Notice.bare?]
        rfl
      simp only [openSession, channel_bare, Channel.ring_bare, Channel.sessions_bare, allocated,
        granted, stored, joined, Bool.false_eq_true, if_false]

theorem bare_releaseCounts (slot : Slot) (mode : AccessMode) :
    (t.releaseCounts slot mode).bare f = (t.bare f).releaseCounts slot mode := by
  have counted : ((t.mapChannel (countModeOut mode)).record [.countedOut slot]).bare f
      = ((t.bare f).mapChannel (countModeOut mode)).record [.countedOut slot] := by
    simp [Notice.bare?]
    rfl
  unfold releaseCounts
  rw [← counted]
  generalize (t.mapChannel (countModeOut mode)).record [.countedOut slot] = u
  have same : (u.bare f).channel.readers + (u.bare f).channel.writers
      = u.channel.readers + u.channel.writers := rfl
  dsimp only
  rw [same]
  split
  · simp [Notice.bare?]
    rfl
  · rfl

theorem bare_letGo (slot : Slot) : (t.letGo slot).bare f = (t.bare f).letGo slot := by
  unfold letGo
  rw [channel_bare, Channel.openSession?_bare]
  cases t.channel.openSession? slot with
  | none => rfl
  | some session =>
    have closed : (t.bare f).markClosed slot = (t.markClosed slot).bare f := rfl
    simp [closed, bare_releaseCounts]

theorem endable?_bare (slot : Slot) : (t.bare f).endable? slot = t.endable? slot := by
  simp [endable?]

theorem bare_closeSession (slot : Slot) :
    (t.bare f).closeSession slot = ((t.closeSession slot).1.bare f, (t.closeSession slot).2) := by
  unfold closeSession
  rw [endable?_bare]
  cases t.endable? slot with
  | none => rfl
  | some session =>
    have closed : (t.bare f).markClosed slot = (t.markClosed slot).bare f := rfl
    simp [closed, bare_releaseCounts, bare_letGo]

theorem bare_dropSession (slot : Slot) :
    (t.bare f).dropSession slot = ((t.dropSession slot).1.bare f, (t.dropSession slot).2) := by
  unfold dropSession
  rw [endable?_bare]
  cases t.endable? slot with
  | none => rfl
  | some session => simp [bare_letGo]

theorem bare_call :
    (t.bare f).call (c.relabel f) = ((t.call c).1.bare f, (t.call c).2) :=
  bare_arrive t c _

theorem bare_tryCall :
    (t.bare f).tryCall (c.relabel f) = ((t.tryCall c).1.bare f, (t.tryCall c).2) :=
  bare_arrive t c false

theorem bare_poll (inj : Function.Injective f) (waker : Option Waker) :
    (t.bare f).poll (waker.bind (Waker.bare? f)) = ((t.poll waker).1.bare f, (t.poll waker).2) := by
  cases waker with
  | none => rfl
  | some w =>
    have reads := WaitQueue.bare_register inj t.channel.readQueue w
    have writes := WaitQueue.bare_register inj t.channel.writeQueue w
    have registered : (t.poll (some w)).1.bare f
        = { t.bare f with channel :=
            { t.channel.bare f with
              readQueue := (t.channel.readQueue.register w).bare f
              writeQueue := (t.channel.writeQueue.register w).bare f } } := rfl
    rw [registered, reads, writes]
    cases w with
    | named name => rfl
    | task ticket => rfl

theorem bare_interrupt (slot : Slot) : (t.interrupt slot).bare f = (t.bare f).interrupt slot := by
  have signalled : (t.mapChannel (·.setSignal slot true)).bare f
      = (t.bare f).mapChannel (·.setSignal slot true) := rfl
  simp [interrupt, signalled]

/-- An operation that is not about subscriptions comes to the same on the bare channel. -/
theorem bare_apply (inj : Function.Injective f) (memory : Memory) {op : Operation}
    (other : op.subscribes = false) :
    (op.relabel f).apply memory (t.bare f)
      = ((op.apply memory t).1.bare f, (op.apply memory t).2) := by
  cases op with
  | openSession mode nonBlocking =>
    simp only [Operation.relabel, Operation.apply, bare_openSession]
    obtain ⟨u, slot | e⟩ := t.openSession memory mode nonBlocking
    · rfl
    · rfl
  | closeSession slot => simp [Operation.relabel, Operation.apply, bare_closeSession]
  | dropSession slot => simp [Operation.relabel, Operation.apply, bare_dropSession]
  | setNonBlocking slot nonBlocking => rfl
  | call c => simp [Operation.relabel, Operation.apply, bare_call]
  | tryCall c => simp [Operation.relabel, Operation.apply, bare_tryCall]
  | poll slot waker =>
    simp only [Operation.relabel, Operation.apply, channel_bare, Channel.openSession?_bare,
      bare_poll t inj]
    split
    · rfl
    · rfl
  | interrupt slot => simp [Operation.relabel, Operation.apply, bare_interrupt]
  | subscribe => contradiction
  | unsubscribe feed => contradiction
  | receive feed => contradiction

theorem alike_of_observes (memory : Memory) {op : Operation} (observes : op.observes = true) :
    Alike t (op.apply memory t).1 := by
  cases op with
  | poll slot waker =>
    rw [Operation.apply]
    split
    · exact alike_poll t waker
    · exact .refl t
  | _ => exact alike_of_subscribes memory t observes

/-- An operation that only observes leaves the bare channel as it was. -/
theorem bare_apply_of_observes (inj : Function.Injective f) (memory : Memory) {op : Operation}
    (observes : op.observes = true) : (op.apply memory t).1.bare f = t.bare f := by
  cases op with
  | poll slot waker =>
    have dropped : waker.bind (Waker.bare? f) = none := by
      cases waker with
      | none => rfl
      | some w =>
        cases w with
        | named name => rfl
        | task ticket => contradiction
    have looked : ((Operation.poll slot none).apply memory (t.bare f)).1 = t.bare f := by
      rw [Operation.apply]
      split <;> rfl
    have other : (Operation.poll slot waker).subscribes = false := rfl
    have applied := bare_apply t inj memory other
    rw [Operation.relabel, dropped] at applied
    rwa [applied] at looked
  | subscribe => rfl
  | unsubscribe feed => rfl
  | receive feed =>
    simp only [Operation.apply, receive]
    split
    · rfl
    · rfl
  | _ => contradiction

end Turn

namespace Channel

variable (memory : Memory) (ch : Channel) {op : Operation}

/-- Without its observers a channel does the same. -/
theorem bare_perform (inj : Function.Injective f) (other : op.subscribes = false) :
    (ch.bare f).perform memory (op.relabel f)
      = ((ch.perform memory op).1.bare f, (ch.perform memory op).2.1,
        (ch.perform memory op).2.2.filterMap (Notice.bare? f)) := by
  have applied := Turn.bare_apply (.start ch) inj memory other
  rw [Turn.bare_start] at applied
  simp only [perform, applied, ← Turn.bare_settle]
  rfl

theorem bare_perform_of_observes (inj : Function.Injective f) (observes : op.observes = true) :
    (ch.perform memory op).1.bare f = ch.bare f ∧ (ch.perform memory op).2.2 = [] := by
  have alike := Turn.alike_of_observes (.start ch) memory observes
  have same := Turn.bare_apply_of_observes (.start ch) inj memory observes
  rw [perform_of_settled alike.woken]
  exact ⟨congrArg Turn.channel same, alike.account⟩

end Channel

end BytePipe
