import BytePipe.Proofs.Channel.OneShot
import BytePipe.Proofs.Task.Polling
import BytePipe.Scenario.Run

/-!
Wakers that are registered by polls of tasks. A poll of a task is, on every channel, a run of polls
with the task's waker and of calls that never sleep (`Poller.registers_own_waker`), so what holds of
all runs of a channel holds of those that tasks take part in (`wakers_are_one_shot`).
-/
namespace BytePipe

namespace Turn

variable {memory : Memory} {t u : Turn} {asked : List (Operation × Outcome)}
  {gone : List (Direction × Waker)}

theorem Unfolds.runs {v : Turn} (unfolds : Unfolds memory t asked gone u) (runs : Runs u v) :
    ∃ more, Unfolds memory t asked (gone ++ more) v := by
  induction runs with
  | none => exact ⟨[], (List.append_nil gone).symm ▸ unfolds⟩
  | ran before earlier c later woken ih =>
    obtain ⟨more, after⟩ := ih
    have next := after.ran earlier c later woken
    rw [List.append_assoc] at next
    exact ⟨_, next⟩

/-- A whole operation continues the run of a settled channel. -/
theorem Unfolds.perform (unfolds : Unfolds memory t asked gone u) (settled : u.woken = [])
    (op : Operation) :
    ∃ more v, Unfolds memory t (asked ++ [(op, (u.channel.perform memory op).2.1)]) (gone ++ more) v ∧
      v.woken = [] ∧ v.channel = (u.channel.perform memory op).1 ∧
      v.account = u.account ++ (u.channel.perform memory op).2.2 := by
  have same := settle_apply_of_settled memory op settled
  have outcome : (op.apply memory u).2 = (u.channel.perform memory op).2.1 := by
    rw [apply_of_settled memory op settled]
    rfl
  obtain ⟨more, after⟩ := (unfolds.operated op).runs (runs_settle _)
  rw [outcome, List.append_assoc] at after
  refine ⟨_, _, after, woken_settle _, ?_, ?_⟩ <;> rw [same] <;> rfl

end Turn

namespace Poller

/-- What has happened between two moments of a poll of a task, as far as channels are concerned: on
each of them, polls with the task's own waker and calls that never sleep. -/
def Registers (p q : Poller) : Prop :=
  q.waker = p.waker ∧ q.system.memory = p.system.memory ∧ ∃ later : History,
    q.account = p.account ++ later.map (·.2) ∧
    ∀ c ch, p.system.channels[c]? = some ch → ∃ u asked gone,
      Turn.Unfolds p.system.memory (.start ch) asked gone u ∧ u.woken = [] ∧
      q.system.channels[c]? = some u.channel ∧ u.account = later.on c ∧
      ∀ made ∈ asked, (∃ slot, made.1 = .poll slot (some p.waker)) ∨ ∃ call, made.1 = .tryCall call

theorem Registers.refl (p : Poller) : p.Registers p :=
  ⟨rfl, rfl, [], (List.append_nil _).symm, fun _ ch found =>
    ⟨.start ch, [], [], .here, rfl, found, rfl, nofun⟩⟩

/-- Where nothing has happened on any channel. -/
theorem Registers.same {p q after : Poller} (registers : p.Registers q)
    (system : after.system = q.system) (waker : after.waker = q.waker)
    (account : after.account = q.account) : p.Registers after := by
  rw [Registers, system, waker, account]
  exact registers

theorem Registers.perform {p q : Poller} (registers : p.Registers q) (e : Endpoint)
    {op : Operation} (does : q.Does e op) : p.Registers (q.perform e op).1 := by
  obtain ⟨waker, memory, later, account, channels⟩ := registers
  have own : (∃ slot, op = .poll slot (some p.waker)) ∨ ∃ call, op = .tryCall call := by
    cases does with
    | look => exact .inl ⟨_, by rw [waker]⟩
    | attempt request => exact .inr ⟨_, rfl⟩
  by_cases astray : e.via = e.session.channel → q.system.channels[e.session.channel]? = none
  · refine Registers.same ⟨waker, memory, later, account, channels⟩ ?_ rfl ?_ <;>
      by_cases via : e.via = e.session.channel
    · simp [Poller.perform, System.performVia, via, System.perform, astray via]
    · simp [Poller.perform, System.performVia, via]
    · simp [Poller.perform, System.performVia, via, System.perform, astray via]
    · simp [Poller.perform, System.performVia, via]
  · obtain ⟨via, target, here⟩ := found_of_not_astray astray
    rw [perform_of_found via here]
    refine ⟨waker, memory, later ++ (target.perform q.system.memory op).2.2.map
      (Prod.mk e.session.channel), ?_, fun c ch found => ?_⟩
    · simp [account, Function.comp_def]
    · obtain ⟨u, asked, gone, unfolds, settled, now, told, made⟩ := channels c ch found
      by_cases same : c = e.session.channel
      · subst same
        obtain rfl := Option.some.inj (now.symm.trans here)
        rw [memory]
        obtain ⟨more, v, after, still, channel, grown⟩ := unfolds.perform settled op
        refine ⟨v, _, _, after, still, ?_, ?_, fun other member => ?_⟩
        · rw [channel]
          exact List.getElem?_set_self (List.getElem?_eq_some_iff.mp here).1
        · rw [grown, told, History.on_append, History.on_tagged]
        · rcases List.mem_append.mp member with before | last
          · exact made other before
          · rw [List.mem_singleton.mp last]
            exact own
      · refine ⟨u, asked, gone, unfolds, settled, ?_, ?_, made⟩
        · rw [← now]
          exact List.getElem?_set_ne (Ne.symm same)
        · rw [History.on_append, History.on_tagged_ne _ (Ne.symm same), List.append_nil, told]

theorem registers_own_waker (p : Poller) (task : Task) : p.Registers (p.poll task).1 :=
  poll_keeps (fun _ e _ does registers => registers.perform e does) (Registers.refl p) task

end Poller

/-- The steps of a script that ask for the status of channels. -/
def Scenario.Step.asksStatus : Scenario.Step → Bool
  | .showStatus _ => true
  | .reportStatus _ => true
  | .reportDevices => true
  | .deviceStatuses => true
  | _ => false

/-- To ask for a status leaves everything as it is. -/
theorem Scenario.World.apply_of_asksStatus (w : World) (ticket : Nat) {step : Step}
    (asks : step.asksStatus = true) : (w.apply ticket step).1 = w := by
  have looked {α : Type} (found : Option α) (shown : α → Answer) :
      (w.given found fun a => w.answer (shown a)).1 = w := by
    cases found <;> rfl
  cases step <;> first | contradiction | exact looked _ _

/-- Wakers are one-shot. In whatever way a channel unfolds, no waker is ever registered twice on one
of its queues. From a poll with a waker that succeeds, through any run in which it is not polled with
so again: each waking is told because the waker has gone from one of the two queues, and from each it
has gone once at most. Once bytes have been moved in a direction, by whatever call, it has been woken
from the other side's queue; once a session has been interrupted, from both, and so exactly twice.
What moves no byte and interrupts nobody wakes nobody, nor does asking for a status. And on each
channel a poll of a task is a run of polls with its waker and of calls that never sleep. -/
theorem wakers_are_one_shot {memory : Memory} {name : String} {capacity : Nat}
    (positive : 0 < capacity) {first asked : List (Operation × Outcome)}
    {left gone : List (Direction × Waker)} {t u v : Turn} {slot : Slot} {w : Waker} {r : Readiness}
    (reached : Turn.Unfolds memory (.start (.named name capacity)) first left t)
    (polled : (Operation.poll slot (some w)).apply memory t = (u, .ready r))
    (later : Turn.Unfolds memory u asked gone v)
    (last : ∀ slot r, (.poll slot (some w), .ready r) ∉ asked) :
    (∀ d, (t.channel.observers d).Nodup ∧ (u.channel.observers d).Nodup ∧
      (v.channel.observers d).Nodup) ∧
    (∃ told, v.account = u.account ++ told ∧
      wakings told = gone.map (·.2) ∧
      timesWoken w told = gone.count (.reading, w) + gone.count (.writing, w) ∧
      (∀ d, gone.count (d, w) ≤ 1) ∧
      (∀ c moved, .ended c (.ok moved) ∈ told → moved.size ≠ 0 →
        gone.count (c.direction.opposite, w) = 1 ∧ 1 ≤ timesWoken w told) ∧
      (∀ other outcome, (.interrupt other, outcome) ∈ asked → timesWoken w told = 2)) ∧
    (∀ op : Operation, (∀ other, op ≠ .interrupt other) →
      (∀ moved, (op.apply memory v).2 = .transferred moved → moved.size = 0) →
      v.Hushed (op.apply memory v).1) ∧
    (∀ (world : Scenario.World) ticket step, step.asksStatus = true →
      (world.apply ticket step).1 = world) ∧
    ∀ (p : Poller) task, p.Registers (p.poll task).1 := by
  have fresh : (Turn.start (.named name capacity)).Enrolled := fun d => by
    cases d <;> exact List.nodup_nil
  have second := reached.operated (.poll slot (some w))
  rw [polled] at second
  have before := reached.enrolled fresh
  have enrolled : u.Enrolled := second.enrolled fresh
  have inside := (second.trans later).inside (Ring.inside_empty positive)
  refine ⟨fun d => ⟨before d, enrolled d, later.enrolled enrolled d⟩, ?_,
    fun op quiet vain => Turn.hushed_apply inside op quiet vain,
    fun world ticket step asks => world.apply_of_asksStatus ticket asks,
    Poller.registers_own_waker⟩
  obtain ⟨told, spent⟩ := later.spent enrolled last
  -- on each queue the waker has been once, and is there still or has gone
  have once (d : Direction) : gone.count (d, w) + (v.channel.observers d).count w = 1 := by
    rw [spent.balance d, (enrolled d).count, if_pos (Turn.observers_of_polled polled d)]
  have absent {d : Direction} (none : w ∉ v.channel.observers d) : gone.count (d, w) = 1 := by
    have total := once d
    rw [List.count_eq_zero.mpr none] at total
    exact total
  have times := spent.timesWoken_eq
  refine ⟨told, spent.account, spent.woken, times, fun d => ?_, fun c moved ended size => ?_,
    fun other outcome made => ?_⟩
  · have total := once d
    omega
  · have own := absent (spent.moved c moved ended size)
    refine ⟨own, ?_⟩
    rw [times]
    revert own
    cases c.direction <;> simp only [Direction.opposite] <;> omega
  · have both (d : Direction) : gone.count (d, w) = 1 :=
      absent (spent.interrupted other outcome made d)
    rw [times, both, both]

/-- A waker is registered while a reader sleeps. A write wakes it from the readers' queue and the
reader; the reader runs and wakes it from the writers' queue. -/
theorem wakers_are_one_shot_write_and_read :
    ∃ first left asked gone t u v,
      Turn.Unfolds ⟨16, by decide⟩ (.start (.named "pipe" 4)) first left t ∧
      (Operation.poll 0 (some (.task 9))).apply ⟨16, by decide⟩ t
        = (u, .ready ⟨false, true⟩) ∧
      Turn.Unfolds ⟨16, by decide⟩ u asked gone v ∧
      (∀ slot r, (.poll slot (some (.task 9)), .ready r) ∉ asked) ∧
      gone = [(.reading, .task 9), (.writing, .task 9)] ∧
      ∃ told, v.account = u.account ++ told ∧ timesWoken (.task 9) told = 2 := by
  let memory : Memory := ⟨16, by decide⟩
  let opened := ((Operation.openSession .readWrite false).apply memory
    (.start (.named "pipe" 4))).1
  let t := ((Operation.call ⟨0, 0, .read 4⟩).apply memory opened).1
  let u := (t.poll (some (.task 9))).1
  have reached := ((@Turn.Unfolds.here memory (.start (.named "pipe" 4))).operated
    (.openSession .readWrite false)).operated (.call ⟨0, 0, .read 4⟩)
  have polled : (Operation.poll 0 (some (.task 9))).apply memory t
      = (u, .ready ⟨false, true⟩) := rfl
  have later := ((@Turn.Unfolds.here memory u).operated (.tryCall ⟨1, 0, .write [7]⟩)).ran
    [] ⟨0, 0, .read 4⟩ [] rfl
  have last : ∀ slot r, (Operation.poll slot (some (.task 9)), Outcome.ready r) ∉
      [] ++ [(Operation.tryCall ⟨1, 0, .write [7]⟩,
        ((Operation.tryCall ⟨1, 0, .write [7]⟩).apply memory u).2)] :=
    fun slot r made => by cases List.mem_singleton.mp made
  obtain ⟨-, ⟨told, account, -, times, -⟩, -⟩ :=
    wakers_are_one_shot (by decide) reached polled later last
  exact ⟨_, _, _, _, t, u, _, reached, polled, later, last, by decide +kernel, told, account,
    times.trans (by decide +kernel)⟩

end BytePipe
