import BytePipe.Proofs.Channel.Account

/-!
Registered wakers. Only a poll adds one, and to a queue that does not have it yet; whatever else
happens leaves the observers of a queue as they are or wakes all of them (`Turn.Sheds`). So no waker
is ever registered twice on one queue (`Life.nodup_observers`), and it is woken once for each queue
that it is on.
-/
namespace BytePipe

/-- How often a waker has been woken. -/
def timesWoken (w : Waker) (account : List Notice) : Nat :=
  account.countP fun
    | .woke v => v == w
    | _ => false

theorem timesWoken_append (w : Waker) (account notices : List Notice) :
    timesWoken w (account ++ notices) = timesWoken w account + timesWoken w notices :=
  List.countP_append

theorem timesWoken_woke (w : Waker) (wakers : List Waker) :
    timesWoken w (wakers.map .woke) = wakers.count w := by
  rw [timesWoken, List.countP_map]
  rfl

/-- Of wakers that are all different, each is woken once. -/
theorem timesWoken_woke_of_nodup (w : Waker) {wakers : List Waker} (nodup : wakers.Nodup) :
    timesWoken w (wakers.map .woke) = if w ∈ wakers then 1 else 0 := by
  rw [timesWoken_woke, nodup.count]

namespace Turn

variable {memory : Memory} {op : Operation} {t u v : Turn} {c : Call}

/-- On every queue the observers are as they were, or all gone. -/
def Sheds (t u : Turn) : Prop :=
  ∀ d, (u.channel.queue d).observers = (t.channel.queue d).observers ∨
    (u.channel.queue d).observers = []

namespace Sheds

theorem of_eq (same : ∀ d, (u.channel.queue d).observers = (t.channel.queue d).observers) :
    Sheds t u :=
  fun d => .inl (same d)

theorem refl (t : Turn) : Sheds t t :=
  .of_eq fun _ => rfl

theorem trans (first : Sheds t u) (second : Sheds u v) : Sheds t v := fun d => by
  rcases second d with same | none
  · rw [same]
    exact first d
  · exact .inr none

/-- A queue that is emptied of its observers. -/
theorem setQueue {q : WaitQueue} {d : Direction} (none : q.observers = [])
    (channel : u.channel = t.channel.setQueue q d) : Sheds t u := fun e => by
  rw [channel]
  by_cases own : e = d
  · rw [own, Channel.queue_setQueue_self]
    exact .inr none
  · refine .inl ?_
    cases d <;> cases e <;> first | rfl | exact absurd rfl own

theorem wakeOne (t : Turn) (d : Direction) : Sheds t (t.wakeOne d) :=
  .setQueue (q := (t.channel.queue d).afterOne) rfl rfl

theorem wakeAll (t : Turn) (d : Direction) : Sheds t (t.wakeAll d) :=
  .setQueue (q := .empty) rfl rfl

theorem sleep (t : Turn) (c : Call) : Sheds t (t.sleep c) := by
  refine .of_eq fun d => ?_
  simp only [Turn.sleep, channel_record, channel_mapChannel]
  cases c.direction <;> cases d <;> rfl

theorem cutShort (t : Turn) (c : Call) : Sheds t (t.cutShort c) :=
  .of_eq fun d => by cases d <;> rfl

theorem transfer (t : Turn) (c : Call) : Sheds t (t.transfer c).1 := by
  have served : Sheds t (t.served c) := .of_eq fun d => by cases d <;> rfl
  have moving : Sheds t (t.moving c) := served.trans (.wakeOne _ c.direction.opposite)
  refine moving.trans (.of_eq fun d => ?_)
  obtain ⟨ticket, slot, request⟩ := c
  cases request <;> cases d <;> rfl

theorem ran (ran : Ran t c u) : Sheds t u := by
  cases ran with
  | interrupted unready => exact .cutShort t c
  | passedOn ready => exact (Sheds.cutShort t c).trans (.wakeOne _ c.direction)
  | moved fits ready => exact .transfer t c
  | slept fits unready => exact .sleep t c

theorem arrived (arrived : Arrived t c u) : Sheds t u := by
  cases arrived with
  | ran went => exact .ran went
  | _ => exact .refl t

theorem interrupt (t : Turn) (slot : Slot) : Sheds t (t.interrupt slot) := by
  have raised : Sheds t (t.mapChannel (·.setSignal slot true)) :=
    .of_eq fun d => by cases d <;> rfl
  exact (raised.trans (.wakeAll _ .reading)).trans (.wakeAll _ .writing)

theorem openSession (memory : Memory) (t : Turn) (mode : AccessMode) (nonBlocking : Bool) :
    Sheds t (t.openSession memory mode nonBlocking).1 := by
  unfold Turn.openSession
  dsimp only
  split
  · exact .of_eq fun d => by cases d <;> rfl
  · split
    · exact .refl t
    · exact .of_eq fun d => by cases d <;> rfl

theorem dropSession (t : Turn) (slot : Slot) : Sheds t (t.dropSession slot).1 := by
  unfold Turn.dropSession letGo
  split
  · exact .refl t
  · dsimp only
    split
    · exact .refl t
    · refine .of_eq fun d => ?_
      unfold releaseCounts
      dsimp only
      split <;> cases d <;> rfl

end Sheds

/-- Only a poll can add an observer. -/
theorem sheds_apply (memory : Memory) (t : Turn) {op : Operation}
    (other : ∀ slot waker, op ≠ .poll slot waker) : Sheds t (op.apply memory t).1 := by
  cases op with
  | openSession mode nonBlocking =>
    have opened := Sheds.openSession memory t mode nonBlocking
    simp only [Operation.apply]
    split <;> rename_i done <;> rw [done] at opened <;> exact opened
  | closeSession slot =>
    rw [Operation.apply, closeSession_eq_dropSession]
    exact .dropSession t slot
  | dropSession slot => exact .dropSession t slot
  | setNonBlocking slot nonBlocking => exact .of_eq fun d => by cases d <;> rfl
  | call c => exact .arrived (arrived_arrive t c _)
  | tryCall c => exact .arrived (arrived_arrive t c _)
  | poll slot waker => exact absurd rfl (other slot waker)
  | interrupt slot => exact .interrupt t slot
  | subscribe => exact .of_eq fun d => by cases d <;> rfl
  | unsubscribe feed => exact .of_eq fun d => by cases d <;> rfl
  | receive feed =>
    simp only [Operation.apply, receive]
    split <;> exact .of_eq fun d => by cases d <;> rfl

/-- No waker is registered twice on one queue. -/
def Enrolled (t : Turn) : Prop :=
  ∀ d, (t.channel.queue d).observers.Nodup

theorem Enrolled.sheds (enrolled : Enrolled t) (sheds : Sheds t u) : Enrolled u := fun d => by
  rcases sheds d with same | none
  · rw [same]
    exact enrolled d
  · rw [none]
    exact List.nodup_nil

theorem Enrolled.poll (enrolled : Enrolled t) (waker : Option Waker) : Enrolled (t.poll waker).1 := by
  cases waker with
  | none => exact enrolled
  | some w =>
    intro d
    have registered := WaitQueue.nodup_register (enrolled d) w
    cases d <;> exact registered

theorem Enrolled.applied (enrolled : Enrolled t) (memory : Memory) (op : Operation) :
    Enrolled (op.apply memory t).1 := by
  cases op with
  | poll slot waker =>
    simp only [Operation.apply]
    split
    · exact enrolled.poll waker
    · exact enrolled
  | _ => exact enrolled.sheds (sheds_apply memory t fun slot waker => by simp)

end Turn

theorem Life.nodup_observers {memory : Memory} {peak : Nat} {t : Turn} (life : Life memory peak t) :
    ∀ d, (t.channel.queue d).observers.Nodup := by
  have enrolled : t.Enrolled := by
    induction life with
    | created name capacity positive => exact fun d => by cases d <;> exact List.nodup_nil
    | operated op before settled fresh ih => exact ih.applied memory op
    | @ran peak t earlier c later before woken ih =>
      have taken : Turn.Enrolled { t with woken := earlier ++ later } := ih
      obtain ⟨-, fits, -⟩ := before.orderly.take woken
      exact taken.sheds (.ran (Turn.ran_resume fits))
  exact enrolled

end BytePipe
