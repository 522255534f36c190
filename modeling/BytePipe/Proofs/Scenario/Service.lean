import BytePipe.Proofs.Scenario.Reached
import BytePipe.Proofs.System.Service

/-!
How the calls that sleep in a scenario are served, whatever its steps are (`sleepers_served_in_turn`).
A step but for an interrupt lets no more sleeping calls finish than it makes transfers itself
(`World.Tells`); only the poll of a task makes more than one.
-/
namespace BytePipe

open BytePipe.System (Numbered)

variable {memory : Memory} {most ticket : Nat}

/-- No more sleeping calls finish in a poll than the polled task makes transfers. -/
theorem Poller.InStep.balanced_poll {p : Poller} (inStep : InStep memory most ticket p)
    (few : most < 2 ^ 31) (balanced : Balanced ticket p.account) (t : Task) :
    Balanced ticket (p.poll t).1.account := by
  have kept := poll_keeps (t := t)
    (P := fun q => InStep memory most ticket q ∧ Balanced ticket q.account) ?_ ⟨inStep, balanced⟩
  · exact kept.2
  · rintro q e op does ⟨inStep, balanced⟩
    refine ⟨inStep.perform q e op does, ?_⟩
    have quiet : ∀ slot, op ≠ .interrupt slot := by
      cases does <;> exact nofun
    have one := inStep.numbered.balanced_performVia few e.via e.session
      (inStep.own ▸ does.quiet.tickets) quiet
    exact balanced.append one.1

namespace Scenario

/-- The steps that interrupt a session. -/
def Step.interrupts : Step → Bool
  | .signal _ => true
  | .interrupt _ => true
  | _ => false

/-- The steps that poll tasks. -/
def Step.polls : Step → Bool
  | .pollTask _ => true
  | .runTasks => true
  | _ => false

namespace World

variable {w v u : World}

/-- What a step tells on the way from one world to the next: no more sleeping calls finish than the
step makes transfers itself, and it makes at most so many. -/
def Tells (ticket limit : Nat) (w after : World) : Prop :=
  ∃ told, after.account = w.account ++ told ∧ Balanced ticket told ∧
    timesMoved ticket told ≤ limit

namespace Tells

variable {limit more : Nat} {α : Type}

theorem same (account : v.account = w.account) : Tells ticket limit w v :=
  ⟨[], by rw [account, List.append_nil], Nat.le_refl 0, Nat.zero_le limit⟩

theorem trans (first : Tells ticket limit w v) (second : Tells ticket more v u) :
    Tells ticket (limit + more) w u := by
  obtain ⟨told, account, balanced, moved⟩ := first
  obtain ⟨next, after, also, further⟩ := second
  refine ⟨told ++ next, by rw [after, account, List.append_assoc], balanced.append also, ?_⟩
  rw [timesMoved_append]
  exact Nat.add_le_add moved further

theorem mono (tells : Tells ticket limit w v) (le : limit ≤ more) : Tells ticket more w v := by
  obtain ⟨told, account, balanced, moved⟩ := tells
  exact ⟨told, account, balanced, Nat.le_trans moved le⟩

theorem given (found : Option α) {next : α → World × Reply}
    (tells : ∀ a, found = some a → Tells ticket limit w (next a).1) :
    Tells ticket limit w (w.given found next).1 := by
  unfold World.given
  split
  · exact .same rfl
  · exact tells _ rfl

end Tells

theorem account_countNotice (w : World) (n : Notice) : (w.countNotice n).account = w.account := by
  cases n with
  | woke waker =>
    cases waker with
    | named name =>
      simp only [countNotice, countWake]
      split <;> rfl
    | task ticket => rfl
  | _ => rfl

theorem account_absorb (w : World) (system : System) (account : List Notice) :
    (w.absorb system account).account = w.account ++ account := by
  unfold absorb
  have counting (v : World) : (account.foldl countNotice v).account = v.account := by
    induction account generalizing v with
    | nil => rfl
    | cons n rest ih => rw [List.foldl_cons, ih, account_countNotice]
  rw [counting]

theorem tells_absorb (w : World) (system : System) {account : List Notice} {limit : Nat}
    (balanced : Balanced ticket account) (moved : timesMoved ticket account ≤ limit) :
    Tells ticket limit w (w.absorb system account) :=
  ⟨account, account_absorb w system account, balanced, moved⟩

/-- Opening a device comes back with a session only. -/
theorem tells_openDevice (w : World) (minor : Nat) (session : String)
    (openIn : DeviceSet → Except ChannelError (System × SessionId)) (limit : Nat) :
    Tells ticket limit w (w.openDevice minor session openIn).1 := by
  refine .given _ fun ds _ => ?_
  split
  · exact .same rfl
  · cases openIn ds <;> exact .same rfl

section Operations

variable (few : most < 2 ^ 31) (numbered : Numbered memory most ticket w.system)
include few numbered

theorem tells_perform (c : ChannelId) {op : Operation}
    (tickets : ∀ call, op.call? = some call → call.ticket = ticket)
    (quiet : ∀ slot, op ≠ .interrupt slot) :
    Tells ticket (if op.call?.isSome then 1 else 0) w (w.perform c op).1 := by
  obtain ⟨balanced, moved⟩ := numbered.balanced_perform few c tickets quiet
  exact tells_absorb w _ balanced moved

/-- An operation that makes no call. -/
theorem tells_nothing (c : ChannelId) (op : Operation) (silent : op.call? = none)
    (quiet : ∀ slot, op ≠ .interrupt slot) (limit : Nat) :
    Tells ticket limit w (w.perform c op).1 := by
  have tickets : ∀ call, op.call? = some call → call.ticket = ticket := by
    rw [silent]
    exact nofun
  have tells := tells_perform few numbered c tickets quiet
  rw [silent] at tells
  exact tells.mono (Nat.zero_le limit)

theorem tells_useSession (use : Use) (op : Slot → Operation)
    (tickets : ∀ slot call, (op slot).call? = some call → call.ticket = ticket)
    (quiet : ∀ slot target, op slot ≠ .interrupt target) :
    Tells ticket 1 w (w.useSession use op).1 := by
  refine .given _ fun e _ => ?_
  obtain ⟨balanced, moved⟩ := numbered.balanced_performVia few e.via e.session
    (tickets e.session.slot) (quiet e.session.slot)
  refine tells_absorb w _ balanced (Nat.le_trans moved ?_)
  split <;> decide

theorem tells_poll (use : Use) (waker : Option String) :
    Tells ticket 1 w (w.poll use waker).1 := by
  refine .given _ fun _ _ => ?_
  have known : (waker.elim w w.addWaker).system = w.system ∧
      (waker.elim w w.addWaker).account = w.account := by
    cases waker with
    | none => exact ⟨rfl, rfl⟩
    | some name =>
      change (w.addWaker name).system = w.system ∧ (w.addWaker name).account = w.account
      unfold addWaker
      split <;> exact ⟨rfl, rfl⟩
  have first : Tells ticket 0 w (waker.elim w w.addWaker) := .same known.2
  have after : Numbered memory most ticket (waker.elim w w.addWaker).system := known.1 ▸ numbered
  have tells := first.trans (tells_useSession few after use (.poll · (waker.map .named))
    (fun _ _ called => by cases called) nofun)
  exact tells

theorem tells_endSession (session : String) (id : SessionId) (how : System.Ending) :
    Tells ticket 1 w (w.endSession session id how).1 := by
  unfold endSession
  split
  · exact .same rfl
  · obtain ⟨op, ends, same⟩ := w.system.endSession_eq id how
    have tells : Tells ticket 1 w (w.perform id.channel op).1 := by
      cases ends with
      | close => exact tells_nothing few numbered id.channel (.closeSession id.slot) rfl nofun 1
      | drop => exact tells_nothing few numbered id.channel (.dropSession id.slot) rfl nofun 1
    obtain ⟨told, account, rest⟩ := tells
    refine ⟨told, ?_, rest⟩
    rw [← account]
    simp only [same]
    rfl

theorem tells_openSession (channel session : String) (mode : AccessMode) (nonBlocking : Bool) :
    Tells ticket 1 w (w.openSession channel session mode nonBlocking).1 := by
  refine .given _ fun id _ => ?_
  split
  · exact .same rfl
  · have tells := tells_nothing few numbered id (.openSession mode nonBlocking) rfl nofun 1
    split
    · rename_i done
      rw [done] at tells
      exact tells
    · exact tells

theorem tells_unsubscribe (feed : String) (limit : Nat) :
    Tells ticket limit w (w.unsubscribe feed).1 := by
  unfold unsubscribe
  split
  · exact .same rfl
  · rename_i s known
    have tells := tells_nothing few numbered s.channel (.unsubscribe s.feed) rfl nofun limit
    generalize w.perform s.channel (.unsubscribe s.feed) = result at tells ⊢
    exact tells

theorem tells_subscribe (channel feed : String) :
    Tells ticket 1 w (w.subscribe channel feed).1 := by
  refine .given _ fun id _ => ?_
  have first := tells_unsubscribe few numbered feed 0
  have second := tells_nothing few (numbered_unsubscribe numbered feed) id .subscribe rfl nofun 1
  have tells := first.trans second
  rw [Nat.zero_add] at tells
  dsimp only
  split
  · rename_i done
    rw [done] at tells
    exact tells
  · exact tells

theorem tells_receive (s : Subscription) (times : Nat) :
    Tells ticket 0 w (w.receive s times).1 := by
  induction times generalizing w with
  | zero => exact .same rfl
  | succ times ih =>
    have quiet : Operation.Quiet ticket (.receive s.feed) := trivial
    have after := numbered_perform numbered s.channel quiet
    have tells := tells_nothing few numbered s.channel (.receive s.feed) rfl nofun 0
    rw [receive]
    split
    · rename_i done
      rw [done] at after tells
      have later := tells.trans (ih after)
      generalize World.receive _ s times = result at later ⊢
      exact later
    · rename_i done
      rw [done] at tells
      exact tells

theorem tells_pollTask (name : String) (slot : TaskSlot) (task : Task) :
    ∃ limit, Tells ticket limit w (w.pollTask ticket name slot task).1 := by
  have inStep : Poller.InStep memory most ticket ⟨w.system, .task slot.ticket, ticket, []⟩ :=
    ⟨rfl, numbered⟩
  have balanced := inStep.balanced_poll few (Nat.le_refl 0) task
  obtain ⟨told, account, rest⟩ := tells_absorb
    { w with tasks := w.tasks.insert name { slot with seen := some slot.wakes } }
    (Poller.poll ⟨w.system, .task slot.ticket, ticket, []⟩ task).1.system balanced
    (Nat.le_refl _)
  refine ⟨_, told, ?_, rest⟩
  rw [← account]
  unfold pollTask
  dsimp only
  split <;> rfl

theorem tells_runTasks (fuel : Nat) : ∃ limit, Tells ticket limit w (w.runTasks ticket fuel).1 := by
  induction fuel generalizing w with
  | zero => exact ⟨0, .same rfl⟩
  | succ fuel ih =>
    rw [runTasks]
    split
    · exact ⟨0, .same rfl⟩
    · rename_i name slot task known
      obtain ⟨first, tells⟩ := tells_pollTask few numbered name slot task
      obtain ⟨more, later⟩ := ih (numbered_pollTask numbered name slot task)
      exact ⟨first + more, tells.trans later⟩

/-- A step that neither interrupts nor polls makes at most one transfer itself. -/
theorem tells_apply (s : Step) (calm : s.interrupts = false) (unpolled : s.polls = false) :
    Tells ticket 1 w (w.apply ticket s).1 := by
  cases s with
  | createChannel channel capacity name =>
    simp only [apply, createChannel]
    split <;> exact .same rfl
  | makeDevices config =>
    simp only [apply, makeDevices]
    split <;> exact .same rfl
  | nameDevice minor channel =>
    refine .given _ fun ds _ => ?_
    split
    · exact .same rfl
    · exact .given _ fun ch _ => .same rfl
  | openSession channel session mode nonBlocking =>
    exact tells_openSession few numbered channel session mode nonBlocking
  | openDevice minor session mode nonBlocking => exact tells_openDevice w minor session _ 1
  | openDeviceFlags minor session flags => exact tells_openDevice w minor session _ 1
  | closeSession use =>
    refine .given _ fun h _ => .given _ fun e _ => ?_
    exact tells_endSession few numbered use.session e.session _
  | dropSession session =>
    exact .given _ fun h _ => tells_endSession few numbered session h.session .drop
  | setNonBlocking session nonBlocking =>
    refine .given _ fun h _ => ?_
    split
    · exact .same rfl
    · exact tells_nothing few numbered h.session.channel
        (.setNonBlocking h.session.slot nonBlocking) rfl (fun _ same => by cases same) 1
  | call use request =>
    refine tells_useSession few numbered use (fun slot => .call ⟨ticket, slot, request⟩) ?_
      fun _ _ same => by cases same
    rintro slot c ⟨⟩
    rfl
  | tryCall use request =>
    refine tells_useSession few numbered use (fun slot => .tryCall ⟨ticket, slot, request⟩) ?_
      fun _ _ same => by cases same
    rintro slot c ⟨⟩
    rfl
  | poll use waker => exact tells_poll few numbered use waker
  | subscribe channel feed => exact tells_subscribe few numbered channel feed
  | unsubscribe feed => exact tells_unsubscribe few numbered feed 1
  | receive feed times =>
    exact .given _ fun s _ => (tells_receive few numbered s times).mono (Nat.zero_le 1)
  | showSession session => exact .given _ fun h _ => .given _ fun s _ => .same rfl
  | sameChannel channel other => exact .given _ fun a _ => .given _ fun b _ => .same rfl
  | isPending interrupter => exact .given _ fun id _ => .given _ fun s _ => .same rfl
  | describeSession session => exact .given _ fun h _ => .given _ fun s _ => .same rfl
  | describeInterrupter interrupter => exact .given _ fun id _ => .given _ fun s _ => .same rfl
  | dropChannel channel => exact .same rfl
  | showWakes => exact .same rfl
  | cancelTask task => exact .same rfl
  | signal session => contradiction
  | interrupt interrupter => contradiction
  | pollTask task => contradiction
  | runTasks => contradiction
  | _ => exact .given _ fun _ _ => .same rfl

theorem tells_apply_of_polls (s : Step) (polls : s.polls = true) :
    ∃ limit, Tells ticket limit w (w.apply ticket s).1 := by
  cases s with
  | pollTask task =>
    simp only [apply, World.given]
    split
    · exact ⟨0, .same rfl⟩
    · exact tells_pollTask few numbered task _ _
  | runTasks => exact tells_runTasks few numbered w.runBudget
  | _ => contradiction

end Operations

/-- The report of a step lists the calls of earlier steps that have come back in it. -/
theorem length_finished (w : World) (ticket : Nat) :
    (w.finished ticket).length = timesFinished ticket w.account := by
  rw [finished, List.length_mergeSort, List.length_filterMap_eq_countP, timesFinished]
  refine List.countP_congr fun n _ => ?_
  cases n with
  | ended c result =>
    by_cases own : c.ticket = ticket <;> simp [Notice.finishes, own]
  | _ => simp [Notice.finishes]

theorem lengths_finished (w : World) (ticket : Nat) (steps : List Step) :
    (run w ticket steps).map (·.2.finished.length)
      = (run w ticket steps).mapIdx fun i r => timesFinished (ticket + i) r.1.account := by
  induction steps generalizing w ticket with
  | nil => rfl
  | cons s rest ih =>
    have later := ih (w.step ticket s).1 (ticket + 1)
    simp only [Nat.add_assoc, Nat.add_comm 1] at later
    rw [run, List.map_cons, List.mapIdx_cons, later]
    exact congrArg (· :: _) (length_finished _ ticket)

/-- In a step without interrupts no more sleeping calls finish than the step makes transfers itself,
and unless it polls a task that is at most one. -/
theorem finished_step (few : most < 2 ^ 31) (numbered : Numbered memory most ticket w.system)
    (s : Step) (calm : s.interrupts = false) :
    (w.step ticket s).2.finished.length ≤ timesMoved ticket (w.step ticket s).1.account ∧
      (s.polls = false → timesMoved ticket (w.step ticket s).1.account ≤ 1) := by
  have numbered : Numbered memory most ticket ({ w with account := [] } : World).system := numbered
  change ((({ w with account := [] } : World).apply ticket s).1.finished ticket).length
      ≤ timesMoved ticket (({ w with account := [] } : World).apply ticket s).1.account ∧
    (s.polls = false →
      timesMoved ticket (({ w with account := [] } : World).apply ticket s).1.account ≤ 1)
  rw [length_finished]
  cases polls : s.polls with
  | true =>
    obtain ⟨limit, told, account, balanced, -⟩ := tells_apply_of_polls few numbered s polls
    rw [account]
    exact ⟨balanced, nofun⟩
  | false =>
    obtain ⟨told, account, balanced, moved⟩ := tells_apply few numbered s calm polls
    rw [account]
    exact ⟨balanced, fun _ => moved⟩

end World

/-- Sleeping calls are served in turn. On a channel the calls that have slept and come back with
success do so in the order in which they first fell asleep, each direction for itself and however
often interrupts have sent them back to sleep. A transfer lets at most one sleeping call finish, the
first of the other side; it moves at least one byte and wakes nobody. The systems of every script are
among those this is said of, and in each of its steps but for interrupts no more sleeping calls
finish than the step makes transfers itself: at most one, unless tasks are polled. -/
theorem sleepers_served_in_turn {memory : Memory} {most : Nat} (few : most < 2 ^ 31) :
    (∀ (s : System) (history : History), System.Reached memory most s history → ∀ c : ChannelId,
      InOrder (history.on c) ∧
      ∀ (ch : Channel) (op : Operation) (call : Call) (moved : Transferred),
        s.channels[c]? = some ch → op.call? = some call →
        (ch.perform memory op).2.1 = .transferred moved → moved.size ≠ 0 →
        ch.Relief call moved (ch.perform memory op).1 (ch.perform memory op).2.2) ∧
    (∀ script : List Step,
      (∀ r ∈ run (.fresh memory) 0 script, ∀ ch ∈ r.1.system.channels, ch.openSessions ≤ most) →
      (∀ r ∈ run (.fresh memory) 0 script, ∃ history,
        System.Reached memory most r.1.system history) ∧
      ∀ (i : Nat) (s : Step) (w : World) (report : Report), script[i]? = some s →
        (run (.fresh memory) 0 script)[i]? = some (w, report) → s.interrupts = false →
        report.finished.length ≤ timesMoved i w.account ∧
          (s.polls = false → timesMoved i w.account ≤ 1)) := by
  refine ⟨fun s history reached c => ⟨reached.inOrder few c, ?_⟩, fun script sessions =>
    ⟨run_reached sessions, ?_⟩⟩
  · intro ch op call moved found called transferred some
    exact reached.relief few found called transferred some
  · intro i s w report asked given calm
    obtain ⟨v, numbered, same⟩ := step_of_run numbered_fresh sessions asked given
    rw [Nat.zero_add] at numbered same
    obtain ⟨rfl, rfl⟩ := Prod.mk.inj same
    exact World.finished_step few numbered s calm

/-- Two readers sleep, and a write of two bytes lets the first of them finish. -/
theorem sleepers_served_in_turn_two_readers :
    ∃ s history ch, System.Reached ⟨16, by decide⟩ 1 s history ∧ s.channels[0]? = some ch ∧
      (ch.sleepers .reading).map (·.ticket) = [0, 1] ∧ InOrder (History.on history 0) ∧
      ch.Relief ⟨2, 0, .write [7, 8]⟩ (.count 2)
        (ch.perform ⟨16, by decide⟩ (.tryCall ⟨2, 0, .write [7, 8]⟩)).1
        (ch.perform ⟨16, by decide⟩ (.tryCall ⟨2, 0, .write [7, 8]⟩)).2.2 ∧
      ∃ w report, (run (.fresh ⟨16, by decide⟩) 0
          [.createChannel "p" 4 none, .openSession "p" "s" .readWrite false,
            .call ⟨"s", none⟩ (.read 1), .call ⟨"s", none⟩ (.read 1),
            .call ⟨"s", none⟩ (.write [7, 8])])[4]? = some (w, report) ∧
        report.finished.length ≤ timesMoved 4 w.account ∧ timesMoved 4 w.account ≤ 1 := by
  have served := @sleepers_served_in_turn ⟨16, by decide⟩ 1 (by decide)
  have created := (@System.Reached.empty ⟨16, by decide⟩ 1).created
    (show Channel.create? "pipe" 4 = .ok _ from rfl)
  have opened := created.performed 0 (.openSession .readWrite false)
    (fun ch found => .of_idle _ fun d => by cases found; cases d <;> rfl) (by decide)
  have first := opened.performed 0 (.call ⟨0, 0, .read 1⟩)
    (fun ch found => .of_idle _ fun d => by cases found; cases d <;> rfl) (by decide)
  have second := first.performed 0 (.call ⟨1, 0, .read 1⟩)
    (fun ch found c called d w asleep => by
      cases found; cases called; cases d <;> revert w <;> decide) (by decide)
  obtain ⟨⟨w, report⟩, given⟩ := Option.isSome_iff_exists.mp
    (show (run (.fresh ⟨16, by decide⟩) 0
      [.createChannel "p" 4 none, .openSession "p" "s" .readWrite false,
        .call ⟨"s", none⟩ (.read 1), .call ⟨"s", none⟩ (.read 1),
        .call ⟨"s", none⟩ (.write [7, 8])])[4]?.isSome = true by decide)
  obtain ⟨finished, once⟩ := (served.2 _ (by decide)).2 4 _ w report rfl given rfl
  refine ⟨_, _, _, second, rfl, rfl, (served.1 _ _ second 0).1, ?_, w, report, given, finished,
    once rfl⟩
  exact (served.1 _ _ second 0).2 _ _ _ _ rfl rfl rfl (by decide)

/-- A task that writes two bytes in two pieces lets two sleeping readers finish in one step, without
an interrupt. -/
theorem two_readers_finish_in_one_poll :
    let script : List Step :=
      [.createChannel "p" 4 none, .openSession "p" "s" .readWrite false,
        .call ⟨"s", none⟩ (.write [1, 2, 3]), .call ⟨"s", none⟩ (.read 3),
        .call ⟨"s", none⟩ (.read 1), .call ⟨"s", none⟩ (.read 1),
        .makeTask "t" (.writeAll ⟨"s", none⟩ [7, 7]), .pollTask "t"]
    (∀ s ∈ script, s.interrupts = false) ∧
      (run (.fresh ⟨16, by decide⟩) 0 script).getLast?.map (·.2.finished.length) = some 2 := by
  refine ⟨by decide, ?_⟩
  rw [← List.getLast?_map, World.lengths_finished]
  decide +kernel

end Scenario

end BytePipe
