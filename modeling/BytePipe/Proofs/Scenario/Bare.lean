import BytePipe.Proofs.Task.Bare
import BytePipe.Scenario.Run

/-!
The world of a scenario without its observers. Steps that act come to the same in the bare world,
with their tickets renumbered (`World.bare_apply`); steps that only observe leave the bare world as
it was and tell nothing (`World.bare_apply_of_passive`).
-/
namespace BytePipe

namespace Names

variable {α : Type} (n : Names α) (g : α → α) (name : String)

@[simp] theorem get?_map : (n.map g).get? name = (n.get? name).map g := by
  unfold get? map
  induction n.entries with
  | nil => rfl
  | cons entry rest ih =>
    rw [List.map_cons, lookup_cons_ite, ih, lookup_cons_ite]
    split
    · rfl
    · rfl

@[simp] theorem contains_map : (n.map g).contains name = n.contains name := by
  simp [contains]

theorem map_insert (a : α) : (n.insert name a).map g = (n.map g).insert name (g a) := by
  unfold insert map
  congr 1
  induction n.entries with
  | nil => rfl
  | cons entry rest ih =>
    obtain ⟨other, b⟩ := entry
    simp only [insertEntry, List.map_cons]
    split
    · rfl
    · split
      · rfl
      · rw [List.map_cons, ih]

theorem map_erase : (n.erase name).map g = (n.map g).erase name := by
  simp [erase, map, List.filter_map, Function.comp_def]

end Names

namespace Scenario

variable {f : Nat → Nat}

/-- Steps that only observe: polls of sessions, all that is about subscriptions, and what shows a
part of the world without changing it. -/
def Step.isPassive : Step → Bool
  | .reportDevices => true
  | .deviceStatuses => true
  | .showSession _ => true
  | .poll _ _ => true
  | .showWakes => true
  | .isPending _ => true
  | .subscribe _ _ => true
  | .unsubscribe _ => true
  | .receive _ _ => true
  | .showStatus _ => true
  | .reportStatus _ => true
  | .describeSession _ => true
  | .describeInterrupter _ => true
  | .describeChannel _ => true
  | _ => false

def TaskSlot.relabel (f : Nat → Nat) (t : TaskSlot) : TaskSlot :=
  { t with ticket := f t.ticket }

def World.bare (f : Nat → Nat) (w : World) : World :=
  { w with
    system := w.system.bare f
    subscriptions := .empty
    wakers := .empty
    tasks := w.tasks.map (TaskSlot.relabel f)
    account := w.account.filterMap (Notice.bare? f) }

namespace World

variable (w : World)

/-! ## Wake counts -/

theorem bare_countNotice (inj : Function.Injective f) (n : Notice) :
    (w.countNotice n).bare f = (n.bare? f).elim (w.bare f) (w.bare f).countNotice := by
  cases n with
  | woke waker =>
    cases waker with
    | named name =>
      simp only [countNotice, countWake]
      split
      · rfl
      · rfl
    | task ticket =>
      have counted (t : TaskSlot) :
          (if t.ticket = ticket then { t with wakes := t.wakes + 1 } else t).relabel f
            = if (t.relabel f).ticket = f ticket then
                { t.relabel f with wakes := (t.relabel f).wakes + 1 }
              else t.relabel f := by
        have same : f t.ticket = f ticket ↔ t.ticket = ticket := inj.eq_iff
        simp only [TaskSlot.relabel, same]
        split
        · rfl
        · rfl
      simp [countNotice, countWake, bare, Notice.bare?, Waker.bare?, Names.map, counted]
  | _ => rfl

theorem bare_countNotices (inj : Function.Injective f) (account : List Notice) :
    (account.foldl countNotice w).bare f
      = (account.filterMap (Notice.bare? f)).foldl countNotice (w.bare f) := by
  induction account generalizing w with
  | nil => rfl
  | cons n rest ih =>
    rw [List.foldl_cons, ih, bare_countNotice w inj]
    cases kept : n.bare? f with
    | none => simp [kept]
    | some n' => simp [kept]

/-! ## Operations on the system -/

theorem bare_absorb (inj : Function.Injective f) (system : System) (account : List Notice) :
    (w.absorb system account).bare f
      = (w.bare f).absorb (system.bare f) (account.filterMap (Notice.bare? f)) := by
  rw [absorb, bare_countNotices _ inj, absorb]
  simp [bare]

theorem bare_perform (inj : Function.Injective f) {op : Operation} (other : op.subscribes = false)
    (c : ChannelId) :
    (w.bare f).perform c (op.relabel f) = ((w.perform c op).1.bare f, (w.perform c op).2) := by
  have performed := System.bare_perform w.system inj other c
  have system : (w.bare f).system = w.system.bare f := rfl
  simp only [perform, system, performed, bare_absorb w inj]

theorem bare_performVia (inj : Function.Injective f) {op : Operation}
    (other : op.subscribes = false) (via : ChannelId) (id : SessionId) :
    (w.bare f).performVia via id (op.relabel f)
      = ((w.performVia via id op).1.bare f, (w.performVia via id op).2) := by
  have performed := System.bare_performVia w.system inj other via id
  have system : (w.bare f).system = w.system.bare f := rfl
  simp only [performVia, system, performed, bare_absorb w inj]

/-- Taking over a system in which only observers have changed. -/
theorem bare_absorb_silent {system : System} {account : List Notice}
    (same : system.bare f = w.system.bare f) (silent : account = []) :
    (w.absorb system account).bare f = w.bare f := by
  subst silent
  simp [absorb, bare, same]

theorem bare_perform_of_observes (inj : Function.Injective f) {op : Operation}
    (observes : op.observes = true) (c : ChannelId) : (w.perform c op).1.bare f = w.bare f := by
  obtain ⟨same, silent⟩ := System.bare_perform_of_observes w.system inj observes c
  exact w.bare_absorb_silent same silent

theorem bare_performVia_of_observes (inj : Function.Injective f) {op : Operation}
    (observes : op.observes = true) (via : ChannelId) (id : SessionId) :
    (w.performVia via id op).1.bare f = w.bare f := by
  obtain ⟨same, silent⟩ := System.bare_performVia_of_observes w.system inj observes via id
  exact w.bare_absorb_silent same silent

/-! ## Looking up -/

theorem taskEndpoints_bare : (w.bare f).taskEndpoints = w.taskEndpoints := by
  simp [taskEndpoints, bare, Names.map, List.flatMap_map, TaskSlot.relabel]

@[simp] theorem isInUse_bare (id : SessionId) : (w.bare f).isInUse id = w.isInUse id := by
  have found := w.system.getElem?_bare (f := f) id.channel
  change (w.bare f).system.channels[id.channel]? = _ at found
  unfold isInUse
  rw [taskEndpoints_bare, found]
  cases w.system.channels[id.channel]? with
  | none => rfl
  | some ch => simp

theorem job?_bare (purpose : Purpose) : (w.bare f).job? purpose = w.job? purpose := by
  cases purpose <;> rfl

theorem task?_bare (name : String) :
    (w.bare f).task? name = (w.task? name).map fun (slot, task) => (slot.relabel f, task) := by
  have found := w.tasks.get?_map (TaskSlot.relabel f) name
  change (w.bare f).tasks.get? name = _ at found
  simp only [task?, found]
  cases w.tasks.get? name with
  | none => rfl
  | some slot =>
    obtain ⟨ticket, task, wakes, seen⟩ := slot
    cases task <;> rfl

theorem nextTask?_bare :
    (w.bare f).nextTask?
      = w.nextTask?.map fun (name, slot, task) => (name, slot.relabel f, task) := by
  have runnable (t : TaskSlot) : (t.relabel f).isRunnable = t.isRunnable := rfl
  simp only [nextTask?, bare, Names.map, List.find?_map, Function.comp_def, runnable]
  cases w.tasks.entries.find? (·.2.isRunnable) with
  | none => rfl
  | some entry =>
    obtain ⟨name, ticket, task, wakes, seen⟩ := entry
    cases task <;> rfl

theorem runBudget_bare : (w.bare f).runBudget = w.runBudget := by
  simp only [runBudget, bare, System.bare, Names.map, TaskSlot.relabel, List.filterMap_map,
    List.foldl_map, Function.comp_def, Channel.asleep_bare]

/-- What is shown of the channels does not depend on their observers. -/
theorem statuses_bare : (w.bare f).statuses = w.statuses := by
  simp [statuses, bare, Function.comp_def]

/-! ## Steps that act -/

theorem bare_given {α : Type} (found : Option α) {next next' : α → World × Reply}
    (same : ∀ a, next' a = ((next a).1.bare f, (next a).2)) :
    (w.bare f).given found next' = ((w.given found next).1.bare f, (w.given found next).2) := by
  cases found with
  | none => rfl
  | some a => exact same a

theorem bare_createChannel (channel : String) (capacity : Nat) (name : Option String) :
    (w.bare f).createChannel channel capacity name
      = ((w.createChannel channel capacity name).1.bare f,
        (w.createChannel channel capacity name).2) := by
  unfold createChannel
  cases created : Channel.create? (name.getD Channel.defaultName) capacity with
  | error e => rfl
  | ok ch =>
    obtain ⟨name, capacity, -, rfl⟩ := System.named_of_create? created
    simp [System.addChannel, answer, bare, System.bare]

theorem bare_makeDevices (config : PipeConfig) :
    (w.bare f).makeDevices config
      = ((w.makeDevices config).1.bare f, (w.makeDevices config).2) := by
  have installed := DeviceSet.bare_install (f := f) w.system config
  change DeviceSet.install (w.bare f).system config = _ at installed
  unfold makeDevices
  rw [installed]
  cases DeviceSet.install w.system config with
  | error e => rfl
  | ok result => rfl

theorem bare_nameDevice (minor : Nat) (channel : String) :
    (w.bare f).nameDevice minor channel
      = ((w.nameDevice minor channel).1.bare f, (w.nameDevice minor channel).2) := by
  apply bare_given
  intro ds
  cases ds.channel minor with
  | error e => rfl
  | ok id =>
    have found := w.system.getElem?_bare (f := f) id
    change (w.bare f).system.channels[id]? = _ at found
    simp only [found]
    cases w.system.channels[id]? with
    | none => rfl
    | some ch => rfl

theorem bare_openSession (inj : Function.Injective f) (channel session : String)
    (mode : AccessMode) (nonBlocking : Bool) :
    (w.bare f).openSession channel session mode nonBlocking
      = ((w.openSession channel session mode nonBlocking).1.bare f,
        (w.openSession channel session mode nonBlocking).2) := by
  have opens : (Operation.openSession mode nonBlocking).subscribes = false := rfl
  apply bare_given
  intro id
  have performed := w.bare_perform inj opens id
  change (w.bare f).perform id (.openSession mode nonBlocking) = _ at performed
  change (if w.sessions.contains session then _ else _) = _
  simp only [performed]
  split
  · rfl
  · obtain ⟨after, outcome⟩ := w.perform id (.openSession mode nonBlocking)
    cases outcome <;> rfl

theorem bare_openDevice (minor : Nat) (session : String)
    {openIn openIn' : DeviceSet → Except ChannelError (System × SessionId)}
    (same : ∀ ds, openIn' ds = (openIn ds).map fun (after, id) => (after.bare f, id)) :
    (w.bare f).openDevice minor session openIn'
      = ((w.openDevice minor session openIn).1.bare f,
        (w.openDevice minor session openIn).2) := by
  apply bare_given
  intro ds
  change (if w.sessions.contains session then _ else _) = _
  rw [same]
  split
  · rfl
  · cases openIn ds with
    | error e => rfl
    | ok result => rfl

theorem bare_endSession (inj : Function.Injective f) (session : String) (id : SessionId)
    (how : System.Ending) :
    (w.bare f).endSession session id how
      = ((w.endSession session id how).1.bare f, (w.endSession session id how).2) := by
  have ended := System.bare_endSession w.system inj id how
  change (w.bare f).system.endSession id how = _ at ended
  simp only [endSession, isInUse_bare, ended]
  split
  · rfl
  · simp only [← bare_absorb w inj]
    rfl

theorem bare_setNonBlocking (inj : Function.Injective f) (session : String) (nonBlocking : Bool) :
    (w.bare f).setNonBlocking session nonBlocking
      = ((w.setNonBlocking session nonBlocking).1.bare f,
        (w.setNonBlocking session nonBlocking).2) := by
  apply bare_given
  intro h
  have sets : (Operation.setNonBlocking h.session.slot nonBlocking).subscribes = false := rfl
  have performed := w.bare_perform inj sets h.session.channel
  change (w.bare f).perform _ (.setNonBlocking h.session.slot nonBlocking) = _ at performed
  simp only [isInUse_bare, performed]
  split
  · rfl
  · rfl

theorem bare_useSession (inj : Function.Injective f) (use : Use) {op op' : Slot → Operation}
    (other : ∀ slot, (op slot).subscribes = false) (same : ∀ slot, op' slot = (op slot).relabel f) :
    (w.bare f).useSession use op'
      = ((w.useSession use op).1.bare f, (w.useSession use op).2) := by
  apply bare_given
  intro e
  have performed := w.bare_performVia inj (other e.session.slot) e.via e.session
  rw [← same] at performed
  simp only [performed, reply]

theorem bare_interruptSession (inj : Function.Injective f) (id : SessionId) :
    (w.bare f).interruptSession id
      = ((w.interruptSession id).1.bare f, (w.interruptSession id).2) := by
  have interrupts : (Operation.interrupt id.slot).subscribes = false := rfl
  have performed := w.bare_perform inj interrupts id.channel
  change (w.bare f).perform id.channel (.interrupt id.slot) = _ at performed
  simp only [interruptSession, performed, reply]

/-! ## Tasks -/

theorem bare_makeTask (ticket : Nat) (task : String) (purpose : Purpose) :
    (w.bare f).makeTask (f ticket) task purpose
      = ((w.makeTask ticket task purpose).1.bare f, (w.makeTask ticket task purpose).2) := by
  unfold makeTask
  rw [job?_bare]
  apply bare_given
  intro job
  simp only [answer, bare, Names.map_insert]
  rfl

/-- A task whose poll begins. -/
def beginPoll (w : World) (name : String) (slot : TaskSlot) : World :=
  { w with tasks := w.tasks.insert name { slot with seen := some slot.wakes } }

/-- A task whose poll is over: it keeps what is left of it, and its name. -/
def endPoll (w : World) (name : String) (state : TaskState) : World × PollResult :=
  let (rest, result) : Option Task × PollResult := match state with
    | .pending t => (some t, none)
    | .resolved r => (none, some r)
  match w.tasks.get? name with
  | none => (w, result)
  | some slot => ({ w with tasks := w.tasks.insert name { slot with task := rest } }, result)

theorem pollTask_eq (ticket : Nat) (name : String) (slot : TaskSlot) (task : Task) :
    w.pollTask ticket name slot task
      = (let polled := Poller.poll ⟨(w.beginPoll name slot).system, .task slot.ticket, ticket, []⟩
          task
        ((w.beginPoll name slot).absorb polled.1.system polled.1.account).endPoll name polled.2) :=
  rfl

theorem bare_beginPoll (name : String) (slot : TaskSlot) :
    (w.beginPoll name slot).bare f = (w.bare f).beginPoll name (slot.relabel f) := by
  simp only [beginPoll, bare, Names.map_insert]
  rfl

theorem bare_endPoll (name : String) (state : TaskState) :
    (w.bare f).endPoll name state = ((w.endPoll name state).1.bare f, (w.endPoll name state).2) := by
  have found := w.tasks.get?_map (TaskSlot.relabel f) name
  change (w.bare f).tasks.get? name = _ at found
  simp only [endPoll, found]
  cases w.tasks.get? name with
  | none => rfl
  | some slot =>
    simp only [Option.map_some, bare, Names.map_insert]
    rfl

theorem bare_pollTask (inj : Function.Injective f) (ticket : Nat) (name : String)
    (slot : TaskSlot) (task : Task) :
    (w.bare f).pollTask (f ticket) name (slot.relabel f) task
      = ((w.pollTask ticket name slot task).1.bare f, (w.pollTask ticket name slot task).2) := by
  let poller : Poller := ⟨(w.beginPoll name slot).system, .task slot.ticket, ticket, []⟩
  have polled := Poller.bare_poll (p := poller) inj ⟨slot.ticket, rfl⟩ task
  have same : poller.bare f = ⟨((w.bare f).beginPoll name (slot.relabel f)).system,
      .task (slot.relabel f).ticket, f ticket, []⟩ := rfl
  rw [pollTask_eq, pollTask_eq, ← same, polled, ← bare_beginPoll]
  dsimp only
  rw [← bare_endPoll, bare_absorb _ inj]
  rfl

theorem bare_runTasks (inj : Function.Injective f) (ticket fuel : Nat) :
    (w.bare f).runTasks (f ticket) fuel
      = ((w.runTasks ticket fuel).1.bare f, (w.runTasks ticket fuel).2) := by
  induction fuel generalizing w with
  | zero => rfl
  | succ fuel ih =>
    simp only [runTasks, nextTask?_bare]
    cases w.nextTask? with
    | none => rfl
    | some next =>
      obtain ⟨name, slot, task⟩ := next
      simp only [Option.map_some, bare_pollTask w inj, ih]

/-! ## Steps -/

/-- A step that acts comes to the same without the observers. -/
theorem bare_apply (inj : Function.Injective f) (ticket : Nat) {step : Step}
    (acts : step.isPassive = false) :
    (w.bare f).apply (f ticket) step
      = ((w.apply ticket step).1.bare f, (w.apply ticket step).2) := by
  cases step with
  | createChannel channel capacity name => exact w.bare_createChannel channel capacity name
  | cloneChannel channel copy => exact w.bare_given _ fun id => rfl
  | sameChannel channel other =>
    exact w.bare_given _ fun a => w.bare_given (w.channels.get? other) fun b => rfl
  | dropChannel channel => rfl
  | makeDevices config => exact w.bare_makeDevices config
  | nameDevice minor channel => exact w.bare_nameDevice minor channel
  | openSession channel session mode nonBlocking =>
    exact w.bare_openSession inj channel session mode nonBlocking
  | openDevice minor session mode nonBlocking =>
    exact w.bare_openDevice minor session fun ds =>
      ds.bare_openDevice w.system inj minor mode nonBlocking
  | openDeviceFlags minor session flags =>
    exact w.bare_openDevice minor session fun ds => ds.bare_openWithFlags w.system inj minor flags
  | closeSession use =>
    exact w.bare_given _ fun h => w.bare_given (w.endpoint? use) fun e =>
      w.bare_endSession inj use.session e.session _
  | dropSession session => exact w.bare_given _ fun h => w.bare_endSession inj session h.session .drop
  | setNonBlocking session nonBlocking => exact w.bare_setNonBlocking inj session nonBlocking
  | call use request =>
    simp only [apply]
    exact w.bare_useSession inj use (fun slot => rfl) fun slot => rfl
  | tryCall use request =>
    simp only [apply]
    exact w.bare_useSession inj use (fun slot => rfl) fun slot => rfl
  | signal session => exact w.bare_given _ fun h => w.bare_interruptSession inj h.session
  | makeInterrupter interrupter session => exact w.bare_given _ fun h => rfl
  | interrupt interrupter => exact w.bare_given _ (w.bare_interruptSession inj)
  | makeTask task purpose => exact w.bare_makeTask ticket task purpose
  | pollTask task =>
    simp only [apply, task?_bare]
    cases w.task? task with
    | none => rfl
    | some found =>
      obtain ⟨slot, t⟩ := found
      simp only [Option.map_some, given, bare_pollTask w inj]
  | runTasks =>
    simp only [apply, runBudget_bare, bare_runTasks w inj]
    rfl
  | taskWakes task =>
    have found := w.tasks.get?_map (TaskSlot.relabel f) task
    change (w.bare f).tasks.get? task = _ at found
    simp only [apply, found]
    cases w.tasks.get? task with
    | none => rfl
    | some slot => rfl
  | cancelTask task =>
    simp only [apply, cancelTask, answer, bare, Names.map_erase, Names.contains_map]
  | _ => contradiction

/-! ## Steps that only observe -/

theorem given_of_same {α : Type} (found : Option α) {next : α → World × Reply}
    (same : ∀ a, (next a).1.bare f = w.bare f) : (w.given found next).1.bare f = w.bare f := by
  cases found with
  | none => rfl
  | some a => exact same a

theorem bare_unsubscribe (inj : Function.Injective f) (feed : String) :
    (w.unsubscribe feed).1.bare f = w.bare f := by
  unfold unsubscribe
  split
  · rfl
  · rename_i s found
    have observes : (Operation.unsubscribe s.feed).observes = true := rfl
    exact w.bare_perform_of_observes inj observes s.channel

theorem bare_subscribe (inj : Function.Injective f) (channel feed : String) :
    (w.subscribe channel feed).1.bare f = w.bare f := by
  apply given_of_same
  intro id
  have observes : Operation.subscribe.observes = true := rfl
  have left := w.bare_unsubscribe inj feed
  have after := (w.unsubscribe feed).1.bare_perform_of_observes inj observes id
  rw [left] at after
  dsimp only
  generalize (w.unsubscribe feed).1.perform id .subscribe = performed at after ⊢
  obtain ⟨u, outcome⟩ := performed
  cases outcome <;> exact after

theorem bare_receive (inj : Function.Injective f) (s : Subscription) (most : Nat) :
    (w.receive s most).1.bare f = w.bare f := by
  induction most generalizing w with
  | zero => rfl
  | succ most ih =>
    have observes : (Operation.receive s.feed).observes = true := rfl
    have after := w.bare_perform_of_observes inj observes s.channel
    simp only [receive]
    generalize w.perform s.channel (.receive s.feed) = performed at after ⊢
    obtain ⟨u, outcome⟩ := performed
    cases outcome with
    | received receipt =>
      cases receipt with
      | none => exact after
      | some receipt => exact (ih u).trans after
    | _ => exact after

theorem bare_poll (inj : Function.Injective f) (use : Use) (waker : Option String) :
    (w.poll use waker).1.bare f = w.bare f := by
  apply given_of_same
  intro h
  have known : (waker.elim w w.addWaker).bare f = w.bare f := by
    cases waker with
    | none => rfl
    | some name =>
      simp only [Option.elim_some, addWaker]
      split
      · rfl
      · rfl
  rw [← known]
  apply given_of_same
  intro e
  have observes : (Operation.poll e.session.slot (waker.map .named)).observes = true := by
    cases waker <;> rfl
  exact bare_performVia_of_observes _ inj observes e.via e.session

/-- A step that only observes leaves the bare world as it was. -/
theorem bare_apply_of_passive (inj : Function.Injective f) (ticket : Nat) {step : Step}
    (passive : step.isPassive = true) : (w.apply ticket step).1.bare f = w.bare f := by
  cases step with
  | reportDevices => exact w.given_of_same _ fun ds => rfl
  | deviceStatuses => exact w.given_of_same _ fun ds => rfl
  | showSession session =>
    exact w.given_of_same _ fun h => w.given_of_same (w.system.session? h.session) fun s => rfl
  | poll use waker => exact w.bare_poll inj use waker
  | showWakes => rfl
  | isPending interrupter =>
    exact w.given_of_same _ fun id => w.given_of_same (w.system.session? id) fun s => rfl
  | subscribe channel feed => exact w.bare_subscribe inj channel feed
  | unsubscribe feed => exact w.bare_unsubscribe inj feed
  | receive feed most => exact w.given_of_same _ fun s => w.bare_receive inj s most
  | showStatus channel => exact w.given_of_same _ fun found => rfl
  | reportStatus channel => exact w.given_of_same _ fun found => rfl
  | describeSession session =>
    exact w.given_of_same _ fun h => w.given_of_same (w.system.session? h.session) fun s => rfl
  | describeInterrupter interrupter =>
    exact w.given_of_same _ fun id => w.given_of_same (w.system.session? id) fun s => rfl
  | describeChannel channel => exact w.given_of_same _ fun found => rfl
  | _ => contradiction

end World

end Scenario

end BytePipe
