import BytePipe.Proofs.Task.Polling
import BytePipe.Scenario.Run

/-!
Every world of a scenario holds a system that has been reached (`Scenario.run_reached`): whatever a
step does, with sessions, devices or tasks, it does by operations on channels.
-/
namespace BytePipe

open BytePipe.System (Numbered)

variable {memory : Memory} {most ticket : Nat}

namespace Scenario

namespace World

variable {w : World}

theorem system_countNotice (w : World) (n : Notice) : (w.countNotice n).system = w.system := by
  cases n with
  | woke waker =>
    cases waker with
    | named name =>
      simp only [countNotice, countWake]
      split <;> rfl
    | task ticket => rfl
  | _ => rfl

theorem system_absorb (w : World) (system : System) (account : List Notice) :
    (w.absorb system account).system = system := by
  unfold absorb
  have counting (v : World) : (account.foldl countNotice v).system = v.system := by
    induction account generalizing v with
    | nil => rfl
    | cons n rest ih => rw [List.foldl_cons, ih, system_countNotice]
  rw [counting]

theorem system_perform (w : World) (c : ChannelId) (op : Operation) :
    (w.perform c op).1.system = (w.system.perform c op).1 :=
  system_absorb w _ _

theorem system_performVia (w : World) (via : ChannelId) (id : SessionId) (op : Operation) :
    (w.performVia via id op).1.system = (w.system.performVia via id op).1 :=
  system_absorb w _ _

/-- A world that a step leads to, provided that not too many sessions are open then. -/
def Leads (memory : Memory) (most ticket : Nat) (after : World) : Prop :=
  (∀ ch ∈ after.system.channels, ch.openSessions ≤ most) →
    Numbered memory most (ticket + 1) after.system

theorem leads_of_quiet {after : World} (numbered : Numbered memory most ticket after.system) :
    Leads memory most ticket after :=
  fun _ => numbered.next

theorem leads_given {α : Type} (numbered : Numbered memory most ticket w.system) (found : Option α)
    {next : α → World × Reply} (leads : ∀ a, found = some a → Leads memory most ticket (next a).1) :
    Leads memory most ticket (w.given found next).1 := by
  unfold given
  split
  · exact leads_of_quiet numbered
  · exact leads _ rfl

theorem leads_perform (numbered : Numbered memory most ticket w.system) (c : ChannelId)
    {op : Operation} (tickets : ∀ call, op.call? = some call → call.ticket = ticket) :
    Leads memory most ticket (w.perform c op).1 := by
  intro few
  rw [system_perform] at few ⊢
  exact numbered.perform c tickets few

theorem numbered_perform (numbered : Numbered memory most ticket w.system) (c : ChannelId)
    {op : Operation} (quiet : op.Quiet ticket) :
    Numbered memory most ticket (w.perform c op).1.system := by
  rw [system_perform]
  exact numbered.quiet c quiet

theorem leads_reply (numbered : Numbered memory most ticket w.system) (c : ChannelId)
    {op : Operation} (quiet : op.Quiet ticket) :
    Leads memory most ticket (reply (w.perform c op)).1 :=
  leads_of_quiet (numbered_perform numbered c quiet)

/-! ## Channels, devices and sessions -/

theorem leads_createChannel (numbered : Numbered memory most ticket w.system) (channel : String)
    (capacity : Nat) (name : Option String) :
    Leads memory most ticket (w.createChannel channel capacity name).1 := by
  unfold createChannel
  split
  · exact leads_of_quiet numbered
  · rename_i ch created
    exact leads_of_quiet (numbered.created created)

theorem leads_makeDevices (numbered : Numbered memory most ticket w.system) (config : PipeConfig) :
    Leads memory most ticket (w.makeDevices config).1 := by
  unfold makeDevices
  split
  · exact leads_of_quiet numbered
  · rename_i system ds installed
    exact leads_of_quiet (numbered.installed installed)

theorem leads_nameDevice (numbered : Numbered memory most ticket w.system) (minor : Nat)
    (channel : String) : Leads memory most ticket (w.nameDevice minor channel).1 := by
  refine leads_given numbered _ fun ds _ => ?_
  split
  · exact leads_of_quiet numbered
  · exact leads_given numbered _ fun ch _ => leads_of_quiet numbered

theorem leads_openSession (numbered : Numbered memory most ticket w.system)
    (channel session : String) (mode : AccessMode) (nonBlocking : Bool) :
    Leads memory most ticket (w.openSession channel session mode nonBlocking).1 := by
  refine leads_given numbered _ fun id _ => ?_
  split
  · exact leads_of_quiet numbered
  · have silent : ∀ call, (Operation.openSession mode nonBlocking).call? = some call →
        call.ticket = ticket := fun call called => by cases called
    have last := leads_perform numbered id silent
    split
    · rename_i done
      rw [done] at last
      exact last
    · exact last

/-- A device that is opened is opened by an operation on its channel. -/
theorem system_of_openDevice {ds : DeviceSet} {s after : System} {minor : Nat} {mode : AccessMode}
    {nonBlocking : Bool} {id : SessionId}
    (opened : ds.openDevice s minor mode nonBlocking = .ok (after, id)) :
    ∃ c, after = (s.perform c (.openSession mode nonBlocking)).1 := by
  unfold DeviceSet.openDevice at opened
  cases known : ds.channel minor with
  | error e =>
    rw [known] at opened
    cases opened
  | ok c =>
    rw [known] at opened
    simp only [bind, Except.bind] at opened
    refine ⟨c, ?_⟩
    split at opened
    · rename_i done
      rw [done]
      cases opened
      rfl
    · cases opened
    · cases opened

theorem leads_keepHandle (numbered : Numbered memory most ticket w.system) (session : String)
    (minor : Nat) {opened : Except ChannelError (System × SessionId)}
    (opens : ∀ after id, opened = .ok (after, id) →
      ∃ c mode nonBlocking, after = (w.system.perform c (.openSession mode nonBlocking)).1) :
    Leads memory most ticket (w.keepHandle session minor opened).1 := by
  cases opened with
  | error e => exact leads_of_quiet numbered
  | ok result =>
    obtain ⟨after, id⟩ := result
    obtain ⟨c, mode, nonBlocking, rfl⟩ := opens after id rfl
    exact fun few => numbered.perform c (fun call called => by cases called) few

theorem leads_openDevice (numbered : Numbered memory most ticket w.system) (minor : Nat)
    (session : String) {openIn : DeviceSet → Except ChannelError (System × SessionId)}
    (opens : ∀ ds after id, openIn ds = .ok (after, id) →
      ∃ c mode nonBlocking, after = (w.system.perform c (.openSession mode nonBlocking)).1) :
    Leads memory most ticket (w.openDevice minor session openIn).1 := by
  refine leads_given numbered _ fun ds _ => ?_
  split
  · exact leads_of_quiet numbered
  · exact leads_keepHandle numbered session minor (opens ds)

theorem leads_endSession (numbered : Numbered memory most ticket w.system) (session : String)
    (id : SessionId) (how : System.Ending) :
    Leads memory most ticket (w.endSession session id how).1 := by
  unfold endSession
  split
  · exact leads_of_quiet numbered
  · obtain ⟨op, ends, same⟩ := w.system.endSession_eq id how
    refine leads_of_quiet ?_
    simp only [system_absorb, same]
    refine numbered.quiet id.channel ?_
    cases ends <;> trivial

theorem leads_useSession (numbered : Numbered memory most ticket w.system) (use : Use)
    {op : Slot → Operation}
    (tickets : ∀ slot call, (op slot).call? = some call → call.ticket = ticket) :
    Leads memory most ticket (w.useSession use op).1 := by
  refine leads_given numbered _ fun e _ few => ?_
  change ∀ ch ∈ (w.performVia e.via e.session (op e.session.slot)).1.system.channels, _ at few
  change Numbered _ _ _ (w.performVia e.via e.session (op e.session.slot)).1.system
  rw [system_performVia] at few ⊢
  exact numbered.performVia e.via e.session (tickets e.session.slot) few

theorem leads_poll (numbered : Numbered memory most ticket w.system) (use : Use)
    (waker : Option String) : Leads memory most ticket (w.poll use waker).1 := by
  refine leads_given numbered _ fun _ _ => ?_
  have known : (waker.elim w w.addWaker).system = w.system := by
    cases waker with
    | none => rfl
    | some name =>
      change (w.addWaker name).system = w.system
      unfold addWaker
      split <;> rfl
  refine leads_useSession (known ▸ numbered) use fun slot call called => ?_
  cases called

theorem leads_interruptSession (numbered : Numbered memory most ticket w.system) (id : SessionId) :
    Leads memory most ticket (w.interruptSession id).1 := by
  have quiet : Operation.Quiet ticket (.interrupt id.slot) := trivial
  exact leads_reply numbered id.channel quiet

/-! ## Subscriptions and tasks -/

theorem numbered_unsubscribe (numbered : Numbered memory most ticket w.system) (feed : String) :
    Numbered memory most ticket (w.unsubscribe feed).1.system := by
  unfold unsubscribe
  split
  · exact numbered
  · rename_i s known
    have quiet : Operation.Quiet ticket (.unsubscribe s.feed) := trivial
    have after := numbered_perform numbered s.channel quiet
    generalize w.perform s.channel (.unsubscribe s.feed) = result at after ⊢
    exact after

theorem leads_subscribe (numbered : Numbered memory most ticket w.system) (channel feed : String) :
    Leads memory most ticket (w.subscribe channel feed).1 := by
  refine leads_given numbered _ fun id _ => leads_of_quiet ?_
  have quiet : Operation.Quiet ticket .subscribe := trivial
  have after := numbered_perform (numbered_unsubscribe numbered feed) id quiet
  dsimp only
  split
  · rename_i done
    rw [done] at after
    exact after
  · exact after

theorem numbered_receive (numbered : Numbered memory most ticket w.system) (s : Subscription)
    (times : Nat) : Numbered memory most ticket (w.receive s times).1.system := by
  induction times generalizing w with
  | zero => exact numbered
  | succ times ih =>
    have quiet : Operation.Quiet ticket (.receive s.feed) := trivial
    have after := numbered_perform numbered s.channel quiet
    rw [receive]
    split
    · rename_i done
      rw [done] at after
      have later := ih after
      generalize World.receive _ s times = result at later ⊢
      exact later
    · rename_i done
      rw [done] at after
      exact after

theorem leads_makeTask (numbered : Numbered memory most ticket w.system) (number : Nat)
    (task : String) (purpose : Purpose) :
    Leads memory most ticket (w.makeTask number task purpose).1 :=
  leads_given numbered _ fun _ _ => leads_of_quiet numbered

theorem numbered_pollTask (numbered : Numbered memory most ticket w.system) (name : String)
    (slot : TaskSlot) (task : Task) :
    Numbered memory most ticket (w.pollTask ticket name slot task).1.system := by
  have inStep : Poller.InStep memory most ticket ⟨w.system, .task slot.ticket, ticket, []⟩ :=
    ⟨rfl, numbered⟩
  have after := (inStep.poll task).numbered
  unfold pollTask
  dsimp only
  split
  · rw [system_absorb]
    exact after
  · change Numbered _ _ _ (World.absorb _ _ _).system
    rw [system_absorb]
    exact after

theorem numbered_runTasks (numbered : Numbered memory most ticket w.system) (fuel : Nat) :
    Numbered memory most ticket (w.runTasks ticket fuel).1.system := by
  induction fuel generalizing w with
  | zero => exact numbered
  | succ fuel ih =>
    rw [runTasks]
    split
    · exact numbered
    · exact ih (numbered_pollTask numbered _ _ _)

/-! ## Steps and runs -/

/-- Whatever a step does is done by operations, of which only the last one opens a session or puts a
call to sleep. -/
theorem leads_apply (numbered : Numbered memory most ticket w.system) (s : Step) :
    Leads memory most ticket (w.apply ticket s).1 := by
  cases s with
  | createChannel channel capacity name => exact leads_createChannel numbered channel capacity name
  | makeDevices config => exact leads_makeDevices numbered config
  | nameDevice minor channel => exact leads_nameDevice numbered minor channel
  | openSession channel session mode nonBlocking =>
    exact leads_openSession numbered channel session mode nonBlocking
  | openDevice minor session mode nonBlocking =>
    refine leads_openDevice numbered minor session fun ds after id opened => ?_
    obtain ⟨c, rfl⟩ := system_of_openDevice opened
    exact ⟨c, mode, nonBlocking, rfl⟩
  | openDeviceFlags minor session flags =>
    refine leads_openDevice numbered minor session fun ds after id opened => ?_
    unfold DeviceSet.openWithFlags at opened
    cases known : DeviceSet.modeOfFlags flags with
    | error e =>
      rw [known] at opened
      cases opened
    | ok mode =>
      rw [known] at opened
      obtain ⟨c, rfl⟩ := system_of_openDevice opened
      exact ⟨c, mode, flags.isNonBlocking, rfl⟩
  | closeSession use =>
    refine leads_given numbered _ fun h _ => leads_given numbered _ fun e _ => ?_
    exact leads_endSession numbered use.session e.session _
  | dropSession session =>
    exact leads_given numbered _ fun h _ => leads_endSession numbered session h.session .drop
  | setNonBlocking session nonBlocking =>
    refine leads_given numbered _ fun h _ => ?_
    split
    · exact leads_of_quiet numbered
    · have quiet : Operation.Quiet ticket (.setNonBlocking h.session.slot nonBlocking) := trivial
      exact leads_reply numbered h.session.channel quiet
  | showSession session =>
    exact leads_given numbered _ fun h _ => leads_given numbered _ fun s _ => leads_of_quiet numbered
  | call use request =>
    have tickets (slot : Slot) (c : Call)
        (called : (Operation.call ⟨ticket, slot, request⟩).call? = some c) : c.ticket = ticket := by
      obtain rfl := Option.some.inj called
      rfl
    rw [apply]
    exact leads_useSession numbered use tickets
  | tryCall use request =>
    have tickets (slot : Slot) (c : Call)
        (called : (Operation.tryCall ⟨ticket, slot, request⟩).call? = some c) :
        c.ticket = ticket := by
      obtain rfl := Option.some.inj called
      rfl
    rw [apply]
    exact leads_useSession numbered use tickets
  | poll use waker => exact leads_poll numbered use waker
  | signal session =>
    exact leads_given numbered _ fun h _ => leads_interruptSession numbered h.session
  | interrupt interrupter =>
    exact leads_given numbered _ fun id _ => leads_interruptSession numbered id
  | isPending interrupter =>
    exact leads_given numbered _ fun id _ => leads_given numbered _ fun s _ => leads_of_quiet numbered
  | subscribe channel feed => exact leads_subscribe numbered channel feed
  | unsubscribe feed => exact leads_of_quiet (numbered_unsubscribe numbered feed)
  | receive feed times =>
    exact leads_given numbered _ fun s _ => leads_of_quiet (numbered_receive numbered s times)
  | describeSession session =>
    exact leads_given numbered _ fun h _ => leads_given numbered _ fun s _ => leads_of_quiet numbered
  | describeInterrupter interrupter =>
    exact leads_given numbered _ fun id _ => leads_given numbered _ fun s _ => leads_of_quiet numbered
  | sameChannel channel other =>
    exact leads_given numbered _ fun a _ => leads_given numbered _ fun b _ => leads_of_quiet numbered
  | makeTask task purpose => exact leads_makeTask numbered ticket task purpose
  | pollTask task =>
    exact leads_given numbered _ fun found _ => leads_of_quiet (numbered_pollTask numbered _ _ _)
  | runTasks => exact leads_of_quiet (numbered_runTasks numbered _)
  | dropChannel channel => exact leads_of_quiet numbered
  | showWakes => exact leads_of_quiet numbered
  | cancelTask task => exact leads_of_quiet numbered
  | _ => exact leads_given numbered _ fun _ _ => leads_of_quiet numbered

end World

variable {w : World}

theorem numbered_run (numbered : Numbered memory most ticket w.system) {steps : List Step}
    (few : ∀ r ∈ run w ticket steps, ∀ ch ∈ r.1.system.channels, ch.openSessions ≤ most) :
    ∀ r ∈ run w ticket steps, ∃ later, Numbered memory most later r.1.system := by
  induction steps generalizing w ticket with
  | nil => exact fun r listed => absurd listed List.not_mem_nil
  | cons s rest ih =>
    rw [run] at few ⊢
    have next : Numbered memory most (ticket + 1) (w.step ticket s).1.system :=
      World.leads_apply (w := { w with account := [] }) numbered s (few _ List.mem_cons_self)
    intro r listed
    rcases List.mem_cons.mp listed with rfl | later
    · exact ⟨ticket + 1, next⟩
    · exact ih next (fun r listed => few r (List.mem_cons_of_mem _ listed)) r later

/-- Each step is made in a world whose sleeping calls are of earlier steps. -/
theorem step_of_run (numbered : Numbered memory most ticket w.system) {steps : List Step}
    (few : ∀ r ∈ run w ticket steps, ∀ ch ∈ r.1.system.channels, ch.openSessions ≤ most) {i : Nat}
    {s : Step} {r : World × Report} (asked : steps[i]? = some s)
    (given : (run w ticket steps)[i]? = some r) :
    ∃ v : World, Numbered memory most (ticket + i) v.system ∧ r = v.step (ticket + i) s := by
  induction steps generalizing w ticket i with
  | nil => contradiction
  | cons first rest ih =>
    rw [run] at few given
    cases i with
    | zero =>
      cases asked
      cases given
      exact ⟨w, numbered, rfl⟩
    | succ i =>
      have next : Numbered memory most (ticket + 1) (w.step ticket first).1.system :=
        World.leads_apply (w := { w with account := [] }) numbered first
          (few _ List.mem_cons_self)
      obtain ⟨v, here, same⟩ :=
        ih next (fun r listed => few r (List.mem_cons_of_mem _ listed)) asked given
      rw [Nat.add_assoc, Nat.add_comm 1 i] at here same
      exact ⟨v, here, same⟩

theorem numbered_fresh : Numbered memory most 0 (World.fresh memory).system :=
  ⟨⟨[], .empty⟩, fun _ listed => absurd listed List.not_mem_nil⟩

/-- Along any scenario, and with the worlds' own bound on the sessions open at once, every world
holds a reached system. -/
theorem run_reached {steps : List Step}
    (few : ∀ r ∈ run (.fresh memory) 0 steps, ∀ ch ∈ r.1.system.channels, ch.openSessions ≤ most) :
    ∀ r ∈ run (.fresh memory) 0 steps, ∃ history, System.Reached memory most r.1.system history := by
  intro r listed
  obtain ⟨later, numbered⟩ := numbered_run numbered_fresh few r listed
  exact numbered.reached

end Scenario

end BytePipe
