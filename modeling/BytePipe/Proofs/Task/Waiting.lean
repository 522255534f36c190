import BytePipe.Proofs.Channel.Relief
import BytePipe.Proofs.System.Onward
import BytePipe.Proofs.Task.Polling
import BytePipe.Scenario.World

/-!
Waiting tasks never miss a wake-up. A poll that ends pending has found every channel that the task
waits for not ready and has left the task's waker on both queues of it (`Poller.poll_waits`). From
then on nothing changes there before the waker is woken, so as long as the task holds its sessions
open, polling it again would end pending again (`Poller.pending_until_woken`).
-/
namespace BytePipe

open BytePipe.System (Numbered Onward)

/-- The endpoint can be used and has nothing of interest to offer: its channel is the session's own,
the session is open and the channel is not ready. -/
structure System.Unready (s : System) (e : Endpoint) (interest : Readiness) (ch : Channel) :
    Prop where
  own : e.via = e.session.channel
  found : s.channels[e.session.channel]? = some ch
  isOpen : (ch.openSession? e.session.slot).isSome = true
  unready : ch.readiness.intersects interest = false

/-- The waker is left where the endpoint would become ready. -/
def System.Awaits (s : System) (w : Waker) (e : Endpoint) (interest : Readiness) : Prop :=
  ∃ ch, s.Unready e interest ch ∧ ch.Observed w

/-- A task in the state that a pending poll leaves it in, with a property of all endpoints and
interests that it waits for. -/
def Task.Waits (P : Endpoint → Readiness → Prop) (t : Task) : Prop :=
  match t.job with
  | .ready e interest => P e interest
  | .transfer e request => t.waiting = true ∧ P e request.direction.interest
  | .writeAll e rest => t.waiting = true ∧ rest ≠ [] ∧ P e Direction.writing.interest
  | .waitAny endpoints interest => ∀ e ∈ endpoints, P e interest

theorem Task.Waits.imp {P Q : Endpoint → Readiness → Prop} {t : Task} (waits : t.Waits P)
    (imp : ∀ e ∈ Scenario.endpoints t.job, ∀ interest, P e interest → Q e interest) :
    t.Waits Q := by
  obtain ⟨job, waiting⟩ := t
  cases job with
  | ready e interest => exact imp e List.mem_cons_self interest waits
  | transfer e request => exact ⟨waits.1, imp e List.mem_cons_self _ waits.2⟩
  | writeAll e rest => exact ⟨waits.1, waits.2.1, imp e List.mem_cons_self _ waits.2.2⟩
  | waitAny endpoints interest =>
    exact fun e listed => imp e listed interest (waits e listed)

theorem Channel.intersects_interest (ch : Channel) (d : Direction) :
    ch.readiness.intersects d.interest = ch.ready d := by
  cases d <;> simp [Readiness.intersects, Direction.interest, readiness]

namespace Poller

variable {memory : Memory} {most ticket : Nat} {p q : Poller} {e : Endpoint} {interest : Readiness}

/-! ## What a pending poll leaves behind -/

/-- A check that finds nothing of interest leaves the waker. -/
theorem awaits_registering {ch : Channel} {s : Session} (own : e.via = e.session.channel)
    (found : p.system.channels[e.session.channel]? = some ch)
    (isOpen : ch.openSession? e.session.slot = some s)
    (unready : ch.readiness.intersects interest = false) :
    (p.registering e ch).system.Awaits p.waker e interest := by
  have inside := (List.getElem?_eq_some_iff.mp found).1
  refine ⟨ch.registered p.waker, ⟨own, List.getElem?_set_self inside, ?_, unready⟩,
    ch.observed_registered p.waker⟩
  exact Option.isSome_iff_exists.mpr ⟨s, isOpen⟩

/-- A check leaves what is not ready not ready, and the wakers that wait there. -/
theorem unready_registering {first : Endpoint} {ch before : Channel}
    (found : p.system.channels[first.session.channel]? = some ch)
    (unready : p.system.Unready e interest before) :
    ∃ after, (p.registering first ch).system.Unready e interest after ∧
      ∀ w, before.Observed w → after.Observed w := by
  obtain ⟨own, located, isOpen, unready⟩ := unready
  by_cases same : first.session.channel = e.session.channel
  · rw [same] at found
    obtain rfl := Option.some.inj (found.symm.trans located)
    have inside := (List.getElem?_eq_some_iff.mp found).1
    refine ⟨ch.registered p.waker, ⟨own, ?_, isOpen, unready⟩, fun w observed =>
      observed.registered p.waker⟩
    rw [registering, same]
    exact List.getElem?_set_self inside
  · exact ⟨before, ⟨own, (List.getElem?_set_ne same).trans located, isOpen, unready⟩,
      fun _ => id⟩

theorem awaits_of_registering {w : Waker} {first : Endpoint} {ch : Channel}
    (found : p.system.channels[first.session.channel]? = some ch)
    (awaits : p.system.Awaits w e interest) :
    (p.registering first ch).system.Awaits w e interest := by
  obtain ⟨before, unready, observed⟩ := awaits
  obtain ⟨after, still, kept⟩ := unready_registering found unready
  exact ⟨after, still, kept w observed⟩

/-- How a transfer comes out that never sleeps. One that has to wait leaves the waker with its
channel; a write that succeeds has written. -/
inductive Tried (w : Waker) (e : Endpoint) (request : Request) :
    Poller × Waited Transferred → Prop where
  | waits (after : Poller) (awaits : after.system.Awaits w e request.direction.interest) :
    Tried w e request (after, none)
  | moved (after : Poller) (moved : Transferred)
    (written : ∀ data, request = .write data → data ≠ [] → ∃ n, moved = .count n ∧ 0 < n) :
    Tried w e request (after, some (.ok moved))
  | failed (after : Poller) (err : ChannelError) : Tried w e request (after, some (.error err))

theorem tried_tryOrWait (inStep : InStep memory most ticket p) (e : Endpoint) (request : Request) :
    Tried p.waker e request (p.tryOrWait e request) := by
  have attempt := attempted (e := e) (fun ch found => inStep.inside found) request
  unfold tryOrWait
  generalize p.attempt e request = result at attempt
  cases attempt with
  | blocked ch s account own found isOpen unready =>
    simp only [check_of_open (p := { p with account }) own found isOpen]
    refine .waits _ (awaits_registering (p := { p with account }) own found isOpen ?_)
    rw [Channel.intersects_interest, unready]
  | moved after moved written => exact .moved after moved written
  | failed after err other =>
    cases err with
    | wouldBlock => exact absurd rfl other
    | _ => exact .failed after _

theorem tried_advance (inStep : InStep memory most ticket p) (waiting : Bool) (e : Endpoint)
    (request : Request) :
    Tried p.waker e request (p.advance waiting e request) := by
  have looked := check_keeps InStep.perform inStep e
  have check := checked p e
  unfold advance
  generalize p.check e = result at check looked
  split
  · cases check with
    | seen ch s own found isOpen =>
      dsimp only
      split
      · exact tried_tryOrWait looked e request
      · rename_i unready
        exact .waits _ (awaits_registering own found isOpen (by simpa using unready))
    | failed after err => exact .failed after err
  · exact tried_tryOrWait inStep e request

/-- Sending stops before the end only where the channel is full. -/
theorem waits_sendAll (inStep : InStep memory most ticket p) {fuel : Nat} {waiting : Bool}
    {rest : List UInt8} {t : Task} (enough : rest.length ≤ fuel)
    (done : p.sendAll e fuel waiting rest = (q, .pending t)) :
    t.Waits (q.system.Awaits p.waker) := by
  induction fuel generalizing p waiting rest with
  | zero =>
    obtain rfl := List.length_eq_zero_iff.mp (Nat.le_zero.mp enough)
    cases done
  | succ fuel ih =>
    cases rest with
    | nil => cases done
    | cons byte rest =>
      have next := advance_keeps InStep.perform inStep waiting e (.write (byte :: rest))
      have waker := advance_keeps (P := fun after => after.waker = p.waker)
        (fun _ _ _ _ same => same) rfl waiting e (.write (byte :: rest))
      have tried := tried_advance inStep waiting e (.write (byte :: rest))
      rw [sendAll] at done
      · generalize p.advance waiting e (.write (byte :: rest)) = result at next waker tried done
        cases tried with
        | waits after awaits =>
          cases done
          exact ⟨rfl, List.cons_ne_nil byte rest, awaits⟩
        | moved after moved written =>
          obtain ⟨n, rfl, positive⟩ := written _ rfl (List.cons_ne_nil byte rest)
          have fewer : ((byte :: rest).drop n).length ≤ fuel := by
            rw [List.length_drop]
            omega
          exact waker ▸ ih next fewer done
        | failed after err => cases done
      · exact List.cons_ne_nil byte rest

/-- A scan that finds nothing leaves the waker with every endpoint. -/
theorem awaits_scan {index : Nat} {endpoints : List Endpoint}
    (done : p.scan interest index endpoints = (q, none)) :
    (∀ w e interest, p.system.Awaits w e interest → q.system.Awaits w e interest) ∧
      ∀ e ∈ endpoints, q.system.Awaits p.waker e interest := by
  induction endpoints generalizing p index with
  | nil =>
    cases done
    exact ⟨fun _ _ _ => id, fun e listed => absurd listed List.not_mem_nil⟩
  | cons first rest ih =>
    have check := checked p first
    rw [scan] at done
    generalize p.check first = result at check done
    cases check with
    | seen ch s own found isOpen =>
      dsimp only at done
      split at done
      · cases done
      · rename_i unready
        obtain ⟨later, others⟩ := ih done
        refine ⟨fun w e i awaits => later w e i (awaits_of_registering found awaits),
          fun e listed => ?_⟩
        rcases List.mem_cons.mp listed with rfl | among
        · exact later _ _ _ (awaits_registering own found isOpen (by simpa using unready))
        · exact others e among
    | failed after err => cases done

/-- A task that is pending waits, with its waker left everywhere. -/
theorem poll_waits (inStep : InStep memory most ticket p) {t after : Task}
    (polled : p.poll t = (q, .pending after)) : after.Waits (q.system.Awaits p.waker) := by
  obtain ⟨job, waiting⟩ := t
  cases job with
  | ready e interest =>
    have check := checked p e
    simp only [poll] at polled
    generalize p.check e = result at check polled
    cases check with
    | seen ch s own found isOpen =>
      dsimp only at polled
      split at polled
      · cases polled
      · rename_i unready
        cases polled
        exact awaits_registering own found isOpen (by simpa using unready)
    | failed after err => cases polled
  | transfer e request =>
    have tried := tried_advance inStep waiting e request
    simp only [poll] at polled
    generalize p.advance waiting e request = result at tried polled
    cases tried with
    | waits after awaits =>
      cases polled
      exact ⟨rfl, awaits⟩
    | moved after moved written => cases polled
    | failed after err => cases polled
  | writeAll e rest => exact waits_sendAll inStep (Nat.le_refl _) polled
  | waitAny endpoints interest =>
    simp only [poll] at polled
    split at polled
    · rename_i nothing
      cases polled
      exact (awaits_scan nothing).2
    · cases polled

/-! ## Polling again -/

theorem check_of_unready {ch : Channel} (unready : p.system.Unready e interest ch) :
    p.check e = (p.registering e ch, .ok ch.readiness) := by
  obtain ⟨s, isOpen⟩ := Option.isSome_iff_exists.mp unready.isOpen
  exact check_of_open unready.own unready.found isOpen

theorem advance_pending {request : Request} {ch : Channel}
    (unready : p.system.Unready e request.direction.interest ch) :
    (p.advance true e request).2 = none := by
  rw [advance, if_pos rfl, check_of_unready unready]
  dsimp only
  rw [unready.unready, if_neg Bool.false_ne_true]

theorem scan_pending {index : Nat} {endpoints : List Endpoint}
    (unready : ∀ e ∈ endpoints, ∃ ch, p.system.Unready e interest ch) :
    (p.scan interest index endpoints).2 = none := by
  induction endpoints generalizing p index with
  | nil => rfl
  | cons first rest ih =>
    obtain ⟨ch, here⟩ := unready first List.mem_cons_self
    rw [scan, check_of_unready here]
    dsimp only
    rw [here.unready, if_neg Bool.false_ne_true]
    refine ih fun e listed => ?_
    obtain ⟨before, there⟩ := unready e (List.mem_cons_of_mem first listed)
    obtain ⟨after, still, -⟩ := unready_registering here.found there
    exact ⟨after, still⟩

/-- Whoever waits where nothing is ready goes on waiting. -/
theorem poll_pending {t : Task}
    (waits : t.Waits fun e interest => ∃ ch, p.system.Unready e interest ch) :
    (p.poll t).2 = .pending t := by
  obtain ⟨job, waiting⟩ := t
  cases job with
  | ready e interest =>
    obtain ⟨ch, unready⟩ := waits
    simp only [poll, check_of_unready unready, unready.unready]
    rfl
  | transfer e request =>
    obtain ⟨rfl, ch, unready⟩ := waits
    have nothing := advance_pending unready
    simp only [poll]
    split
    · rfl
    · rename_i done
      rw [done] at nothing
      contradiction
  | writeAll e rest =>
    obtain ⟨rfl, some, ch, unready⟩ := waits
    have nothing : (p.advance true e (.write rest)).2 = none := advance_pending unready
    obtain ⟨byte, others, rfl⟩ := List.exists_cons_of_ne_nil some
    simp only [poll, List.length_cons]
    rw [sendAll]
    · split <;> rename_i done
      · rfl
      all_goals
        rw [done] at nothing
        contradiction
    · exact some
  | waitAny endpoints interest =>
    have nothing : (p.scan interest 0 endpoints).2 = none := scan_pending waits
    simp only [poll]
    split
    · rfl
    · rename_i done
      rw [done] at nothing
      contradiction

/-! ## Between two polls -/

/-- Until the waker is woken, what it waits for is as it was. -/
theorem unready_of_awaits {s u : System} {history later : History} {w : Waker}
    (reached : System.Reached memory most s history) (few : most < 2 ^ 31)
    (onward : Onward memory most s u later) (unwoken : ∀ c, (c, .woke w) ∉ later)
    (awaits : s.Awaits w e interest)
    (held : ∃ ch, u.channels[e.session.channel]? = some ch ∧
      (ch.openSession? e.session.slot).isSome = true) :
    ∃ ch, u.Unready e interest ch := by
  obtain ⟨ch, ⟨own, found, isOpen, unready⟩, observed⟩ := awaits
  obtain ⟨session, isOpen⟩ := Option.isSome_iff_exists.mp isOpen
  obtain ⟨after, still, kept⟩ :=
    reached.observed few onward found observed (Channel.roster_of_openSession? isOpen)
  obtain ⟨now, foundNow, openNow⟩ := held
  obtain rfl := Option.some.inj (kept.found.symm.trans foundNow)
  obtain ⟨present, isOpenNow⟩ := Option.isSome_iff_exists.mp openNow
  have listed := kept.listed.symm.trans (Channel.roster_of_openSession? isOpenNow)
  obtain ⟨-, rfl⟩ := Prod.mk.inj (Option.some.inj listed)
  obtain ⟨-, ring⟩ := kept.observed rfl (unwoken _)
  refine ⟨after, own, foundNow, openNow, ?_⟩
  have same : after.readiness = ch.readiness := by
    rw [Channel.readiness, Channel.readiness, Channel.ready_congr ring, Channel.ready_congr ring]
  rw [same]
  exact unready

/-- The poll of any other task is among what may happen meanwhile. -/
theorem onward_poll {s u : System} {later : History} (numbered : Numbered memory most ticket u)
    (onward : Onward memory most s u later) (w : Waker) (t : Task) :
    ∃ more, Onward memory most s (Poller.poll ⟨u, w, ticket, []⟩ t).1.system (later ++ more) ∧
      more.map Prod.snd = (Poller.poll ⟨u, w, ticket, []⟩ t).1.account := by
  have kept := poll_keeps (p := ⟨u, w, ticket, []⟩) (t := t)
    (P := fun q => InStep memory most ticket q ∧ ∃ more,
      Onward memory most s q.system (later ++ more) ∧ more.map Prod.snd = q.account) ?_
    ⟨⟨rfl, numbered⟩, [], (List.append_nil later).symm ▸ onward, rfl⟩
  · exact kept.2
  · rintro q e op does ⟨inStep, more, before, told⟩
    have after := inStep.perform q e op does
    refine ⟨after, ?_⟩
    obtain ⟨history, reached⟩ := after.numbered.reached
    by_cases own : e.via = e.session.channel
    · rw [Poller.perform, System.performVia, if_pos own] at reached ⊢
      have next := before.performed e.via op
        (fun ch found => inStep.numbered.fresh (inStep.own ▸ does.quiet.tickets) found)
        reached.openSessions_le
      refine ⟨_, List.append_assoc later more _ ▸ next, ?_⟩
      simp [told, Function.comp_def]
    · rw [Poller.perform, System.performVia_foreign _ own]
      exact ⟨more, before, told.trans (List.append_nil _).symm⟩

/-! ## More sessions than can be counted -/

/-- A step on the only channel there is. -/
theorem numbered_perform_only {ch after : Channel} {op : Operation} {outcome : Outcome}
    {told : List Notice} (numbered : Numbered memory most ticket ⟨memory, [ch]⟩)
    (performed : ch.perform memory op = (after, outcome, told))
    (tickets : ∀ call, op.call? = some call → call.ticket = ticket)
    (few : after.openSessions ≤ most) : Numbered memory most (ticket + 1) ⟨memory, [after]⟩ := by
  have next := numbered.perform 0 tickets (System.openSessions_perform_only performed few)
  rwa [System.perform_only performed] at next

/-- Any number of sessions can be open on one channel. -/
theorem numbered_crowd (granted : memory.grants 2 = true) {n : Nat} (room : n + 1 ≤ most) :
    ∃ ticket, Numbered memory most ticket ⟨memory, [.crowded "pipe" 2 (n + 1)]⟩ := by
  induction n with
  | zero =>
    have empty : Numbered memory most 0 (.empty memory) :=
      ⟨⟨[], .empty⟩, fun ch listed => absurd listed List.not_mem_nil⟩
    have created := empty.created (show Channel.create? "pipe" 2 = .ok _ from rfl)
    exact ⟨1, numbered_perform_only created (Channel.perform_openSession_named granted)
      (fun call made => by cases made) room⟩
  | succ n ih =>
    obtain ⟨ticket, numbered⟩ := ih (Nat.le_of_succ_le room)
    have within : (Channel.crowded "pipe" 2 (n + 2)).openSessions ≤ most := by
      rw [Channel.openSessions_crowded]
      exact room
    exact ⟨ticket + 1, numbered_perform_only numbered
      (Channel.perform_openSession_crowded memory _ _ n) (fun call made => by cases made) within⟩

/-- So the ring of such a channel can be full. -/
theorem numbered_filled (granted : memory.grants 2 = true) {n : Nat} (room : n + 2 ≤ most) :
    ∃ ticket, Numbered memory most ticket ⟨memory, [.filled (n + 2)]⟩ := by
  obtain ⟨ticket, numbered⟩ := numbered_crowd granted room
  have sessions : (Channel.filled (n + 2)).openSessions = n + 2 :=
    Channel.openSessions_crowded "pipe" 2 (n + 2)
  exact ⟨ticket + 1, numbered_perform_only numbered (Channel.perform_fill memory n ticket)
    (fun call made => by cases made; rfl) (Nat.le_trans (Nat.le_of_eq sessions) room)⟩

/-- The storage goes from under a task that waits for room. Nobody is woken, and there is room. -/
theorem robbed_unwoken (granted : memory.grants 2 = true) {n : Nat}
    (many : (n + 1) % 2 ^ 31 = 0) (room : n + 2 ≤ most) :
    let task : Task := ⟨.ready ⟨0, ⟨0, 1⟩⟩ ⟨false, true⟩, false⟩
    ∃ ticket p u, Numbered memory most ticket ⟨memory, [.filled (n + 2)]⟩ ∧
      Poller.poll ⟨⟨memory, [.filled (n + 2)]⟩, .task 0, ticket, []⟩ task = (p, .pending task) ∧
      Onward memory most p.system u [(0, .countedOut 0), (0, .released)] ∧
      (∃ ch, u.channels[0]? = some ch ∧ (ch.openSession? 1).isSome = true) ∧
      (Poller.poll ⟨u, .task 0, ticket + 1, []⟩ task).2
        = .resolved (.ok (.readiness ⟨false, true⟩)) := by
  intro task
  let waiting := (Channel.filled (n + 2)).registered (.task 0)
  have closed : waiting.perform memory (.closeSession 0) = _ :=
    Channel.perform_closeSession_of_wrapped (s := ⟨.readWrite, false, false, true⟩) many rfl rfl
      rfl rfl
  have all : waiting.openSessions = n + 2 := Channel.openSessions_crowded "pipe" 2 (n + 2)
  have few : waiting.robbed.openSessions ≤ most :=
    Nat.le_trans (Channel.openSessions_robbed_le rfl) (Nat.le_trans (Nat.le_of_eq all) room)
  have onward := (@Onward.here memory most ⟨memory, [waiting]⟩).performed 0 (.closeSession 0)
    (fun ch _ => .of_silent (.closeSession 0) rfl ch) (System.openSessions_perform_only closed few)
  rw [System.perform_only closed] at onward
  obtain ⟨ticket, numbered⟩ := numbered_filled granted room
  exact ⟨ticket, _, _, numbered, rfl, onward, ⟨_, rfl, rfl⟩, rfl⟩

/-! ## No wake-up is missed -/

/-- A task that is pending and whose waker has not been woken since would end pending again,
whatever has happened meanwhile, on its own channels or others: opens and closes, transfers, failed
calls, sleeping calls, interrupts, polls with other wakers and whole polls of other tasks. A read that
is pending so long finds its ring empty, and a write finds it full. The task holds its sessions, so
they are open; a channel has fewer than `2 ^ 31` open sessions at once. -/
theorem pending_until_woken {s u : System} {w : Waker} {t after : Task} {later : History}
    (numbered : Numbered memory most ticket s) (few : most < 2 ^ 31)
    (polled : Poller.poll ⟨s, w, ticket, []⟩ t = (p, .pending after))
    (onward : Onward memory most p.system u later)
    (held : ∀ e ∈ Scenario.endpoints after.job, ∃ ch,
      u.channels[e.session.channel]? = some ch ∧ (ch.openSession? e.session.slot).isSome = true)
    (unwoken : ∀ c, (c, .woke w) ∉ later) :
    (∀ again ticket, (Poller.poll ⟨u, again, ticket, []⟩ after).2 = .pending after) ∧
    (∀ e length, after.job = .transfer e (.read length) →
      ∃ ch, u.channels[e.session.channel]? = some ch ∧ ch.ring.contents = []) ∧
    (∀ e data, after.job = .transfer e (.write data) ∨ after.job = .writeAll e data →
      ∃ ch, u.channels[e.session.channel]? = some ch ∧ ch.ring.free = 0) ∧
    (∀ other again ticket, Numbered memory most ticket u → ∃ more,
      Onward memory most p.system (Poller.poll ⟨u, again, ticket, []⟩ other).1.system
        (later ++ more) ∧
      more.map Prod.snd = (Poller.poll ⟨u, again, ticket, []⟩ other).1.account) := by
  have inStep : InStep memory most ticket ⟨s, w, ticket, []⟩ := ⟨rfl, numbered⟩
  have waits := poll_waits inStep polled
  have reached := (inStep.poll t).numbered.reached
  rw [polled] at reached
  obtain ⟨history, reached⟩ := reached
  have still : after.Waits fun e interest => ∃ ch, u.Unready e interest ch :=
    waits.imp fun e listed interest awaits =>
      unready_of_awaits reached few onward unwoken awaits (held e listed)
  have living := (reached.onward onward).living
  obtain ⟨job, waiting⟩ := after
  refine ⟨fun again ticket => poll_pending (p := ⟨u, again, ticket, []⟩) still,
    fun e length made => ?_, fun e data made => ?_,
    fun other again ticket next => onward_poll next onward again other⟩
  · obtain rfl : job = .transfer e (.read length) := made
    obtain ⟨-, ch, -, found, -, unready⟩ := still
    refine ⟨ch, found, ?_⟩
    have empty : ch.ready .reading = false := (ch.intersects_interest .reading).symm.trans unready
    have counted := (living.lived _ ch found).counted (by omega)
    exact (Ring.contents_eq_nil_iff counted.wellFormed).mpr (Channel.isEmpty_of_ready empty)
  · have full : ∃ ch, u.Unready e Direction.writing.interest ch := by
      rcases made with made | made
      · obtain rfl : job = .transfer e (.write data) := made
        exact still.2
      · obtain rfl : job = .writeAll e data := made
        exact still.2.2
    obtain ⟨ch, -, found, -, unready⟩ := full
    have none : ch.ready .writing = false := (ch.intersects_interest .writing).symm.trans unready
    exact ⟨ch, found, by simpa [Channel.ready] using none⟩

/-- A task waits for bytes on an empty channel of two bytes. Another party's read there fails, and
the task goes on waiting. -/
theorem pending_until_woken_failed_read :
    ∃ s p u after later, Numbered ⟨16, by decide⟩ 1 1 s ∧
      Poller.poll ⟨s, .task 0, 1, []⟩ ⟨.transfer ⟨0, ⟨0, 0⟩⟩ (.read 1), false⟩
        = (p, .pending after) ∧
      Onward ⟨16, by decide⟩ 1 p.system u later ∧ later.length = 1 ∧
      (Poller.poll ⟨u, .task 0, 2, []⟩ after).2 = .pending after := by
  have empty : Numbered ⟨16, by decide⟩ 1 0 (.empty _) :=
    ⟨⟨[], .empty⟩, fun ch listed => absurd listed List.not_mem_nil⟩
  have created := empty.created (show Channel.create? "pipe" 2 = .ok _ from rfl)
  let s := (((System.empty ⟨16, by decide⟩).addChannel (.named "pipe" 2)).1.perform 0
    (.openSession .readWrite false)).1
  have opened : Numbered ⟨16, by decide⟩ 1 1 s :=
    created.perform 0 (fun call made => by cases made) (by decide)
  let p := (Poller.poll ⟨s, .task 0, 1, []⟩ ⟨.transfer ⟨0, ⟨0, 0⟩⟩ (.read 1), false⟩).1
  have polled : Poller.poll ⟨s, .task 0, 1, []⟩ ⟨.transfer ⟨0, ⟨0, 0⟩⟩ (.read 1), false⟩
      = (p, .pending ⟨.transfer ⟨0, ⟨0, 0⟩⟩ (.read 1), true⟩) := rfl
  have onward := (@Onward.here ⟨16, by decide⟩ 1 p.system).performed 0 (.tryCall ⟨1, 0, .read 1⟩)
    (fun ch found => .of_idle _ fun d => by cases found; cases d <;> rfl) (by decide)
  refine ⟨s, p, _, _, _, opened, polled, onward, by decide +kernel, ?_⟩
  refine (pending_until_woken opened (by decide) polled onward (fun e listed => ?_)
    fun c told => ?_).1 _ _
  · obtain rfl := List.mem_singleton.mp listed
    exact (Option.any_eq_true _ _).mp (by decide +kernel)
  · have failed : (p.system.perform 0 (.tryCall ⟨1, 0, .read 1⟩)).2.2.all
        (·.call?.isSome) = true := by decide +kernel
    rcases List.mem_append.mp told with before | now
    · exact absurd before List.not_mem_nil
    · obtain ⟨n, given, same⟩ := List.mem_map.mp now
      obtain rfl := congrArg Prod.snd same
      exact absurd (List.all_eq_true.mp failed _ given) Bool.false_ne_true

/-- A task waits for room on a full channel with `2 ^ 31 + 1` read-write sessions. One of the others is
closed, and the storage goes with it. The task's waker is not woken, and a poll would show room. -/
theorem room_without_waking :
    let task : Task := ⟨.ready ⟨0, ⟨0, 1⟩⟩ ⟨false, true⟩, false⟩
    let s : System := ⟨⟨16, by decide⟩, [.fullCrowd ⟨16, by decide⟩ (2 ^ 31 + 1)]⟩
    ∃ ticket p u, Numbered ⟨16, by decide⟩ (2 ^ 31 + 1) ticket s ∧
      Poller.poll ⟨s, .task 0, ticket, []⟩ task = (p, .pending task) ∧
      Onward ⟨16, by decide⟩ (2 ^ 31 + 1) p.system u [(0, .countedOut 0), (0, .released)] ∧
      (∃ ch, u.channels[0]? = some ch ∧ (ch.openSession? 1).isSome = true) ∧
      (Poller.poll ⟨u, .task 0, ticket + 1, []⟩ task).2
        = .resolved (.ok (.readiness ⟨false, true⟩)) := by
  have granted : (Memory.mk 16 (by decide)).grants 2 = true := rfl
  have many : (2 ^ 31 - 1 + 1) % 2 ^ 31 = 0 := rfl
  have sessions : 2 ^ 31 + 1 = 2 ^ 31 - 1 + 2 := rfl
  dsimp only
  rw [sessions, Channel.fullCrowd_eq granted (2 ^ 31 - 1)]
  exact robbed_unwoken granted many (Nat.le_refl _)

end Poller

end BytePipe
