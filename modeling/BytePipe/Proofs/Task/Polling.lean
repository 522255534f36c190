import BytePipe.Proofs.Channel.Observers
import BytePipe.Proofs.System.Numbered
import BytePipe.Proofs.System.Sessions
import BytePipe.Task

/-!
What a poll of a task does. It acts by looks at endpoints and by attempts, so whatever these keep a
poll keeps (`Poller.poll_keeps`); they neither open a session nor put a call to sleep, so it may come
within any step (`Poller.InStep.poll`).

A check registers the task's waker with an open session's channel and tells its readiness
(`Poller.Checked`); an attempt that would block changes nothing (`Poller.Attempted`).
-/
namespace BytePipe

open BytePipe.System (Numbered)

namespace Poller

/-- What a poller does at an endpoint: it looks, and leaves its own waker there, or attempts a
transfer that does not sleep. -/
inductive Does (p : Poller) (e : Endpoint) : Operation → Prop where
  | look : Does p e (.poll e.session.slot (some p.waker))
  | attempt (request : Request) : Does p e (.tryCall ⟨p.ticket, e.session.slot, request⟩)

theorem Does.quiet {p : Poller} {e : Endpoint} {op : Operation} (does : p.Does e op) :
    op.Quiet p.ticket := by
  cases does with
  | look => trivial
  | attempt request => rfl

section Keeps

variable {P : Poller → Prop}
  (kept : ∀ (p : Poller) (e : Endpoint) (op : Operation), p.Does e op → P p →
    P (p.perform e op).1)
include kept

theorem check_keeps {p : Poller} (holds : P p) (e : Endpoint) : P (p.check e).1 := by
  have after := kept p e _ .look holds
  unfold Poller.check
  split <;> rename_i done <;> rw [done] at after <;> exact after

theorem attempt_keeps {p : Poller} (holds : P p) (e : Endpoint) (request : Request) :
    P (p.attempt e request).1 := by
  have after := kept p e _ (.attempt request) holds
  unfold Poller.attempt
  split <;> rename_i done <;> rw [done] at after <;> exact after

theorem tryOrWait_keeps {p : Poller} (holds : P p) (e : Endpoint) (request : Request) :
    P (p.tryOrWait e request).1 := by
  have after := attempt_keeps kept holds e request
  unfold Poller.tryOrWait
  split
  · rename_i blocked
    rw [blocked] at after
    have checked := check_keeps kept after e
    split <;> rename_i seen <;> rw [seen] at checked <;> exact checked
  · rename_i done
    rw [done] at after
    exact after

theorem advance_keeps {p : Poller} (holds : P p) (waiting : Bool) (e : Endpoint)
    (request : Request) : P (p.advance waiting e request).1 := by
  have after := check_keeps kept holds e
  unfold Poller.advance
  split
  · split
    · rename_i failed
      rw [failed] at after
      exact after
    · rename_i seen
      rw [seen] at after
      split
      · exact tryOrWait_keeps kept after e request
      · exact after
  · exact tryOrWait_keeps kept holds e request

theorem sendAll_keeps {p : Poller} (holds : P p) (e : Endpoint) (fuel : Nat) (waiting : Bool)
    (rest : List UInt8) : P (p.sendAll e fuel waiting rest).1 := by
  induction fuel generalizing p waiting rest with
  | zero =>
    cases rest with
    | nil => exact holds
    | cons byte rest => exact holds
  | succ fuel ih =>
    cases rest with
    | nil => exact holds
    | cons byte rest =>
      have after := advance_keeps kept holds waiting e (.write (byte :: rest))
      rw [Poller.sendAll]
      · split <;> rename_i done <;> rw [done] at after
        · exact after
        · exact after
        · exact ih after false _
        · exact after
      · exact List.cons_ne_nil byte rest

theorem scan_keeps {p : Poller} (holds : P p) (interest : Readiness) (index : Nat)
    (endpoints : List Endpoint) : P (p.scan interest index endpoints).1 := by
  induction endpoints generalizing p index with
  | nil => exact holds
  | cons e rest ih =>
    have after := check_keeps kept holds e
    rw [Poller.scan]
    split <;> rename_i seen <;> rw [seen] at after
    · exact after
    · split
      · exact after
      · exact ih after (index + 1)

/-- Whatever looks and attempts keep, a poll keeps. -/
theorem poll_keeps {p : Poller} (holds : P p) (t : Task) : P (p.poll t).1 := by
  obtain ⟨job, waiting⟩ := t
  cases job with
  | ready e interest =>
    have after := check_keeps kept holds e
    simp only [Poller.poll]
    split <;> rename_i seen <;> rw [seen] at after <;> exact after
  | transfer e request =>
    have after := advance_keeps kept holds waiting e request
    simp only [Poller.poll]
    split <;> rename_i done <;> rw [done] at after <;> exact after
  | writeAll e rest => exact sendAll_keeps kept holds e rest.length waiting rest
  | waitAny endpoints interest =>
    have after := scan_keeps kept holds interest 0 endpoints
    simp only [Poller.poll]
    split <;> rename_i done <;> rw [done] at after <;> exact after

end Keeps

variable {memory : Memory} {most ticket : Nat} {p : Poller} {e : Endpoint} {op : Operation}

/-- A poller in a step, whose calls go by the step's ticket. -/
structure InStep (memory : Memory) (most ticket : Nat) (p : Poller) : Prop where
  own : p.ticket = ticket
  numbered : Numbered memory most ticket p.system

namespace InStep

theorem perform (p : Poller) (e : Endpoint) (op : Operation) (does : p.Does e op)
    (inStep : InStep memory most ticket p) : InStep memory most ticket (p.perform e op).1 :=
  ⟨inStep.own, inStep.numbered.quietVia e.via e.session (inStep.own ▸ does.quiet)⟩

theorem poll (inStep : InStep memory most ticket p) (t : Task) :
    InStep memory most ticket (p.poll t).1 :=
  poll_keeps perform inStep t

theorem inside (inStep : InStep memory most ticket p) {c : ChannelId} {ch : Channel}
    (found : p.system.channels[c]? = some ch) : ch.ring.Inside := by
  obtain ⟨history, reached⟩ := inStep.numbered.reached
  obtain ⟨peak, t, life, -, -, rfl, -⟩ := reached.living.lived c ch found
  exact life.inside

end InStep

/-! ## Single operations -/

theorem perform_of_found {ch : Channel} (own : e.via = e.session.channel)
    (found : p.system.channels[e.session.channel]? = some ch) (op : Operation) :
    p.perform e op
      = ({ p with
            system := { p.system with
              channels := p.system.channels.set e.session.channel
                (ch.perform p.system.memory op).1 }
            account := p.account ++ (ch.perform p.system.memory op).2.2 },
        (ch.perform p.system.memory op).2.1) := by
  rw [Poller.perform, System.performVia, if_pos own, own, System.perform_eq found]

/-- Through a channel that is not the session's own, or not there, nothing can be done. -/
theorem perform_astray (astray : e.via = e.session.channel →
      p.system.channels[e.session.channel]? = none) (op : Operation) :
    (p.perform e op).2 = .refused ∨
      ∃ err, (p.perform e op).2 = .failed err ∧ err ≠ .wouldBlock := by
  by_cases own : e.via = e.session.channel
  · rw [Poller.perform, System.performVia, if_pos own, own, System.perform, astray own]
    exact .inl rfl
  · rw [Poller.perform, System.performVia_foreign _ own]
    exact .inr ⟨_, rfl, fun same => by cases same⟩

theorem found_of_not_astray (located : ¬(e.via = e.session.channel →
      p.system.channels[e.session.channel]? = none)) :
    e.via = e.session.channel ∧ ∃ ch, p.system.channels[e.session.channel]? = some ch := by
  obtain ⟨own, some⟩ := Classical.not_imp.mp located
  exact ⟨own, Option.ne_none_iff_exists'.mp some⟩

end Poller

namespace Channel

variable {memory : Memory} {ch : Channel} {slot : Slot} {v w : Waker}

/-- The channel with a waker registered on both queues. -/
def registered (w : Waker) (ch : Channel) : Channel :=
  ((Turn.start ch).poll (some w)).1.channel

theorem observed_registered (w : Waker) (ch : Channel) : (ch.registered w).Observed w := by
  intro d
  cases d <;> exact WaitQueue.mem_register _ w

/-- Registering one waker leaves the others registered. -/
theorem Observed.registered (observed : ch.Observed v) (w : Waker) :
    (ch.registered w).Observed v :=
  (Turn.left_poll (t := .start ch) observed (some w)).observed

theorem perform_poll_of_open {s : Session} (isOpen : ch.openSession? slot = some s) :
    ch.perform memory (.poll slot (some w)) = (ch.registered w, .ready ch.readiness, []) := by
  have applied : (Operation.poll slot (some w)).apply memory (.start ch)
      = (((Turn.start ch).poll (some w)).1, .ready ch.readiness) := by
    simp only [Operation.apply, Turn.start, isOpen, Option.isSome_some, if_true]
    rfl
  rw [perform_of_settled (by rw [applied]; rfl), applied]
  rfl

theorem perform_poll_of_closed (closed : ch.openSession? slot = none) :
    (ch.perform memory (.poll slot (some w))).2.1 = .refused := by
  simp [perform, Operation.apply, Turn.start, closed]

end Channel

namespace Poller

variable {p : Poller} {e : Endpoint} {request : Request}

/-- After a look at an endpoint on this channel. -/
def registering (p : Poller) (e : Endpoint) (ch : Channel) : Poller :=
  { p with system := { p.system with
      channels := p.system.channels.set e.session.channel (ch.registered p.waker) } }

/-- A check tells a readiness only of the session's own channel and while the session is open. -/
inductive Checked (p : Poller) (e : Endpoint) : Poller × Except ChannelError Readiness → Prop where
  | seen (ch : Channel) (s : Session) (own : e.via = e.session.channel)
    (found : p.system.channels[e.session.channel]? = some ch)
    (isOpen : ch.openSession? e.session.slot = some s) :
    Checked p e (p.registering e ch, .ok ch.readiness)
  | failed (after : Poller) (err : ChannelError) : Checked p e (after, .error err)

theorem check_of_open {ch : Channel} {s : Session} (own : e.via = e.session.channel)
    (found : p.system.channels[e.session.channel]? = some ch)
    (isOpen : ch.openSession? e.session.slot = some s) :
    p.check e = (p.registering e ch, .ok ch.readiness) := by
  rw [check, perform_of_found own found, Channel.perform_poll_of_open isOpen, List.append_nil]
  rfl

theorem checked (p : Poller) (e : Endpoint) : Checked p e (p.check e) := by
  have fails (vain : (p.perform e (.poll e.session.slot (some p.waker))).2 = .refused ∨
      ∃ err, (p.perform e (.poll e.session.slot (some p.waker))).2 = .failed err ∧
        err ≠ .wouldBlock) : Checked p e (p.check e) := by
    rw [check]
    generalize p.perform e (.poll e.session.slot (some p.waker)) = result at vain
    obtain ⟨after, outcome⟩ := result
    rcases vain with rfl | ⟨err, rfl, -⟩ <;> exact .failed _ _
  by_cases astray : e.via = e.session.channel → p.system.channels[e.session.channel]? = none
  · exact fails (perform_astray astray _)
  · obtain ⟨own, ch, found⟩ := found_of_not_astray astray
    cases isOpen : ch.openSession? e.session.slot with
    | none =>
      refine fails (.inl ?_)
      rw [perform_of_found own found, Channel.perform_poll_of_closed isOpen]
    | some s =>
      rw [check_of_open own found isOpen]
      exact .seen ch s own found isOpen

/-- An attempt that would block has changed nothing, and a write that succeeds has written. -/
inductive Attempted (p : Poller) (e : Endpoint) (request : Request) :
    Poller × CallResult → Prop where
  | blocked (ch : Channel) (s : Session) (account : List Notice) (own : e.via = e.session.channel)
    (found : p.system.channels[e.session.channel]? = some ch)
    (isOpen : ch.openSession? e.session.slot = some s)
    (unready : ch.ready request.direction = false) :
    Attempted p e request ({ p with account }, .error .wouldBlock)
  | moved (after : Poller) (moved : Transferred)
    (written : ∀ data, request = .write data → data ≠ [] → ∃ n, moved = .count n ∧ 0 < n) :
    Attempted p e request (after, .ok moved)
  | failed (after : Poller) (err : ChannelError) (other : err ≠ .wouldBlock) :
    Attempted p e request (after, .error err)

theorem attempted (inside : ∀ ch, p.system.channels[e.session.channel]? = some ch →
      ch.ring.Inside) (request : Request) : Attempted p e request (p.attempt e request) := by
  by_cases astray : e.via = e.session.channel → p.system.channels[e.session.channel]? = none
  · have vain := perform_astray astray (.tryCall ⟨p.ticket, e.session.slot, request⟩)
    rw [attempt]
    generalize p.perform e (.tryCall ⟨p.ticket, e.session.slot, request⟩) = result at vain
    obtain ⟨after, outcome⟩ := result
    rcases vain with rfl | ⟨err, rfl, other⟩
    · exact .failed _ _ fun same => by cases same
    · exact .failed _ _ other
  · obtain ⟨own, ch, found⟩ := found_of_not_astray astray
    have verdict := Turn.verdict_arrive (Turn.start ch) ⟨p.ticket, e.session.slot, request⟩ false
    generalize arrives : (Turn.start ch).arrive ⟨p.ticket, e.session.slot, request⟩ false = result
      at verdict
    have applied : (Operation.tryCall ⟨p.ticket, e.session.slot, request⟩).apply p.system.memory
        (.start ch) = (result.1, .ofProgress result.2) := by
      rw [← arrives]
      rfl
    have outcome : (ch.perform p.system.memory
        (.tryCall ⟨p.ticket, e.session.slot, request⟩)).2.1 = .ofProgress result.2 :=
      congrArg Prod.snd applied
    rw [attempt, perform_of_found own found]
    simp only [outcome]
    cases verdict with
    | refused closed => exact .failed _ _ fun same => by cases same
    | denied s found forbidden => exact .failed _ _ fun same => by cases same
    | answered s held permitted trivial =>
      refine .moved _ _ fun data asked some => absurd ?_ some
      rw [asked] at trivial
      exact List.isEmpty_iff.mp trivial
    | moved fits ready =>
      rw [Turn.progress_transfer_eq]
      refine .moved _ _ fun data asked some => ?_
      have size := Channel.size_serve (inside ch found) fits.nontrivial ready
      rw [asked] at size ⊢
      exact ⟨_, rfl, Nat.pos_of_ne_zero size⟩
    | turnedAway fits unready impatient =>
      obtain ⟨mode, listed, -⟩ := fits.session
      obtain ⟨s, isOpen, -⟩ := Channel.openSession?_of_roster listed
      have same : (ch.perform p.system.memory
          (.tryCall ⟨p.ticket, e.session.slot, request⟩)).1 = ch := by
        rw [Channel.perform_of_settled (by rw [applied]; rfl), applied]
        rfl
      rw [same, System.set_same found]
      exact .blocked ch s _ own found isOpen unready
    | cutShort fits unready blocks pending => contradiction
    | slept fits unready blocks silent => contradiction

end Poller

end BytePipe
