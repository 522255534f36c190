import BytePipe.Proofs.System.Bare
import BytePipe.Proofs.Task.Polling

/-!
A poll of a task on a system without its observers. The wakers of tasks are not dropped, so the poll
registers the same waker, makes the same transfers and comes to the same result.
-/
namespace BytePipe

variable {f : Nat → Nat}

def Poller.bare (f : Nat → Nat) (p : Poller) : Poller :=
  { system := p.system.bare f
    waker := (p.waker.bare? f).getD p.waker
    ticket := f p.ticket
    account := p.account.filterMap (Notice.bare? f) }

namespace Poller

/-- The waker is one of a task. -/
def ForTask (p : Poller) : Prop :=
  ∃ ticket, p.waker = .task ticket

theorem ForTask.perform (p : Poller) (e : Endpoint) (op : Operation) (_ : p.Does e op)
    (task : p.ForTask) : (p.perform e op).1.ForTask :=
  task

variable {p : Poller} {e : Endpoint} (inj : Function.Injective f)

include inj

theorem bare_perform {op : Operation} (other : op.subscribes = false) :
    (p.bare f).perform e (op.relabel f) = ((p.perform e op).1.bare f, (p.perform e op).2) := by
  have performed := System.bare_performVia p.system inj other e.via e.session
  have system : (p.bare f).system = p.system.bare f := rfl
  simp [perform, system, performed]
  simp [bare]

theorem bare_check (task : p.ForTask) (e : Endpoint) :
    (p.bare f).check e = ((p.check e).1.bare f, (p.check e).2) := by
  obtain ⟨ticket, waker⟩ := task
  have looks : (Operation.poll e.session.slot (some p.waker)).subscribes = false := rfl
  have same : (Operation.poll e.session.slot (some p.waker)).relabel f
      = .poll e.session.slot (some (p.bare f).waker) := by
    simp [Operation.relabel, bare, waker, Waker.bare?]
  have performed := bare_perform (p := p) (e := e) inj looks
  rw [same] at performed
  simp only [check, performed]
  obtain ⟨q, outcome⟩ := p.perform e (.poll e.session.slot (some p.waker))
  cases outcome <;> rfl

theorem bare_attempt (p : Poller) (e : Endpoint) (request : Request) :
    (p.bare f).attempt e request = ((p.attempt e request).1.bare f, (p.attempt e request).2) := by
  have tries : (Operation.tryCall ⟨p.ticket, e.session.slot, request⟩).subscribes = false := rfl
  have performed := bare_perform (p := p) (e := e) inj tries
  change (p.bare f).perform e (.tryCall ⟨(p.bare f).ticket, e.session.slot, request⟩) = _
    at performed
  simp only [attempt, performed]
  obtain ⟨q, outcome⟩ := p.perform e (.tryCall ⟨p.ticket, e.session.slot, request⟩)
  cases outcome <;> rfl

theorem bare_tryOrWait (task : p.ForTask) (e : Endpoint) (request : Request) :
    (p.bare f).tryOrWait e request
      = ((p.tryOrWait e request).1.bare f, (p.tryOrWait e request).2) := by
  have after := attempt_keeps ForTask.perform task e request
  simp only [tryOrWait, bare_attempt inj]
  generalize p.attempt e request = tried at after ⊢
  obtain ⟨q, err | moved⟩ := tried
  · cases err with
    | wouldBlock =>
      simp only [bare_check inj after e]
      obtain ⟨q', err | r⟩ := q.check e
      · rfl
      · rfl
    | _ => rfl
  · rfl

theorem bare_advance (task : p.ForTask) (waiting : Bool) (e : Endpoint) (request : Request) :
    (p.bare f).advance waiting e request
      = ((p.advance waiting e request).1.bare f, (p.advance waiting e request).2) := by
  cases waiting with
  | false => exact bare_tryOrWait inj task e request
  | true =>
    have after := check_keeps ForTask.perform task e
    simp only [advance, if_true, bare_check inj task e]
    generalize p.check e = seen at after ⊢
    obtain ⟨q, err | r⟩ := seen
    · rfl
    · dsimp only
      split
      · exact bare_tryOrWait inj after e request
      · rfl

theorem bare_sendAll (task : p.ForTask) (e : Endpoint) (fuel : Nat) (waiting : Bool)
    (rest : List UInt8) : (p.bare f).sendAll e fuel waiting rest
      = ((p.sendAll e fuel waiting rest).1.bare f, (p.sendAll e fuel waiting rest).2) := by
  induction fuel generalizing p waiting rest with
  | zero =>
    cases rest with
    | nil => rfl
    | cons byte rest => rfl
  | succ fuel ih =>
    cases rest with
    | nil => rfl
    | cons byte rest =>
      have after := advance_keeps ForTask.perform task waiting e (.write (byte :: rest))
      simp only [sendAll, bare_advance inj task]
      generalize p.advance waiting e (.write (byte :: rest)) = advanced at after ⊢
      obtain ⟨q, none | err | moved⟩ := advanced
      · rfl
      · rfl
      · cases moved with
        | bytes data => rfl
        | count written => exact ih after false _

theorem bare_scan (task : p.ForTask) (interest : Readiness) (index : Nat)
    (endpoints : List Endpoint) : (p.bare f).scan interest index endpoints
      = ((p.scan interest index endpoints).1.bare f, (p.scan interest index endpoints).2) := by
  induction endpoints generalizing p index with
  | nil => rfl
  | cons e rest ih =>
    have after := check_keeps ForTask.perform task e
    simp only [scan, bare_check inj task e]
    generalize p.check e = seen at after ⊢
    obtain ⟨q, err | r⟩ := seen
    · rfl
    · dsimp only
      split
      · rfl
      · exact ih after (index + 1)

/-- A poll of a task comes to the same without the observers. -/
theorem bare_poll (task : p.ForTask) (t : Task) :
    (p.bare f).poll t = ((p.poll t).1.bare f, (p.poll t).2) := by
  obtain ⟨job, waiting⟩ := t
  cases job with
  | ready e interest =>
    simp only [poll, bare_check inj task e]
    obtain ⟨q, err | r⟩ := p.check e
    · rfl
    · rfl
  | transfer e request =>
    simp only [poll, bare_advance inj task]
    obtain ⟨q, none | result⟩ := p.advance waiting e request
    · rfl
    · rfl
  | writeAll e rest => exact bare_sendAll inj task e rest.length waiting rest
  | waitAny endpoints interest =>
    simp only [poll, bare_scan inj task]
    obtain ⟨q, none | result⟩ := p.scan interest 0 endpoints
    · rfl
    · rfl

end Poller

end BytePipe
