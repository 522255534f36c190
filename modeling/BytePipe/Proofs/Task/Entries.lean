import BytePipe.Proofs.Channel.Entries
import BytePipe.Proofs.System.Devices
import BytePipe.Proofs.Task.Choice
import BytePipe.Proofs.Task.Waiting

/-!
All ways to ask for a transfer agree: a call in either blocking mode, a call that never sleeps, a
device handle and a task. What the call that never sleeps does decides (`System.performVia` of a
`tryCall`): unless it would block, all others do the same, and where it would, each waits in its own
manner. One that has waited then does what a call that never sleeps would do in its place.
-/
namespace BytePipe

open BytePipe.System (Reached)

/-- The call that a transfer at an endpoint makes. -/
abbrev Endpoint.call (e : Endpoint) (ticket : Nat) (request : Request) : Call :=
  ⟨ticket, e.session.slot, request⟩

namespace System

variable {s : System} {e : Endpoint} {id : SessionId} {via : ChannelId} {c : Call} {ch : Channel}
  {nonBlocking : Bool}

/-- What comes of a call at an endpoint that never sleeps. -/
abbrev attempt (s : System) (e : Endpoint) (c : Call) : System × Outcome × List Notice :=
  s.performVia e.via e.session (.tryCall c)

/-- The system with a session's blocking mode set. -/
def inMode (s : System) (id : SessionId) (nonBlocking : Bool) : System :=
  (s.perform id.channel (.setNonBlocking id.slot nonBlocking)).1

theorem inMode_of_found (found : s.channels[id.channel]? = some ch) :
    s.inMode id nonBlocking
      = { s with channels := s.channels.set id.channel (ch.inMode id.slot nonBlocking) } := by
  rw [inMode, perform_eq found, Channel.perform_setNonBlocking]

theorem inMode_of_not_found (missing : s.channels[id.channel]? = none) :
    s.inMode id nonBlocking = s := by
  rw [inMode, perform, missing]

theorem channelName_inMode (s : System) (id : SessionId) (nonBlocking : Bool) (c : ChannelId) :
    (s.inMode id nonBlocking).channelName c = s.channelName c := by
  cases found : s.channels[id.channel]? with
  | none => rw [inMode_of_not_found found]
  | some ch =>
    rw [inMode_of_found found, channelName, channelName, List.getElem?_set]
    split
    · rename_i own
      have inside := (List.getElem?_eq_some_iff.mp found).1
      rw [if_pos inside, ← own, found]
      rfl
    · rfl

/-- The blocking mode of a session makes no difference to a call that never sleeps. -/
theorem performVia_inMode_tryCall (s : System) (via : ChannelId) (id : SessionId)
    (nonBlocking : Bool) (c : Call) :
    (s.inMode id nonBlocking).performVia via id (.tryCall c)
      = ((s.performVia via id (.tryCall c)).1.inMode id nonBlocking,
        (s.performVia via id (.tryCall c)).2) := by
  by_cases own : via = id.channel
  · rw [performVia, if_pos own, performVia, if_pos own, own]
    cases found : s.channels[id.channel]? with
    | none =>
      rw [inMode_of_not_found found, perform, found]
      simp only [inMode_of_not_found found]
    | some ch =>
      have inside := (List.getElem?_eq_some_iff.mp found).1
      rw [inMode_of_found found, perform_eq (List.getElem?_set_self inside), perform_eq found,
        Channel.perform_tryCall_inMode]
      rw [inMode_of_found (List.getElem?_set_self inside), List.set_set, List.set_set]
  · rw [performVia_foreign _ own, performVia_foreign _ own, channelName_inMode, channelName_inMode]

/-- A call does what a call that never sleeps does, unless that one would block. -/
theorem performVia_call_of_not_blocked
    (other : (s.performVia via id (.tryCall c)).2.1 ≠ .failed .wouldBlock) :
    s.performVia via id (.call c) = s.performVia via id (.tryCall c) := by
  by_cases own : via = id.channel
  · rw [performVia, if_pos own] at other ⊢
    rw [performVia, if_pos own]
    cases found : s.channels[via]? with
    | none => rw [perform, perform, found]
    | some ch =>
      rw [perform_eq found] at other ⊢
      rw [perform_eq found, Channel.perform_call_of_not_blocked fun blocked =>
        other (congrArg Outcome.ofProgress blocked)]
  · rw [performVia_foreign s own, performVia_foreign s own]

theorem performVia_tryCall_ends (held : s.Holds e) (own : c.slot = e.session.slot) :
    ∃ result, (s.performVia e.via e.session (.tryCall c)).2.1 = .ofProgress (.ended result) := by
  obtain ⟨ch, found, isOpen⟩ := held
  obtain ⟨session, isOpen⟩ := Option.isSome_iff_exists.mp isOpen
  by_cases same : e.via = e.session.channel
  · obtain ⟨result, outcome, -⟩ := Channel.perform_tryCall_ends s.memory (own ▸ isOpen)
    refine ⟨result, ?_⟩
    rw [performVia, if_pos same, same, perform_eq found]
    exact outcome
  · rw [performVia_foreign s same]
    exact ⟨.error _, rfl⟩

/-- Where a call that never sleeps would block, nothing changes, and any other call is put off. -/
theorem performVia_of_blocked (held : s.Holds e) (own : c.slot = e.session.slot)
    (blocked : (s.performVia e.via e.session (.tryCall c)).2.1 = .failed .wouldBlock) :
    e.isOwn = true ∧ ∃ ch session, s.channels[e.via]? = some ch ∧
      ch.openSession? e.session.slot = some session ∧ ch.ready c.direction = false ∧
      s.performVia e.via e.session (.tryCall c)
        = (s, .failed .wouldBlock, [.ended c (.error .wouldBlock)]) ∧
      s.performVia e.via e.session (.call c)
        = ({ s with channels := s.channels.set e.via (ch.putOff session c).1 },
          (ch.putOff session c).2) := by
  obtain ⟨ch, found, isOpen⟩ := held
  obtain ⟨session, isOpen⟩ := Option.isSome_iff_exists.mp isOpen
  by_cases same : e.via = e.session.channel
  · rw [← same] at found
    rw [performVia, if_pos same, perform_eq found] at blocked ⊢
    obtain ⟨result, outcome, ended⟩ := Channel.perform_tryCall_ends s.memory (own ▸ isOpen)
    have turned : result = .error .wouldBlock := by
      rw [outcome] at blocked
      cases result with
      | ok moved => cases blocked
      | error err => exact congrArg Except.error (Outcome.failed.inj blocked)
    obtain ⟨tried, called⟩ :=
      Channel.perform_of_blocked s.memory (own ▸ isOpen) (turned ▸ ended)
    have unready := (Turn.blocked_of_arrive (turned ▸ ended)).2
    refine ⟨by simpa [Endpoint.isOwn] using same, ch, session, found, isOpen, unready, ?_, ?_⟩
    · rw [tried, set_same found]
    · rw [performVia, if_pos same, perform_eq found, called]
  · rw [performVia_foreign s same] at blocked
    cases blocked

end System

namespace Poller

variable {s : System} {e : Endpoint} {request : Request} {w : Waker} {ticket : Nat}
  {told : List Notice}

/-- An attempt that does not block decides the transfer. -/
theorem tryOrWait_of_ended (p : Poller) {result : CallResult}
    (ended : (p.system.attempt e (e.call p.ticket request)).2.1 = .ofProgress (.ended result))
    (other : result ≠ .error .wouldBlock) :
    p.tryOrWait e request
      = ({ p with
            system := (p.system.attempt e (e.call p.ticket request)).1
            account := p.account ++ (p.system.attempt e (e.call p.ticket request)).2.2 },
          some result) := by
  rw [tryOrWait, attempt, perform]
  simp only [ended]
  cases result with
  | ok moved => rfl
  | error err => cases err <;> first | rfl | exact absurd rfl other

/-- An attempt that would block leaves the waker and waits. -/
theorem tryOrWait_of_blocked (held : s.Holds e)
    (blocked : (s.attempt e (e.call ticket request)).2.1 = .failed .wouldBlock) :
    Poller.tryOrWait ⟨s, w, ticket, told⟩ e request
      = (⟨s.watching w [e.via], w, ticket,
          told ++ [.ended (e.call ticket request) (.error .wouldBlock)]⟩, none) := by
  obtain ⟨own, ch, session, found, isOpen, -, tried, -⟩ :=
    System.performVia_of_blocked held rfl blocked
  obtain ⟨ch, -, check⟩ := check_watching w ticket
    (told ++ [.ended (e.call ticket request) (.error .wouldBlock)]) [] held own
  rw [System.watching_nil] at check
  rw [tryOrWait, attempt, perform]
  simp only [tried, check]
  rfl

theorem poll_transfer_of_ended {result : CallResult}
    (ended : (s.attempt e (e.call ticket request)).2.1 = .ofProgress (.ended result))
    (other : result ≠ .error .wouldBlock) :
    Poller.poll ⟨s, w, ticket, told⟩ ⟨.transfer e request, false⟩
      = (⟨(s.attempt e (e.call ticket request)).1, w, ticket,
          told ++ (s.attempt e (e.call ticket request)).2.2⟩,
        .resolved (result.map .transferred)) := by
  have tried := tryOrWait_of_ended ⟨s, w, ticket, told⟩ ended other
  simp only [poll, advance, if_neg Bool.false_ne_true, tried]

theorem poll_transfer_of_blocked (held : s.Holds e)
    (blocked : (s.attempt e (e.call ticket request)).2.1 = .failed .wouldBlock) :
    Poller.poll ⟨s, w, ticket, told⟩ ⟨.transfer e request, false⟩
      = (⟨s.watching w [e.via], w, ticket,
          told ++ [.ended (e.call ticket request) (.error .wouldBlock)]⟩,
        .pending ⟨.transfer e request, true⟩) := by
  simp only [poll, advance, if_neg Bool.false_ne_true, tryOrWait_of_blocked held blocked]

theorem holds_watching (held : s.Holds e) (w : Waker) (watched : List ChannelId) :
    (s.watching w watched).Holds e := by
  obtain ⟨ch, found, isOpen⟩ := held
  refine ⟨_, by rw [System.channels_watching, found]; rfl, ?_⟩
  dsimp only
  split <;> exact isOpen

/-- A transfer that has waited registers its waker. Then, if its direction is ready, it does what a
call that never sleeps would do, and otherwise it waits on. -/
theorem poll_transfer_of_waiting (held : s.Holds e) (own : e.isOwn = true) :
    ∃ ch, s.channels[e.via]? = some ch ∧
      if ch.ready request.direction then
        ∃ result,
          ((s.watching w [e.via]).attempt e (e.call ticket request)).2.1
            = .ofProgress (.ended result) ∧
          result ≠ .error .wouldBlock ∧
          Poller.poll ⟨s, w, ticket, told⟩ ⟨.transfer e request, true⟩
            = (⟨((s.watching w [e.via]).attempt e (e.call ticket request)).1, w, ticket,
                told ++ ((s.watching w [e.via]).attempt e (e.call ticket request)).2.2⟩,
              .resolved (result.map .transferred))
      else
        Poller.poll ⟨s, w, ticket, told⟩ ⟨.transfer e request, true⟩
          = (⟨s.watching w [e.via], w, ticket, told⟩, .pending ⟨.transfer e request, true⟩) := by
  obtain ⟨ch, found, check⟩ := check_watching w ticket told [] held own
  rw [System.watching_nil, List.nil_append] at check
  refine ⟨ch, found, ?_⟩
  split <;> rename_i ready
  · have still := holds_watching held w [e.via]
    obtain ⟨result, ended⟩ := System.performVia_tryCall_ends
      (c := e.call ticket request) still rfl
    have other : result ≠ .error .wouldBlock := by
      rintro rfl
      obtain ⟨-, after, session, there, -, unready, -⟩ :=
        System.performVia_of_blocked still rfl ended
      rw [System.channels_watching, found] at there
      obtain rfl := Option.some.inj there
      have same : Channel.ready (if e.via ∈ [e.via] then ch.registered w else ch) request.direction
          = ch.ready request.direction := by split <;> rfl
      rw [same, ready] at unready
      cases unready
    have tried := tryOrWait_of_ended ⟨s.watching w [e.via], w, ticket, told⟩ ended other
    refine ⟨result, ended, other, ?_⟩
    simp only [poll, advance, if_true, check, Channel.intersects_interest, ready, tried]
  · simp only [poll, advance, if_true, check, Channel.intersects_interest, ready,
      if_neg Bool.false_ne_true]

/-- Only a transfer through its session's own channel ever waits. -/
theorem pending_transfer {waiting : Bool} {q : Poller} {after : Task}
    (polled : Poller.poll ⟨s, w, ticket, told⟩ ⟨.transfer e request, waiting⟩
      = (q, .pending after)) : after = ⟨.transfer e request, true⟩ ∧ e.isOwn = true := by
  have made : after = ⟨.transfer e request, true⟩ := by
    simp only [poll] at polled
    split at polled
    · cases polled
      rfl
    · cases polled
  refine ⟨made, ?_⟩
  cases own : e.isOwn with
  | true => rfl
  | false =>
    have ne : e.via ≠ e.session.channel := by simpa [Endpoint.isOwn] using own
    cases waiting with
    | true =>
      simp only [poll, advance, if_true, check_foreign _ own] at polled
      cases polled
    | false =>
      have failed : (s.attempt e (e.call ticket request)).2.1 = .ofProgress (.ended (.error
          (.foreignSession (s.channelName e.session.channel) (s.channelName e.via)))) :=
        congrArg (·.2.1) (s.performVia_foreign ne _)
      rw [poll_transfer_of_ended failed fun same => by cases same] at polled
      cases polled

/-- In the middle of an operation each woken call comes to what a call that never sleeps would come
to, unless it is interrupted. -/
theorem resumed_of_runs {memory : Memory} {most : Nat} {history : History}
    (reached : Reached memory most s history) {id : ChannelId} {ch : Channel} {op : Operation}
    {t : Turn} {earlier later : List Call} {c : Call} (found : s.channels[id]? = some ch)
    (fresh : op.Fresh ch) (runs : (op.apply s.memory (.start ch)).1.Runs t)
    (woken : t.woken = earlier ++ c :: later) :
    Turn.Resumed { t with woken := earlier ++ later } c
      (Turn.resume { t with woken := earlier ++ later } c) := by
  obtain ⟨peak, before, life, -, settled, rfl, -⟩ := reached.living.lived id ch found
  have applied := life.operated op settled fresh
  rw [Turn.apply_of_settled memory op settled] at applied
  rw [reached.living.grants] at runs
  have here := applied.runs (runs.following before.account)
  obtain ⟨-, fits, -⟩ := here.orderly.take (t := t.following before.account) woken
  exact Turn.resumed_resume fits

/-- All ways to ask for a transfer agree. A call that never sleeps always comes back, and its
session's blocking mode makes no difference to it. Unless it would block, a call in either mode, a
device handle and the first poll of a task come to the same result, the same system and the same
account. Where it would block nothing has changed; a call is then turned away, interrupted or put to
sleep, and a task leaves its waker and waits. A call that has slept and completes does what one that
never sleeps would do in its place, and so does a task that has waited, once it has registered its
waker again. -/
theorem entries_agree_on_transfers {memory : Memory} {most : Nat} {history : History}
    (reached : Reached memory most s history) (held : s.Holds e) (ticket : Nat)
    (request : Request) :
    ∃ result, (s.attempt e (e.call ticket request)).2.1 = .ofProgress (.ended result) ∧
    (∀ nonBlocking, (s.inMode e.session nonBlocking).attempt e (e.call ticket request)
      = ((s.attempt e (e.call ticket request)).1.inMode e.session nonBlocking,
        (s.attempt e (e.call ticket request)).2)) ∧
    (result ≠ .error .wouldBlock →
      s.performVia e.via e.session (.call (e.call ticket request))
        = s.attempt e (e.call ticket request) ∧
      (∀ nonBlocking,
        (s.inMode e.session nonBlocking).performVia e.via e.session (.call (e.call ticket request))
          = ((s.attempt e (e.call ticket request)).1.inMode e.session nonBlocking,
            (s.attempt e (e.call ticket request)).2)) ∧
      (∀ (devices : DeviceSet) (minor : Nat), e.isOwn = true → devices.channel minor = .ok e.via →
        devices.ask s minor (.use e.session.slot (.call (e.call ticket request)))
          = ((s.attempt e (e.call ticket request)).1,
            .of (s.attempt e (e.call ticket request)).2.1
              (s.attempt e (e.call ticket request)).2.2)) ∧
      (∀ w told, Poller.poll ⟨s, w, ticket, told⟩ ⟨.transfer e request, false⟩
        = (⟨(s.attempt e (e.call ticket request)).1, w, ticket,
            told ++ (s.attempt e (e.call ticket request)).2.2⟩,
          .resolved (result.map .transferred)))) ∧
    (result = .error .wouldBlock → e.isOwn = true ∧ ∃ ch session, s.channels[e.via]? = some ch ∧
      ch.openSession? e.session.slot = some session ∧
      s.attempt e (e.call ticket request)
        = (s, .failed .wouldBlock, [.ended (e.call ticket request) (.error .wouldBlock)]) ∧
      s.performVia e.via e.session (.call (e.call ticket request))
        = ({ s with channels := s.channels.set e.via (ch.putOff session (e.call ticket request)).1 },
          (ch.putOff session (e.call ticket request)).2) ∧
      ∀ w told, Poller.poll ⟨s, w, ticket, told⟩ ⟨.transfer e request, false⟩
          = (⟨s.watching w [e.via], w, ticket,
              told ++ [.ended (e.call ticket request) (.error .wouldBlock)]⟩,
            .pending ⟨.transfer e request, true⟩) ∧
        ∃ after, (s.watching w [e.via]).channels[e.via]? = some after ∧ ch.Watched w after) ∧
    (∀ (id : ChannelId) (ch : Channel) (op : Operation) (t : Turn) (earlier : List Call) (c : Call)
      (later : List Call), s.channels[id]? = some ch → op.Fresh ch →
      (op.apply s.memory (.start ch)).1.Runs t → t.woken = earlier ++ c :: later →
      Turn.Resumed { t with woken := earlier ++ later } c
        (Turn.resume { t with woken := earlier ++ later } c)) ∧
    (∀ w told waiting q after,
      Poller.poll ⟨s, w, ticket, told⟩ ⟨.transfer e request, waiting⟩ = (q, .pending after) →
      after = ⟨.transfer e request, true⟩ ∧ e.isOwn = true) ∧
    (∀ w told, e.isOwn = true → ∃ ch, s.channels[e.via]? = some ch ∧
      if ch.ready request.direction then
        ∃ result,
          ((s.watching w [e.via]).attempt e (e.call ticket request)).2.1
            = .ofProgress (.ended result) ∧
          result ≠ .error .wouldBlock ∧
          Poller.poll ⟨s, w, ticket, told⟩ ⟨.transfer e request, true⟩
            = (⟨((s.watching w [e.via]).attempt e (e.call ticket request)).1, w, ticket,
                told ++ ((s.watching w [e.via]).attempt e (e.call ticket request)).2.2⟩,
              .resolved (result.map .transferred))
      else
        Poller.poll ⟨s, w, ticket, told⟩ ⟨.transfer e request, true⟩
          = (⟨s.watching w [e.via], w, ticket, told⟩, .pending ⟨.transfer e request, true⟩)) := by
  obtain ⟨result, ended⟩ := System.performVia_tryCall_ends (c := e.call ticket request) held rfl
  have modes (nonBlocking : Bool) := s.performVia_inMode_tryCall e.via e.session nonBlocking
    (e.call ticket request)
  refine ⟨result, ended, modes, fun other => ?_, fun blocked => ?_,
    fun id ch op t earlier c later found fresh runs woken =>
      resumed_of_runs reached found fresh runs woken,
    fun w told waiting q after polled => pending_transfer polled,
    fun w told own => poll_transfer_of_waiting held own⟩
  · have unblocked : (s.attempt e (e.call ticket request)).2.1 ≠ .failed .wouldBlock := by
      rw [ended]
      intro blocked
      cases result with
      | ok moved => cases blocked
      | error err => exact other (congrArg Except.error (Outcome.failed.inj blocked))
    have same := System.performVia_call_of_not_blocked unblocked
    refine ⟨same, fun nonBlocking => ?_, fun devices minor own known => ?_, fun w told =>
      poll_transfer_of_ended ended other⟩
    · have mode := modes nonBlocking
      rw [System.performVia_call_of_not_blocked (by rw [mode]; exact unblocked)]
      exact mode
    · have here : e.via = e.session.channel := by simpa [Endpoint.isOwn] using own
      have session : (⟨e.via, e.session.slot⟩ : SessionId) = e.session := by rw [here]
      rw [DeviceSet.ask, DeviceSet.reach, known]
      simp only [session, same]
  · subst blocked
    obtain ⟨own, ch, session, found, isOpen, -, tried, called⟩ :=
      System.performVia_of_blocked held rfl ended
    refine ⟨own, ch, session, found, isOpen, tried, called, fun w told => ?_⟩
    obtain ⟨after, there, watched⟩ := reached.watched_channels w [e.via] found
    rw [if_pos List.mem_cons_self] at watched
    exact ⟨poll_transfer_of_blocked held ended, after, there, watched⟩

/-- A reader sleeps on an empty channel. A byte that is written through any entry wakes it, and it
takes the byte. -/
theorem entries_agree_on_transfers_sleeping_reader :
    ∃ s history, Reached ⟨16, by decide⟩ 1 s history ∧
      (s.attempt ⟨0, ⟨0, 0⟩⟩ ⟨1, 0, .write [7]⟩).2.1 = .transferred (.count 1) ∧
      (∃ after, (s.attempt ⟨0, ⟨0, 0⟩⟩ ⟨1, 0, .write [7]⟩).1.channels[0]? = some after ∧
        after.sleepers .reading = []) ∧
      s.performVia 0 ⟨0, 0⟩ (.call ⟨1, 0, .write [7]⟩)
        = s.attempt ⟨0, ⟨0, 0⟩⟩ ⟨1, 0, .write [7]⟩ ∧
      (Poller.poll ⟨s, .task 1, 1, []⟩ ⟨.transfer ⟨0, ⟨0, 0⟩⟩ (.write [7]), false⟩).1.system
        = (s.attempt ⟨0, ⟨0, 0⟩⟩ ⟨1, 0, .write [7]⟩).1 := by
  have created := (@Reached.empty ⟨16, by decide⟩ 1).created
    (show Channel.create? "pipe" 4 = .ok _ from rfl)
  have opened := created.performed 0 (.openSession .readWrite false)
    (fun ch found => .of_idle _ fun d => by cases found; cases d <;> rfl) (by decide)
  have sleeping := opened.performed 0 (.call ⟨0, 0, .read 4⟩)
    (fun ch found => .of_idle _ fun d => by cases found; cases d <;> rfl) (by decide)
  obtain ⟨result, ended, -, agree, -⟩ :=
    entries_agree_on_transfers (e := ⟨0, ⟨0, 0⟩⟩) sleeping ⟨_, rfl, rfl⟩ 1 (.write [7])
  have written : result = .ok (.count 1) := by
    cases result with
    | ok moved => exact congrArg Except.ok (Outcome.transferred.inj ended).symm
    | error err => cases ended
  obtain ⟨called, -, -, polled⟩ := agree (by rw [written]; nofun)
  refine ⟨_, _, sleeping, rfl, ⟨_, rfl, rfl⟩, called, ?_⟩
  rw [polled]

end Poller

end BytePipe
