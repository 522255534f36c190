import BytePipe.Proofs.Channel.Replies
import BytePipe.Proofs.Task.Entries

/-!
What a task has to do with that offers bytes. Its endpoint can take them only if the session is the
channel's own and permits writing, and this never changes (`System.Permits`). An offer of at least
one byte then comes to one of four things (`System.Offered`): with a foreign session or one that does
not permit it, it fails, and otherwise it finds the channel full or is taken in part.
-/
namespace BytePipe

open BytePipe.System (Numbered Onward Reached)

variable {memory : Memory} {most ticket : Nat} {op : Operation}

/-- A look or an attempt opens and closes nothing. -/
theorem Turn.roster_apply_of_polls (memory : Memory) (t : Turn) (polls : op.Polls ticket) :
    (op.apply memory t).1.channel.roster = t.channel.roster := by
  cases polls with
  | look slot waker =>
    simp only [Operation.apply]
    split
    · exact (alike_poll t waker).roster
    · rfl
  | attempt c own => exact roster_arrived (arrived_arrive t c false)

theorem Channel.Lived.roster_polls {ch : Channel} {account : List Notice}
    (lived : ch.Lived memory most account) (fresh : op.Fresh ch) (polls : op.Polls ticket) :
    (ch.perform memory op).1.roster = ch.roster := by
  obtain ⟨peak, t, life, -, settled, rfl, -⟩ := lived
  have settles := (life.operated op settled fresh).settle.2
  rw [Turn.settle_apply_of_settled memory op settled,
    Turn.roster_apply_of_polls memory t polls] at settles
  exact settles

namespace System

variable {s u : System} {e : Endpoint} {d : Direction} {history later : History}

/-- The endpoint's session belongs to the channel it is used through and permits a direction. -/
def Permits (s : System) (e : Endpoint) (d : Direction) : Prop :=
  e.isOwn = true ∧ ∃ ch mode still, s.channels[e.session.channel]? = some ch ∧
    ch.roster[e.session.slot]? = some (mode, still) ∧ mode.permits d = true

theorem Permits.add (permits : s.Permits e d) (more : List Channel) :
    Permits { s with channels := s.channels ++ more } e d := by
  obtain ⟨own, ch, mode, still, found, listed⟩ := permits
  have inside := (List.getElem?_eq_some_iff.mp found).1
  exact ⟨own, ch, mode, still, (List.getElem?_append_left inside).trans found, listed⟩

theorem Permits.perform (permits : s.Permits e d) (reached : Reached memory most s history)
    (c : ChannelId) (fresh : ∀ ch, s.channels[c]? = some ch → op.Fresh ch) :
    (s.perform c op).1.Permits e d := by
  obtain ⟨own, ch, mode, still, found, listed, permitted⟩ := permits
  by_cases here : e.session.channel = c
  · subst here
    have inside := (List.getElem?_eq_some_iff.mp found).1
    obtain ⟨peak, t, life, -, settled, rfl, -⟩ := reached.living.lived _ ch found
    obtain ⟨left, kept, -⟩ := life.roster_perform settled (fresh _ found) listed
    rw [perform_eq found, reached.living.grants]
    exact ⟨own, _, mode, left, List.getElem?_set_self inside, kept, permitted⟩
  · exact ⟨own, ch, mode, still, (s.channels_perform_of_ne here op).trans found, listed, permitted⟩

/-- What a session permits it permits for ever. -/
theorem Permits.onward (permits : s.Permits e d) (reached : Reached memory most s history)
    (onward : Onward memory most s u later) : u.Permits e d := by
  induction onward with
  | here => exact permits
  | created before created ih => exact ih.add _
  | installed before installed ih =>
    obtain ⟨channels, -, rfl⟩ := channels_of_install installed
    exact ih.add channels
  | performed c op before fresh few ih => exact ih.perform (reached.onward before) c fresh

/-- Polls of a task leave open what is open. -/
theorem Holds.performVia (held : s.Holds e) (numbered : Numbered memory most ticket s)
    (polls : op.Polls ticket) (via : ChannelId) (id : SessionId) :
    (s.performVia via id op).1.Holds e := by
  rw [System.performVia]
  split
  · obtain ⟨ch, found, isOpen⟩ := held
    obtain ⟨session, isOpen⟩ := Option.isSome_iff_exists.mp isOpen
    by_cases here : e.session.channel = via
    · subst here
      obtain ⟨history, reached⟩ := numbered.reached
      have roster := (reached.living.lived _ ch found).roster_polls
        (numbered.fresh polls.quiet.tickets found) polls
      have listed := Channel.roster_of_openSession? isOpen
      rw [← roster] at listed
      obtain ⟨after, still, -⟩ := Channel.openSession?_of_roster listed
      have inside := (List.getElem?_eq_some_iff.mp found).1
      rw [perform_eq found, reached.living.grants]
      exact ⟨_, List.getElem?_set_self inside, Option.isSome_iff_exists.mpr ⟨after, still⟩⟩
    · exact ⟨ch, (s.channels_perform_of_ne here op).trans found,
        Option.isSome_iff_exists.mpr ⟨session, isOpen⟩⟩
  · exact held

/-- What an offer of some bytes comes to. What is told after it does not concern calls by its
ticket. -/
inductive Offered (s : System) (e : Endpoint) (ticket : Nat) (data : List UInt8) :
    System × Outcome × List Notice → Prop where
  | foreign (foreign : e.isOwn = false) (reason : String) :
    Offered s e ticket data (s, .failed (.invalidArgument reason), [])
  | denied (forbidden : ¬s.Permits e .writing) :
    Offered s e ticket data
      (s, .failed .badAccess, [.ended (e.call ticket (.write data)) (.error .badAccess)])
  | blocked (permitted : s.Permits e .writing) :
    Offered s e ticket data
      (s, .failed .wouldBlock, [.ended (e.call ticket (.write data)) (.error .wouldBlock)])
  | taken (permitted : s.Permits e .writing) (after : System) (n : Nat) (others : List Notice)
    (some : 0 < n) (fits : n ≤ data.length)
    (apart : ∀ m ∈ others, ∀ c, m.call? = .some c → c.ticket ≠ ticket) :
    Offered s e ticket data
      (after, .transferred (.count n),
        .ended (e.call ticket (.write data)) (.ok (.count n)) :: others)

theorem offered (numbered : Numbered memory most ticket s) (held : s.Holds e) {data : List UInt8}
    (some : data ≠ []) :
    Offered s e ticket data (s.attempt e (e.call ticket (.write data))) := by
  cases own : e.isOwn with
  | false =>
    have ne : e.via ≠ e.session.channel := by simpa [Endpoint.isOwn] using own
    rw [attempt, performVia_foreign s ne]
    exact .foreign own _
  | true =>
    have same : e.via = e.session.channel := by simpa [Endpoint.isOwn] using own
    obtain ⟨ch, found, isOpen⟩ := held
    obtain ⟨session, isOpen⟩ := Option.isSome_iff_exists.mp isOpen
    obtain ⟨history, reached⟩ := numbered.reached
    obtain rfl := reached.living.grants
    have listed := Channel.roster_of_openSession? isOpen
    have replied := (reached.living.lived _ ch found).replied
      (c := e.call ticket (.write data)) isOpen
    rw [attempt, System.performVia, if_pos same, same, perform_eq found]
    generalize ch.perform s.memory (.tryCall (e.call ticket (.write data))) = result at replied
    cases replied with
    | denied forbidden =>
      simp only [set_same found]
      refine .denied ?_
      rintro ⟨-, there, mode, still, located, known, permits⟩
      obtain rfl := Option.some.inj (found.symm.trans located)
      rw [listed] at known
      cases known
      exact absurd (forbidden.symm.trans permits) Bool.false_ne_true
    | answered permitted trivial => exact absurd (List.isEmpty_iff.mp trivial) some
    | blocked permitted unready =>
      simp only [set_same found]
      exact .blocked ⟨own, ch, _, _, found, listed, permitted⟩
    | moved permitted after others moves apart =>
      refine .taken ⟨own, ch, _, _, found, listed, permitted⟩ _ (ch.ring.put data).1 others
        (Nat.pos_of_ne_zero moves) ?_ fun m member c called => ?_
      · rw [Ring.put_count]
        exact Nat.min_le_left _ _
      · obtain ⟨d, asleep⟩ := apart m member c called
        exact Nat.ne_of_lt (numbered.earlier ch (List.mem_of_getElem? found) d c asleep)

end System

end BytePipe
