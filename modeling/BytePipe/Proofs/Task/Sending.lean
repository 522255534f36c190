import BytePipe.Proofs.Channel.Fifo
import BytePipe.Proofs.Task.Offers

/-!
Sending all of some data through a channel that others use too. What has happened by some moment is
listed with a mark at what a task has done itself (`Deed`), and a task that sends may have done only
this: it has offered all that was left, again and again, and each offer has failed or taken at least
one byte off the front (`Sent`). Between two polls anything may happen (`Sending`).

The invariant is carried through a poll by `Underway`, one lemma for each of its loops, and from one
poll to the next by `Sending.known`.
-/
namespace BytePipe

open BytePipe.System (Numbered Onward Reached)

/-- Something that has happened on a channel, and whether a certain task has done it. -/
structure Deed where
  own : Bool
  channel : ChannelId
  notice : Notice

namespace Deed

/-- What others have done. -/
def ofOthers (told : ChannelId × Notice) : Deed :=
  ⟨false, told.1, told.2⟩

/-- What is told of a channel while the task is polled. Its own calls go by the ticket of the
poll. -/
def ofPoll (ticket : Nat) (c : ChannelId) (n : Notice) : Deed :=
  ⟨n.call?.any (·.ticket == ticket), c, n⟩

/-- The deeds without the mark. -/
def history (deeds : List Deed) : History :=
  deeds.map fun d => (d.channel, d.notice)

/-- The bytes that channels have accepted on behalf of the task. -/
def accepted (deeds : List Deed) : List UInt8 :=
  BytePipe.accepted ((deeds.filter (·.own)).map (·.notice))

/-- How many calls the task has made. -/
def calls (deeds : List Deed) : Nat :=
  deeds.countP (·.own)

variable (deeds more : List Deed)

theorem history_append : history (deeds ++ more) = history deeds ++ history more :=
  List.map_append

theorem history_ofOthers (later : History) : history (later.map ofOthers) = later := by
  simp [history, ofOthers, Function.comp_def]

theorem history_ofPoll (ticket : Nat) (c : ChannelId) (account : List Notice) :
    history (account.map (ofPoll ticket c)) = account.map (Prod.mk c) := by
  simp [history, ofPoll, Function.comp_def]

theorem accepted_append : accepted (deeds ++ more) = accepted deeds ++ accepted more := by
  simp [accepted, BytePipe.accepted]

theorem calls_append : calls (deeds ++ more) = calls deeds + calls more :=
  List.countP_append

variable {more}

theorem own_ofOthers (later : History) : ∀ d ∈ later.map ofOthers, d.own = false := by
  intro d listed
  obtain ⟨told, -, rfl⟩ := List.mem_map.mp listed
  rfl

theorem accepted_of_others (others : ∀ d ∈ more, d.own = false) : accepted more = [] := by
  have none : more.filter (·.own) = [] := List.filter_eq_nil_iff.mpr fun d listed => by
    simp [others d listed]
  rw [accepted, none]
  rfl

theorem calls_of_others (others : ∀ d ∈ more, d.own = false) : calls more = 0 :=
  List.countP_eq_zero.mpr fun d listed => by simp [others d listed]

theorem ofPoll_own (ticket : Nat) (e : Endpoint) (request : Request) (result : CallResult) :
    ofPoll ticket e.via (.ended (e.call ticket request) result)
      = ⟨true, e.via, .ended (e.call ticket request) result⟩ := by
  simp [ofPoll, Notice.call?]

theorem own_ofPoll_others {ticket : Nat} {c : ChannelId} {told : List Notice}
    (apart : ∀ n ∈ told, ∀ w, n.call? = some w → w.ticket ≠ ticket) :
    ∀ d ∈ told.map (ofPoll ticket c), d.own = false := by
  intro d listed
  obtain ⟨n, member, rfl⟩ := List.mem_map.mp listed
  cases called : n.call? with
  | none => simp [ofPoll, called]
  | some w => simpa [ofPoll, called] using apart n member w called

end Deed

/-- What a task has done by the time that it has sent so many bytes of its data. -/
inductive Sent (e : Endpoint) (data : List UInt8) : List Deed → Nat → Prop where
  | start : Sent e data [] 0
  | others {deeds : List Deed} {sent : Nat} (before : Sent e data deeds sent) (more : List Deed)
    (others : ∀ d ∈ more, d.own = false) : Sent e data (deeds ++ more) sent
  | vain {deeds : List Deed} {sent : Nat} (before : Sent e data deeds sent) (ticket : Nat)
    (err : ChannelError) :
    Sent e data
      (deeds ++ [⟨true, e.via, .ended (e.call ticket (.write (data.drop sent))) (.error err)⟩]) sent
  | piece {deeds : List Deed} {sent : Nat} (before : Sent e data deeds sent) (ticket n : Nat)
    (some : 0 < n) (fits : n ≤ (data.drop sent).length) :
    Sent e data
      (deeds ++ [⟨true, e.via, .ended (e.call ticket (.write (data.drop sent))) (.ok (.count n))⟩])
      (sent + n)

namespace Sent

variable {e : Endpoint} {data : List UInt8} {deeds : List Deed} {sent : Nat}

theorem le (sends : Sent e data deeds sent) : sent ≤ data.length := by
  induction sends with
  | start => exact Nat.zero_le _
  | others before more others ih => exact ih
  | vain before ticket err ih => exact ih
  | piece before ticket n some fits ih =>
    rw [List.length_drop] at fits
    omega

/-- What has been accepted for the task is the front of its data. -/
theorem accepted (sends : Sent e data deeds sent) : Deed.accepted deeds = data.take sent := by
  induction sends with
  | start => rfl
  | others before more others ih =>
    rw [Deed.accepted_append, Deed.accepted_of_others others, List.append_nil, ih]
  | vain before ticket err ih =>
    rw [Deed.accepted_append, ih]
    exact List.append_nil _
  | @piece deeds sent before ticket n some fits ih =>
    have piece : Deed.accepted
        [⟨true, e.via, .ended (e.call ticket (.write (data.drop sent))) (.ok (.count n))⟩]
        = (data.drop sent).take n := List.append_nil _
    rw [Deed.accepted_append, ih, piece, ← List.take_add]

/-- The task uses one channel only. -/
theorem channel (sends : Sent e data deeds sent) :
    ∀ d ∈ deeds, d.own = true → d.channel = e.via := by
  induction sends with
  | start => exact nofun
  | others before more others ih =>
    intro d listed own
    rcases List.mem_append.mp listed with old | new
    · exact ih d old own
    · rw [others d new] at own
      cases own
  | vain before ticket err ih =>
    intro d listed own
    rcases List.mem_append.mp listed with old | new
    · exact ih d old own
    · rw [List.mem_singleton.mp new]
  | piece before ticket n some fits ih =>
    intro d listed own
    rcases List.mem_append.mp listed with old | new
    · exact ih d old own
    · rw [List.mem_singleton.mp new]

/-- What holds at some moment has held at every earlier one. -/
theorem upto (sends : Sent e data deeds sent) {before : List Deed} (earlier : before <+: deeds) :
    ∃ now ≤ sent, Sent e data before now := by
  induction sends with
  | start =>
    obtain rfl := List.prefix_nil.mp earlier
    exact ⟨0, Nat.le_refl 0, .start⟩
  | @others deeds sent sends more others ih =>
    obtain ⟨after, whole⟩ := earlier
    rcases List.append_eq_append_iff.mp whole with ⟨rest, rfl, -⟩ | ⟨some, rfl, rfl⟩
    · exact ih (List.prefix_append _ _)
    · exact ⟨sent, Nat.le_refl _, .others sends some fun d listed =>
        others d (List.mem_append_left _ listed)⟩
  | vain sends ticket err ih =>
    rcases List.prefix_concat_iff.mp earlier with rfl | inside
    · exact ⟨_, Nat.le_refl _, .vain sends ticket err⟩
    · exact ih inside
  | piece sends ticket n some fits ih =>
    rcases List.prefix_concat_iff.mp earlier with rfl | inside
    · exact ⟨_, Nat.le_refl _, .piece sends ticket n some fits⟩
    · obtain ⟨now, le, sends⟩ := ih inside
      exact ⟨now, Nat.le_add_right_of_le le, sends⟩

end Sent

/-- How a task stands that has been polled. -/
inductive Stands (e : Endpoint) (data : List UInt8) (sent : Nat) : TaskState → Prop where
  | waits (more : sent < data.length) :
    Stands e data sent (.pending ⟨.writeAll e (data.drop sent), true⟩)
  | done (all : sent = data.length) : Stands e data sent (.resolved (.ok .allWritten))
  | failed (err : ChannelError) (nothing : sent = 0) (more : sent < data.length)
    (reason : err = .badAccess ∨ ∃ text, err = .invalidArgument text) :
    Stands e data sent (.resolved (.error err))

theorem Stands.done_iff {e : Endpoint} {data : List UInt8} {sent : Nat} {state : TaskState}
    (stands : Stands e data sent state) :
    state = .resolved (.ok .allWritten) ↔ sent = data.length := by
  cases stands with
  | waits more => exact ⟨nofun, fun all => absurd all (Nat.ne_of_lt more)⟩
  | done all => exact ⟨fun _ => all, fun _ => rfl⟩
  | failed err nothing more reason => exact ⟨nofun, fun all => absurd all (Nat.ne_of_lt more)⟩

/-- What has been told so far in a poll of a task that uses one endpoint. -/
def Poller.deeds (p : Poller) (e : Endpoint) : List Deed :=
  p.account.map (.ofPoll p.ticket e.via)

/-- The runs of a task that sends all of some data. Before it is polled for the first time and
between two polls anything may happen; it may be woken or not, and polled with any waker. It holds
its session, so that is open whenever it is polled. -/
inductive Sending (memory : Memory) (most : Nat) (e : Endpoint) (data : List UInt8) :
    System → TaskState → List Deed → Prop where
  | made {s : System} {history : History} (reached : Reached memory most s history) :
    Sending memory most e data s (.pending ⟨.writeAll e data, false⟩) (history.map .ofOthers)
  | meanwhile {s u : System} {state : TaskState} {deeds : List Deed} {later : History}
    (before : Sending memory most e data s state deeds) (onward : Onward memory most s u later) :
    Sending memory most e data u state (deeds ++ later.map .ofOthers)
  | polled {s : System} {t : Task} {deeds : List Deed}
    (before : Sending memory most e data s (.pending t) deeds) (w : Waker) (ticket : Nat)
    (numbered : Numbered memory most ticket s) (held : s.Holds e) :
    Sending memory most e data (Poller.poll ⟨s, w, ticket, []⟩ t).1.system
      (Poller.poll ⟨s, w, ticket, []⟩ t).2
      (deeds ++ (Poller.poll ⟨s, w, ticket, []⟩ t).1.deeds e)

namespace Poller

variable {memory : Memory} {most sent calls : Nat} {e : Endpoint} {data : List UInt8}
  {earlier : List Deed} {p : Poller} {op : Operation}

/-- In the middle of a poll that follows on earlier deeds: so many bytes are sent by now, with at
most so many calls in this poll. -/
structure Underway (memory : Memory) (most : Nat) (e : Endpoint) (data : List UInt8)
    (earlier : List Deed) (p : Poller) (sent calls : Nat) : Prop where
  numbered : Numbered memory most p.ticket p.system
  held : p.system.Holds e
  reached : Reached memory most p.system (Deed.history (earlier ++ p.deeds e))
  sends : Sent e data (earlier ++ p.deeds e) sent
  permitted : 0 < sent → p.system.Permits e .writing
  few : Deed.calls (p.deeds e) ≤ calls

theorem deeds_performed (p : Poller) (e : Endpoint) (after : System) (told : List Notice) :
    Poller.deeds { p with system := after, account := p.account ++ told } e
      = p.deeds e ++ told.map (.ofPoll p.ticket e.via) :=
  List.map_append

namespace Underway

/-- Whatever a poll does, what is known of the system stays known. -/
theorem perform (underway : Underway memory most e data earlier p sent calls) (now more : Nat)
    (polls : op.Polls p.ticket) {after : System} {outcome : Outcome} {told : List Notice}
    (performed : p.system.performVia e.via e.session op = (after, outcome, told))
    (sends : Sent e data (earlier ++ p.deeds e ++ told.map (.ofPoll p.ticket e.via)) now)
    (permitted : 0 < now → p.system.Permits e .writing)
    (few : Deed.calls (told.map (.ofPoll p.ticket e.via)) ≤ more) :
    Underway memory most e data earlier { p with system := after, account := p.account ++ told }
      now (calls + more) := by
  have numbered := underway.numbered.quietVia e.via e.session polls.quiet
  have held := underway.held.performVia underway.numbered polls e.via e.session
  have fresh (ch : Channel) (found : p.system.channels[e.via]? = some ch) : op.Fresh ch :=
    underway.numbered.fresh polls.quiet.tickets found
  have goesOn : Reached memory most after
        (Deed.history (earlier ++ p.deeds e) ++ told.map (Prod.mk e.via)) ∧
      (0 < now → after.Permits e .writing) := by
    obtain ⟨history, reached⟩ := numbered.reached
    by_cases own : e.via = e.session.channel
    · rw [System.performVia, if_pos own] at performed reached
      have next := underway.reached.performed e.via op fresh reached.openSessions_le
      have still (some : 0 < now) := (permitted some).perform underway.reached e.via fresh
      rw [performed] at next still
      exact ⟨next, still⟩
    · rw [System.performVia_foreign _ own] at performed
      cases performed
      rw [List.map_nil, List.append_nil]
      exact ⟨underway.reached, permitted⟩
  rw [performed] at numbered held
  refine ⟨numbered, held, ?_, ?_, goesOn.2, ?_⟩
  · rw [deeds_performed, ← List.append_assoc, Deed.history_append, Deed.history_ofPoll]
    exact goesOn.1
  · rw [deeds_performed, ← List.append_assoc]
    exact sends
  · rw [deeds_performed, Deed.calls_append]
    exact Nat.add_le_add underway.few few

/-- A look tells the readiness of the channel and nothing more. -/
theorem check (underway : Underway memory most e data earlier p sent calls)
    (own : e.isOwn = true) :
    ∃ after r, p.check e = (after, .ok r) ∧
      Underway memory most e data earlier after sent calls := by
  have same : e.via = e.session.channel := by simpa [Endpoint.isOwn] using own
  obtain ⟨ch, found, isOpen⟩ := underway.held
  obtain ⟨session, isOpen⟩ := Option.isSome_iff_exists.mp isOpen
  have looked : p.system.performVia e.via e.session (.poll e.session.slot (some p.waker))
      = ({ p.system with
            channels := p.system.channels.set e.session.channel (ch.registered p.waker) },
          .ready ch.readiness, []) := by
    rw [System.performVia, if_pos same, same, System.perform_eq found,
      Channel.perform_poll_of_open isOpen]
  have next := underway.perform sent 0 (.look _ _) looked
    (by simpa using underway.sends) underway.permitted (Nat.le_refl 0)
  refine ⟨_, ch.readiness, ?_, next⟩
  rw [Poller.check, Poller.perform, looked]

end Underway

/-- How a poll goes on after it has tried to send some more. -/
inductive Advanced (memory : Memory) (most : Nat) (e : Endpoint) (data : List UInt8)
    (earlier : List Deed) (sent calls : Nat) : Poller × Waited Transferred → Prop where
  | waits (after : Poller) (underway : Underway memory most e data earlier after sent calls) :
    Advanced memory most e data earlier sent calls (after, none)
  | failed (after : Poller) (underway : Underway memory most e data earlier after sent calls)
    (err : ChannelError) (nothing : sent = 0)
    (reason : err = .badAccess ∨ ∃ text, err = .invalidArgument text) :
    Advanced memory most e data earlier sent calls (after, some (.error err))
  | moved (after : Poller) (n : Nat) (some : 0 < n)
    (underway : Underway memory most e data earlier after (sent + n) calls) :
    Advanced memory most e data earlier sent calls (after, .some (.ok (.count n)))

namespace Underway

theorem mono (underway : Underway memory most e data earlier p sent calls) {more : Nat}
    (le : calls ≤ more) : Underway memory most e data earlier p sent more :=
  { underway with few := Nat.le_trans underway.few le }

theorem unsent (underway : Underway memory most e data earlier p sent calls)
    (forbidden : ¬p.system.Permits e .writing) : sent = 0 :=
  Nat.eq_zero_of_not_pos fun some => forbidden (underway.permitted some)

/-- An offer that fails is a call in vain. -/
theorem vain (underway : Underway memory most e data earlier p sent calls) {after : System}
    {outcome : Outcome} {err : ChannelError}
    (performed : p.system.attempt e (e.call p.ticket (.write (data.drop sent)))
      = (after, outcome, [.ended (e.call p.ticket (.write (data.drop sent))) (.error err)])) :
    Underway memory most e data earlier
      { p with
        system := after
        account := p.account ++ [.ended (e.call p.ticket (.write (data.drop sent))) (.error err)] }
      sent (calls + 1) := by
  refine underway.perform sent 1 (.attempt _ rfl) performed ?_ underway.permitted ?_
  · rw [List.map_singleton, Deed.ofPoll_own]
    exact .vain underway.sends p.ticket err
  · rw [List.map_singleton, Deed.ofPoll_own]
    exact Nat.le_refl 1

/-- An offer that is taken moves a piece. What is told after it is about others. -/
theorem piece (underway : Underway memory most e data earlier p sent calls) {after : System}
    {outcome : Outcome} {n : Nat} {others : List Notice}
    (performed : p.system.attempt e (e.call p.ticket (.write (data.drop sent)))
      = (after, outcome,
        .ended (e.call p.ticket (.write (data.drop sent))) (.ok (.count n)) :: others))
    (permitted : p.system.Permits e .writing) (some : 0 < n) (fits : n ≤ (data.drop sent).length)
    (apart : ∀ m ∈ others, ∀ c, m.call? = .some c → c.ticket ≠ p.ticket) :
    Underway memory most e data earlier
      { p with
        system := after
        account := p.account
          ++ .ended (e.call p.ticket (.write (data.drop sent))) (.ok (.count n)) :: others }
      (sent + n) (calls + 1) := by
  have apart := Deed.own_ofPoll_others (c := e.via) apart
  refine underway.perform (sent + n) 1 (.attempt _ rfl) performed ?_ (fun _ => permitted) ?_
  · rw [List.map_cons, Deed.ofPoll_own, List.append_cons]
    exact .others (.piece underway.sends p.ticket n some fits) _ apart
  · rw [List.map_cons, Deed.ofPoll_own, ← List.singleton_append, Deed.calls_append,
      Deed.calls_of_others apart]
    exact Nat.le_refl 1

theorem tryOrWait (underway : Underway memory most e data earlier p sent calls)
    (more : sent < data.length) :
    Advanced memory most e data earlier sent (calls + 1)
      (p.tryOrWait e (.write (data.drop sent))) := by
  have left : data.drop sent ≠ [] := by simpa using more
  have offered := System.offered underway.numbered underway.held left
  generalize performed : p.system.attempt e (e.call p.ticket (.write (data.drop sent))) = result
    at offered
  rw [Poller.tryOrWait, Poller.attempt, Poller.perform]
  cases offered with
  | foreign foreign reason =>
    have next := underway.perform sent 1 (.attempt _ rfl) performed
      (by simpa using underway.sends) underway.permitted (Nat.zero_le 1)
    simp only [performed]
    exact .failed _ next _ (underway.unsent fun permits => by simp [permits.1] at foreign)
      (.inr ⟨reason, rfl⟩)
  | denied forbidden =>
    simp only [performed]
    exact .failed _ (underway.vain performed) _ (underway.unsent forbidden) (.inl rfl)
  | blocked permitted =>
    obtain ⟨after, r, seen, looked⟩ := (underway.vain performed).check permitted.1
    simp only [performed, seen]
    exact .waits _ looked
  | taken permitted after n others some fits apart =>
    simp only [performed]
    exact .moved _ n some (underway.piece performed permitted some fits apart)

theorem advance (underway : Underway memory most e data earlier p sent calls)
    (more : sent < data.length) (waiting : Bool) :
    Advanced memory most e data earlier sent (calls + 1)
      (p.advance waiting e (.write (data.drop sent))) := by
  unfold Poller.advance
  split
  · cases own : e.isOwn with
    | false =>
      rw [check_foreign _ own]
      exact .failed _ (underway.mono (Nat.le_succ _)) _
        (underway.unsent fun permits => by simp [permits.1] at own) (.inr ⟨_, rfl⟩)
    | true =>
      obtain ⟨after, r, seen, looked⟩ := underway.check own
      rw [seen]
      dsimp only
      split
      · exact looked.tryOrWait more
      · exact .waits _ (looked.mono (Nat.le_succ _))
  · exact underway.tryOrWait more

/-- The loop over the pieces. Every piece takes at least one byte, so there is one call at most for
each byte that is sent, and one that may fail. -/
theorem sendAll (underway : Underway memory most e data earlier p sent calls) {fuel : Nat}
    (enough : data.length ≤ sent + fuel) (waiting : Bool) :
    ∃ now, sent ≤ now ∧ Stands e data now (p.sendAll e fuel waiting (data.drop sent)).2 ∧
      Underway memory most e data earlier (p.sendAll e fuel waiting (data.drop sent)).1 now
        (calls + (now - sent) + 1) := by
  induction fuel generalizing p sent calls waiting with
  | zero =>
    have all : sent = data.length := Nat.le_antisymm underway.sends.le enough
    have nothing : data.drop sent = [] := List.drop_eq_nil_of_le enough
    rw [nothing]
    exact ⟨sent, Nat.le_refl _, .done all, underway.mono (by omega)⟩
  | succ fuel ih =>
    rcases Nat.lt_or_ge sent data.length with more | all
    · have advanced := underway.advance more waiting
      rw [Poller.sendAll]
      · generalize p.advance waiting e (.write (data.drop sent)) = result at advanced
        cases advanced with
        | waits after next =>
          exact ⟨sent, Nat.le_refl _, .waits more, next.mono (by omega)⟩
        | failed after next err nothing reason =>
          exact ⟨sent, Nat.le_refl _, .failed err nothing more reason, next.mono (by omega)⟩
        | moved after n some next =>
          obtain ⟨now, later, stands, done⟩ := ih next (by omega) false
          dsimp only
          rw [List.drop_drop]
          exact ⟨now, by omega, stands, done.mono (by omega)⟩
      · simpa using more
    · have nothing : data.drop sent = [] := List.drop_eq_nil_of_le all
      rw [nothing]
      exact ⟨sent, Nat.le_refl _, .done (Nat.le_antisymm underway.sends.le all),
        underway.mono (by omega)⟩

end Underway

/-- What a whole poll does. -/
theorem sends_poll {s : System} {w : Waker} {ticket : Nat}
    (reached : Reached memory most s (Deed.history earlier)) (sends : Sent e data earlier sent)
    (permitted : 0 < sent → s.Permits e .writing) (numbered : Numbered memory most ticket s)
    (held : s.Holds e) (waiting : Bool) :
    ∃ now, sent ≤ now ∧
      Stands e data now
        (Poller.poll ⟨s, w, ticket, []⟩ ⟨.writeAll e (data.drop sent), waiting⟩).2 ∧
      Underway memory most e data earlier
        (Poller.poll ⟨s, w, ticket, []⟩ ⟨.writeAll e (data.drop sent), waiting⟩).1 now
        (now - sent + 1) := by
  have start : Underway memory most e data earlier ⟨s, w, ticket, []⟩ sent 0 :=
    ⟨numbered, held, by simpa [deeds] using reached, by simpa [deeds] using sends, permitted,
      Nat.le_refl 0⟩
  have le := sends.le
  have enough : data.length ≤ sent + (data.drop sent).length := by
    rw [List.length_drop]
    omega
  obtain ⟨now, later, stands, done⟩ := start.sendAll enough waiting
  exact ⟨now, later, stands, done.mono (by omega)⟩

end Poller

namespace Sending

variable {memory : Memory} {most : Nat} {e : Endpoint} {data : List UInt8} {s : System}
  {state : TaskState} {deeds : List Deed}

/-- What is known of a task between its polls. -/
structure Known (memory : Memory) (most : Nat) (e : Endpoint) (data : List UInt8) (s : System)
    (state : TaskState) (deeds : List Deed) (sent : Nat) : Prop where
  reached : Reached memory most s (Deed.history deeds)
  sends : Sent e data deeds sent
  permitted : 0 < sent → s.Permits e .writing
  stands : state = .pending ⟨.writeAll e data, false⟩ ∧ sent = 0 ∨ Stands e data sent state

/-- Where a task is polled it has the rest of its data left. -/
theorem Known.left {t : Task} {sent : Nat}
    (known : Known memory most e data s (.pending t) deeds sent) :
    ∃ waiting, t = ⟨.writeAll e (data.drop sent), waiting⟩ := by
  rcases known.stands with ⟨made, rfl⟩ | stands
  · cases made
    exact ⟨false, rfl⟩
  · cases stands
    exact ⟨true, rfl⟩

theorem known (sending : Sending memory most e data s state deeds) :
    ∃ sent, Known memory most e data s state deeds sent := by
  induction sending with
  | @made s history reached =>
    exact ⟨0, by rwa [Deed.history_ofOthers], .others .start _ (Deed.own_ofOthers history),
      fun some => absurd some (Nat.lt_irrefl 0), .inl ⟨rfl, rfl⟩⟩
  | @meanwhile s u state deeds later before onward ih =>
    obtain ⟨sent, known⟩ := ih
    refine ⟨sent, ?_, known.sends.others _ (Deed.own_ofOthers later),
      fun some => (known.permitted some).onward known.reached onward, known.stands⟩
    rw [Deed.history_append, Deed.history_ofOthers]
    exact known.reached.onward onward
  | polled before w ticket numbered held ih =>
    obtain ⟨sent, known⟩ := ih
    obtain ⟨waiting, rfl⟩ := known.left
    obtain ⟨now, -, stands, underway⟩ := Poller.sends_poll (w := w) known.reached known.sends
      known.permitted numbered held waiting
    exact ⟨now, underway.reached, underway.sends, underway.permitted, .inr stands⟩

/-- Among all that the channel has accepted, a piece of the task's data is in one stretch. -/
theorem Known.stretch {sent : Nat} (known : Known memory most e data s state deeds sent)
    {before after : List Deed} {d : Deed} (whole : deeds = before ++ d :: after)
    (own : d.own = true) :
    accepted ((Deed.history deeds).on e.via)
      = accepted ((Deed.history before).on e.via) ++ d.notice.accepted
        ++ accepted ((Deed.history after).on e.via) := by
  subst whole
  have here : d.channel = e.via := known.sends.channel d (by simp) own
  have split : History.on (Deed.history (before ++ d :: after)) e.via
      = History.on (Deed.history before) e.via ++ d.notice
        :: History.on (Deed.history after) e.via := by
    simp [Deed.history, History.on, here]
  rw [split]
  simp [accepted]

end Sending

/-- A task that sends all of some data has at every moment had the front of it accepted, byte for
byte and in order, whatever else happens on the channel between its polls. It resolves well if and
only if all is sent, at once and without a call if there is nothing to send; it fails only where its
session is foreign or does not permit writing, and then nothing has been sent. It never resolves
because the channel is full or because of an interrupt. A poll makes at most one call for each byte
that it sends, and one more. Each piece goes in one stretch into what the channel accepts and, while
the storage is there, returns or still holds. -/
theorem write_all_sends_once_in_order {memory : Memory} {most : Nat} {e : Endpoint}
    {data : List UInt8} {s : System} {state : TaskState} {deeds : List Deed}
    (sending : Sending memory most e data s state deeds) :
    ∃ sent ≤ data.length, Sent e data deeds sent ∧ Deed.accepted deeds = data.take sent ∧
      (state = .pending ⟨.writeAll e data, false⟩ ∧ sent = 0 ∨
        Stands e data sent state ∧ (state = .resolved (.ok .allWritten) ↔ sent = data.length)) ∧
      (∀ before, before <+: deeds → ∃ now ≤ sent, Sent e data before now ∧
        Deed.accepted before = data.take now) ∧
      (∀ t w ticket, state = .pending t → Numbered memory most ticket s → s.Holds e →
        (data = [] → Poller.poll ⟨s, w, ticket, []⟩ t
          = (⟨s, w, ticket, []⟩, .resolved (.ok .allWritten))) ∧
        ∃ now, sent ≤ now ∧ now ≤ data.length ∧
          Stands e data now (Poller.poll ⟨s, w, ticket, []⟩ t).2 ∧
          Sent e data (deeds ++ (Poller.poll ⟨s, w, ticket, []⟩ t).1.deeds e) now ∧
          Deed.calls ((Poller.poll ⟨s, w, ticket, []⟩ t).1.deeds e) ≤ now - sent + 1) ∧
      Reached memory most s (Deed.history deeds) ∧
      (∀ before d after, deeds = before ++ d :: after → d.own = true →
        accepted ((Deed.history deeds).on e.via)
          = accepted ((Deed.history before).on e.via) ++ d.notice.accepted
            ++ accepted ((Deed.history after).on e.via)) ∧
      (∀ ch since, s.channels[e.via]? = some ch →
        lifetime ((Deed.history deeds).on e.via) = some since →
        accepted since = returned since ++ ch.ring.contents) := by
  obtain ⟨sent, known⟩ := sending.known
  refine ⟨sent, known.sends.le, known.sends, known.sends.accepted, ?_, fun before earlier => ?_,
    fun t w ticket pending numbered held => ?_, known.reached,
    fun before d after whole own => known.stretch whole own, fun ch since found lasts => ?_⟩
  · exact known.stands.imp id fun stands => ⟨stands, stands.done_iff⟩
  · obtain ⟨now, le, sends⟩ := known.sends.upto earlier
    exact ⟨now, le, sends, sends.accepted⟩
  · subst pending
    obtain ⟨waiting, rfl⟩ := known.left
    refine ⟨fun nothing => ?_, ?_⟩
    · subst nothing
      rw [List.drop_nil]
      rfl
    · obtain ⟨now, later, stands, underway⟩ := Poller.sends_poll (w := w) known.reached known.sends
        known.permitted numbered held waiting
      exact ⟨now, later, underway.sends.le, stands, underway.sends, underway.few⟩
  · obtain ⟨peak, t, life, -, -, rfl, account⟩ := known.reached.living.lived e.via ch found
    exact (life.kept.books since (account ▸ lasts)).fifo

/-- Three bytes for a ring that holds two: the first poll sends two of them, and once one of these
has been read the second poll sends the last. -/
theorem write_all_sends_once_in_order_three_bytes :
    ∃ s deeds,
      Sending ⟨16, by decide⟩ 1 ⟨0, ⟨0, 0⟩⟩ [7, 8, 9] s (.resolved (.ok .allWritten)) deeds ∧
      Deed.accepted deeds = [7, 8, 9] := by
  have created := (@Reached.empty ⟨16, by decide⟩ 1).created
    (show Channel.create? "pipe" 3 = .ok _ from rfl)
  have opened := created.performed 0 (.openSession .readWrite false)
    (fun ch found => .of_idle _ fun d => by cases found; cases d <;> rfl) (by decide)
  have first : Numbered ⟨16, by decide⟩ 1 1 _ :=
    ⟨⟨_, opened⟩, fun ch listed d c asleep => by
      obtain rfl := List.mem_singleton.mp listed
      cases d <;> exact absurd asleep List.not_mem_nil⟩
  let e : Endpoint := ⟨0, ⟨0, 0⟩⟩
  have made : Sending ⟨16, by decide⟩ 1 e [7, 8, 9] _ _ _ := .made opened
  have begun := made.polled (.task 0) 1 first ⟨_, rfl, rfl⟩
  have inStep : Poller.InStep ⟨16, by decide⟩ 1 1 ⟨_, .task 0, 1, []⟩ := ⟨rfl, first⟩
  have polled := (inStep.poll ⟨.writeAll e [7, 8, 9], false⟩).numbered.next
  have read := begun.meanwhile (Onward.here.performed 0 (.tryCall ⟨2, 0, .read 1⟩)
    (fun ch found => polled.fresh (fun c called => by cases called; rfl) found) (by decide +kernel))
  have second :=
    (polled.quiet 0 (show Operation.Quiet 2 (.tryCall ⟨2, 0, .read 1⟩) from rfl)).next
  have ended := read.polled (.task 0) 3 second
    ((Option.any_eq_true _ _).mp (by decide +kernel))
  obtain ⟨sent, le, -, front, stands, -⟩ := write_all_sends_once_in_order ended
  have all : [7, 8, 9].take sent = ([7, 8, 9] : List UInt8) := front.symm.trans (by decide +kernel)
  have whole : sent = 3 := by
    have length := congrArg List.length all
    simp only [List.length_take, List.length_cons, List.length_nil] at length le
    omega
  rcases stands with ⟨-, nothing⟩ | ⟨-, done⟩
  · omega
  · rw [done.mpr whole] at ended
    exact ⟨_, _, ended, front.trans all⟩

end BytePipe
