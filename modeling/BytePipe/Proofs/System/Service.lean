import BytePipe.Proofs.Channel.Line
import BytePipe.Proofs.System.Numbered
import BytePipe.Proofs.System.Sessions

/-!
The service of sleeping calls in a system. On every channel of a reached system the calls in line
are served in its order (`System.Reached.inOrder`), and a transfer lets at most the next one of the
other side finish (`System.Reached.relief`). So in any operation but an interrupt no more calls of
earlier steps finish than calls of the present one move bytes (`System.Numbered.balanced_perform`).
-/
namespace BytePipe

/-- A call of an earlier step comes back. -/
def Notice.finishes (ticket : Nat) : Notice → Bool
  | .ended c _ => c.ticket != ticket
  | _ => false

/-- A call of the step moves bytes. -/
def Notice.moves (ticket : Nat) (n : Notice) : Bool :=
  n.mover?.any (·.ticket == ticket)

/-- How many calls of earlier steps come back. -/
def timesFinished (ticket : Nat) (account : List Notice) : Nat :=
  account.countP (Notice.finishes ticket)

/-- How many transfers are made by calls of the step. -/
def timesMoved (ticket : Nat) (account : List Notice) : Nat :=
  account.countP (Notice.moves ticket)

/-- No more calls of earlier steps come back than there are transfers by calls of the step. -/
def Balanced (ticket : Nat) (account : List Notice) : Prop :=
  timesFinished ticket account ≤ timesMoved ticket account

section Counts

variable {ticket : Nat} {account more : List Notice} {c : Call}

theorem timesFinished_append : timesFinished ticket (account ++ more)
    = timesFinished ticket account + timesFinished ticket more :=
  List.countP_append

theorem timesMoved_append :
    timesMoved ticket (account ++ more) = timesMoved ticket account + timesMoved ticket more :=
  List.countP_append

theorem Balanced.append (first : Balanced ticket account) (second : Balanced ticket more) :
    Balanced ticket (account ++ more) := by
  rw [Balanced, timesFinished_append, timesMoved_append]
  exact Nat.add_le_add first second

/-- What is told of no call does not count. -/
theorem counts_apart (ticket : Nat) (apart : ∀ n ∈ account, n.call? = none) :
    timesFinished ticket account = 0 ∧ timesMoved ticket account = 0 := by
  have neither (n : Notice) (told : n ∈ account) :
      ¬n.finishes ticket = true ∧ ¬n.moves ticket = true := by
    have none := apart n told
    cases n with
    | ended c result => cases none
    | _ => exact ⟨Bool.false_ne_true, Bool.false_ne_true⟩
  exact ⟨List.countP_eq_zero.mpr fun n told => (neither n told).1,
    List.countP_eq_zero.mpr fun n told => (neither n told).2⟩

theorem counts_woke (ticket : Nat) (wakers : List Waker) :
    timesFinished ticket (wakers.map .woke) = 0 ∧ timesMoved ticket (wakers.map .woke) = 0 :=
  counts_apart ticket (call?_woke wakers)

/-- What a transfer of the step leads to, where all sleeping calls are of earlier steps. -/
theorem Channel.Relief.counts {ch after : Channel} {moved : Transferred} {told : List Notice}
    (relief : ch.Relief c moved after told) (own : c.ticket = ticket)
    (earlier : ∀ d, ∀ w ∈ ch.sleepers d, w.ticket ≠ ticket) (some : moved.size ≠ 0) :
    timesFinished ticket told ≤ 1 ∧ timesMoved ticket told = 1 := by
  have finished : timesFinished ticket [.ended c (.ok moved)] = 0 := by
    simp [timesFinished, Notice.finishes, own]
  have moves : timesMoved ticket [.ended c (.ok moved)] = 1 := by
    simp [timesMoved, Notice.moves, Notice.mover?, some, own]
  cases relief with
  | nobody wakers idle same =>
    rw [← List.singleton_append, timesFinished_append, timesMoved_append, finished, moves,
      (counts_woke ticket wakers).1, (counts_woke ticket wakers).2]
    exact ⟨Nat.zero_le 1, rfl⟩
  | next wakers others next rest got asleep left idle more =>
    have other : next.ticket ≠ ticket := earlier _ next (asleep ▸ List.mem_cons_self)
    have came : timesFinished ticket [.ended next (.ok got)] = 1 := by
      simp [timesFinished, Notice.finishes, other]
    have none : timesMoved ticket [.ended next (.ok got)] = 0 := by
      simp [timesMoved, Notice.moves, Notice.mover?, more, other]
    rw [← List.singleton_append, List.append_cons]
    simp only [timesFinished_append, timesMoved_append, finished, moves, came, none,
      (counts_woke ticket wakers).1, (counts_woke ticket wakers).2,
      (counts_woke ticket others).1, (counts_woke ticket others).2]
    exact ⟨Nat.le_refl 1, trivial⟩

end Counts

namespace Channel

variable {memory : Memory} {most : Nat} {ch : Channel} {account : List Notice} {op : Operation}
  {c : Call}

/-- The channel is at rest, with the account of its life in order. -/
def InService (ch : Channel) (account : List Notice) : Prop :=
  ∃ waits, Turn.Rested ⟨ch, [], account⟩ waits

theorem inService_named (name : String) (capacity : Nat) :
    (Channel.named name capacity).InService [] :=
  ⟨[], .nil, fun _ => ⟨.reading, rfl, nofun, rfl⟩⟩

theorem InService.perform (service : ch.InService account) (lived : ch.Lived memory most account)
    (few : most < 2 ^ 32) (fresh : op.Fresh ch)
    (later : (ch.perform memory op).1.openUses ≤ most) :
    (ch.perform memory op).1.InService (account ++ (ch.perform memory op).2.2) := by
  obtain ⟨peak, le, life⟩ := lived.life
  obtain ⟨waits, rested⟩ := service
  have uses := life.openUses_perform rfl fresh
  obtain ⟨after, done⟩ :=
    life.rested_settle (by omega) (by rw [← uses]; exact Nat.lt_of_le_of_lt later few) rfl fresh
      rested
  rw [Turn.settle_apply_of_settled memory op rfl, Turn.following, Turn.woken_settle] at done
  exact ⟨after, done⟩

/-- What a transfer of a whole operation leads to. -/
theorem Lived.relief (lived : ch.Lived memory most account) (few : most < 2 ^ 32)
    (called : op.call? = some c) {moved : Transferred}
    (transferred : (ch.perform memory op).2.1 = .transferred moved) (some : moved.size ≠ 0) :
    ch.Relief c moved (ch.perform memory op).1 (ch.perform memory op).2.2 := by
  obtain ⟨peak, le, life⟩ := lived.life
  have outcome : (op.apply memory ⟨ch, [], account⟩).2 = .transferred moved := by
    rw [Turn.apply_of_settled memory op rfl]
    exact transferred
  obtain ⟨told, same, relief⟩ := life.relief (by omega) rfl called outcome some
  rw [Turn.settle_apply_of_settled memory op rfl] at same relief
  obtain rfl : (ch.perform memory op).2.2 = told := List.append_cancel_left same
  exact relief

/-- What a call tells that has just come and moves nothing. -/
theorem counts_answered {ticket : Nat} {result : CallResult} (own : c.ticket = ticket)
    (vain : ∀ moved, result = .ok moved → moved.size = 0 ∧ c.request.isTrivial = true) :
    timesFinished ticket [.ended c result] = 0 ∧ timesMoved ticket [.ended c result] = 0 := by
  refine ⟨by simp [timesFinished, Notice.finishes, own], ?_⟩
  cases result with
  | error e => rfl
  | ok moved => simp [timesMoved, Notice.moves, Notice.mover?, (vain moved rfl).1]

theorem Lived.counts {ticket : Nat} (lived : ch.Lived memory most account) (few : most < 2 ^ 32)
    (tickets : ∀ call, op.call? = some call → call.ticket = ticket)
    (earlier : ∀ d, ∀ w ∈ ch.sleepers d, w.ticket ≠ ticket)
    (quiet : ∀ slot, op ≠ .interrupt slot) :
    Balanced ticket (ch.perform memory op).2.2 ∧
      timesMoved ticket (ch.perform memory op).2.2 ≤ if op.call?.isSome then 1 else 0 := by
  cases called : op.call? with
  | none =>
    have apart := Turn.apart_apply memory (.start ch) called quiet
    obtain ⟨told, same, none⟩ := apart.told
    rw [perform_of_settled apart.woken, same]
    obtain ⟨finished, moved⟩ := counts_apart ticket none
    exact ⟨by rw [Balanced, Turn.start, List.nil_append, finished]; exact Nat.zero_le _,
      Nat.le_of_eq moved⟩
  | some call =>
    have own := tickets call called
    have treated := Turn.treated_apply memory (.start ch) called
    generalize applied : op.apply memory (.start ch) = result at treated
    cases treated with
    | refused =>
      rw [perform_of_settled (by rw [applied]; rfl), applied]
      exact ⟨Nat.le_refl 0, Nat.zero_le _⟩
    | answered result vain same account =>
      rw [perform_of_settled (by rw [applied]; exact same.woken), applied]
      simp only [account]
      obtain ⟨finished, moved⟩ := counts_answered own vain
      exact ⟨Nat.le_trans (Nat.le_of_eq finished) (Nat.zero_le _),
        Nat.le_trans (Nat.le_of_eq moved) (Nat.zero_le _)⟩
    | slept fits unready =>
      rw [perform_of_settled (by rw [applied]; rfl), applied]
      exact ⟨Nat.le_refl 0, Nat.zero_le _⟩
    | moved fits ready =>
      obtain ⟨peak, -, life⟩ := lived.life
      have some := size_serve life.inside fits.nontrivial ready
      have outcome : (ch.perform memory op).2.1
          = .transferred (ch.ring.serve call.request).1 := congrArg Prod.snd applied
      obtain ⟨finished, moved⟩ :=
        (lived.relief few called outcome some).counts own earlier some
      exact ⟨Nat.le_trans finished (Nat.le_of_eq moved.symm), Nat.le_of_eq moved⟩

end Channel

namespace System

variable {memory : Memory} {most ticket : Nat} {s : System} {history : History} {op : Operation}

/-- New channels have an empty account and nobody in line. -/
theorem Living.inService_add (living : Living memory most s history)
    (service : ∀ (c : ChannelId) (ch : Channel), s.channels[c]? = some ch →
      ch.InService (history.on c))
    {channels : List Channel}
    (new : ∀ ch ∈ channels, ∃ name capacity, 0 < capacity ∧ ch = .named name capacity)
    (c : ChannelId) (ch : Channel) (found : (s.channels ++ channels)[c]? = some ch) :
    ch.InService (history.on c) := by
  rcases Nat.lt_or_ge c s.channels.length with old | young
  · rw [List.getElem?_append_left old] at found
    exact service c ch found
  · rw [List.getElem?_append_right young] at found
    obtain ⟨name, capacity, -, rfl⟩ := new ch (List.mem_of_getElem? found)
    rw [living.untold young]
    exact Channel.inService_named name capacity

theorem Reached.inService (reached : Reached memory most s history) (few : most < 2 ^ 31) :
    ∀ (c : ChannelId) (ch : Channel), s.channels[c]? = some ch → ch.InService (history.on c) := by
  induction reached with
  | empty => exact fun c ch found => by contradiction
  | created before created ih =>
    exact before.living.inService_add ih (named_of_mem_created created)
  | installed before installed ih =>
    obtain ⟨channels, described, rfl⟩ := channels_of_install installed
    exact before.living.inService_add ih (named_of_channelsFor described)
  | @performed s history c op before fresh uses ih =>
    have living := before.living
    intro other after listed
    cases found : s.channels[c]? with
    | none =>
      rw [perform, found] at listed ⊢
      rw [List.map_nil, List.append_nil]
      exact ih other after listed
    | some ch =>
      have inside : c < s.channels.length := (List.getElem?_eq_some_iff.mp found).1
      rw [perform_eq found] at uses listed ⊢
      rw [History.on_append]
      by_cases own : c = other
      · subst own
        simp only at listed uses
        rw [List.getElem?_set_self inside] at listed
        obtain rfl := Option.some.inj listed
        rw [History.on_tagged]
        have le := uses _ (List.mem_set inside _)
        have most := (ch.perform s.memory op).1.openUses_le
        rw [living.grants] at le most ⊢
        exact (ih c ch found).perform (living.lived c ch found) (by omega) (fresh ch found)
          (by omega)
      · simp only at listed
        rw [List.getElem?_set_ne own] at listed
        rw [History.on_tagged_ne _ own, List.append_nil]
        exact ih other after listed

/-- Calls that have slept come back with success in the order in which they first fell asleep. -/
theorem Reached.inOrder (reached : Reached memory most s history) (few : most < 2 ^ 31)
    (c : ChannelId) : InOrder (history.on c) := by
  cases found : s.channels[c]? with
  | none =>
    rw [reached.living.untold (List.getElem?_eq_none_iff.mp found)]
    exact Lined.nil.order
  | some ch =>
    obtain ⟨waits, rested⟩ := reached.inService few c ch found
    exact rested.lined.order

/-- What a transfer on a channel leads to. -/
theorem Reached.relief (reached : Reached memory most s history) (few : most < 2 ^ 31)
    {c : ChannelId} {ch : Channel} (found : s.channels[c]? = some ch) {call : Call}
    (called : op.call? = some call) {moved : Transferred}
    (transferred : (ch.perform memory op).2.1 = .transferred moved) (some : moved.size ≠ 0) :
    ch.Relief call moved (ch.perform memory op).1 (ch.perform memory op).2.2 :=
  (reached.living.lived c ch found).relief (by omega) called transferred some

/-- In an operation of a step that is not an interrupt, at most one call of an earlier step comes
back, and only if a call of this step moves bytes. -/
theorem Numbered.balanced_perform (numbered : Numbered memory most ticket s) (few : most < 2 ^ 31)
    (c : ChannelId) (tickets : ∀ call, op.call? = some call → call.ticket = ticket)
    (quiet : ∀ slot, op ≠ .interrupt slot) :
    Balanced ticket (s.perform c op).2.2 ∧
      timesMoved ticket (s.perform c op).2.2 ≤ if op.call?.isSome then 1 else 0 := by
  obtain ⟨history, reached⟩ := numbered.reached
  have living := reached.living
  cases found : s.channels[c]? with
  | none =>
    rw [System.perform, found]
    exact ⟨Nat.le_refl 0, Nat.zero_le _⟩
  | some ch =>
    rw [perform_eq found, living.grants]
    refine (living.lived c ch found).counts (by omega) tickets (fun d w asleep => ?_) quiet
    exact Nat.ne_of_lt (numbered.earlier ch (List.mem_of_getElem? found) d w asleep)

theorem Numbered.balanced_performVia (numbered : Numbered memory most ticket s)
    (few : most < 2 ^ 31) (via : ChannelId) (id : SessionId)
    (tickets : ∀ call, op.call? = some call → call.ticket = ticket)
    (quiet : ∀ slot, op ≠ .interrupt slot) :
    Balanced ticket (s.performVia via id op).2.2 ∧
      timesMoved ticket (s.performVia via id op).2.2 ≤ if op.call?.isSome then 1 else 0 := by
  unfold System.performVia
  split
  · exact numbered.balanced_perform few via tickets quiet
  · exact ⟨Nat.le_refl 0, Nat.zero_le _⟩

end System

end BytePipe
