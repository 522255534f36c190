import BytePipe.Proofs.Channel.Wakings

/-!
How wake-ups die out. A call that runs falls asleep again, and then wakes nobody, or comes back, and
then wakes at most one other call (`Turn.Turned`). Every waiting call comes back at most once, so
what is run after an operation, in any order, is what an interrupt wakes at one go and one call for
each that comes back (`Turn.Series.paid`): at most twice as many runs as calls were asleep.
-/
namespace BytePipe

/-- The calls that have come back, the earliest first. -/
def cameBack (account : List Notice) : List Call :=
  (endings account).map (·.1)

theorem cameBack_append (account notices : List Notice) :
    cameBack (account ++ notices) = cameBack account ++ cameBack notices := by
  rw [cameBack, endings_append, List.map_append, cameBack, cameBack]

theorem cameBack_ended (c : Call) (result : CallResult) (wakers : List Waker) :
    cameBack (.ended c result :: wakers.map .woke) = [c] := by
  rw [← List.singleton_append, cameBack_append, cameBack, cameBack, endings_woke]
  rfl

theorem mem_cameBack {account : List Notice} {c : Call} :
    c ∈ cameBack account ↔ ∃ result, .ended c result ∈ account := by
  simp only [cameBack, endings, List.mem_map, List.mem_filterMap]
  constructor
  · rintro ⟨⟨other, result⟩, ⟨n, member, same⟩, rfl⟩
    cases n with
    | ended call outcome =>
      cases same
      exact ⟨_, member⟩
    | _ => cases same
  · rintro ⟨result, member⟩
    exact ⟨(c, result), ⟨_, member, rfl⟩, rfl⟩

/-- How many calls an operation wakes without having moved a byte. -/
def Operation.wakesAtOnce (op : Operation) (ch : Channel) : Nat :=
  match op with
  | .interrupt _ => ch.asleep
  | _ => 0

/-- The call that comes with an operation, unless it is refused. -/
def Operation.came (op : Operation) (outcome : Outcome) : List Call :=
  if outcome = .refused then [] else op.call?.toList

namespace Turn

variable {memory : Memory} {peak fuel : Nat} {op : Operation} {t u v : Turn} {c : Call}
  {calls more : List Call} {told : List Notice} {outcome : Outcome}

/-! ## One run -/

/-- What one run of a woken call comes to. The call falls asleep again and nobody is woken; or it
comes back, with bytes moved or interrupted, and at most one sleeping call is woken. -/
inductive Turned (t : Turn) (c : Call) (u : Turn) : Prop where
  | slept (told : u.account = t.account ++ [.slept c]) (hushed : Hushed t u)
  | ended (result : CallResult) (wakers : List Waker)
    (told : u.account = t.account ++ .ended c result :: wakers.map .woke)
    (deed : result = .error .interrupted ∨ ∃ moved, result = .ok moved ∧ moved.size ≠ 0)
    (next : u.woken = t.woken ∨ ∃ d, u.woken = t.woken ++ (t.channel.sleepers d).take 1)

theorem woken_passedOn (t : Turn) (c : Call) :
    ((t.cutShort c).wakeOne c.direction).woken
      = t.woken ++ (t.channel.sleepers c.direction).take 1 := by
  rw [woken_wakeOne, sleepers_cutShort]
  rfl

theorem Ran.turned (inside : t.channel.ring.Inside) (ran : Ran t c u) : Turned t c u := by
  cases ran with
  | interrupted unready => exact .ended _ [] (account_cutShort t c) (.inl rfl) (.inl rfl)
  | passedOn ready =>
    obtain ⟨wakers, account⟩ := account_passedOn t c
    exact .ended _ wakers account (.inl rfl) (.inr ⟨_, woken_passedOn t c⟩)
  | moved fits ready =>
    obtain ⟨wakers, account⟩ := account_transfer t c
    have some := Channel.size_serve inside fits.nontrivial ready
    exact .ended _ wakers account (.inr ⟨_, rfl, some⟩) (.inr ⟨_, woken_transfer t c⟩)
  | slept fits unready => exact .slept rfl ((Notified.sleep t c).hushed rfl)

theorem waiting_transfer (t : Turn) (c : Call) : (t.transfer c).1.waiting.Perm t.waiting := by
  rw [(alike_transfer t c).waiting]
  exact waiting_wakeOne (t.served c) c.direction.opposite

theorem Unstirred.waiting (same : Unstirred t u) : u.waiting = t.waiting := by
  simp only [Turn.waiting, same.sleepers, same.woken]

/-- How a call leaves the calls that wait, whether it has just come or has been woken: it waits with
them, or it comes back and they wait on, one more of them woken at most. -/
inductive Passed (t : Turn) (c : Call) (u : Turn) : Prop where
  | slept (account : u.account = t.account ++ [.slept c]) (waiting : u.waiting.Perm (c :: t.waiting))
    (woken : u.woken = t.woken)
  | ended (result : CallResult) (wakers : List Waker)
    (account : u.account = t.account ++ .ended c result :: wakers.map .woke)
    (waiting : u.waiting.Perm t.waiting) (few : u.woken.length ≤ t.woken.length + 1)

namespace Passed

theorem few_of_take {d : Direction} (left : u.woken = t.woken ++ (t.channel.sleepers d).take 1) :
    u.woken.length ≤ t.woken.length + 1 := by
  rw [left, List.length_append]
  exact Nat.add_le_add_left (List.length_take_le 1 _) _

theorem sleep (t : Turn) (c : Call) : Passed t c (t.sleep c) :=
  .slept (account_sleep t c) (waiting_sleep t c) rfl

theorem transfer (t : Turn) (c : Call) : Passed t c (t.transfer c).1 := by
  obtain ⟨wakers, account⟩ := account_transfer t c
  exact .ended _ wakers account (waiting_transfer t c) (few_of_take (woken_transfer t c))

/-- The call is the only one that can have come back, and by that it pays for one more call
woken. -/
theorem paid (passed : Passed t c u) :
    ∃ told, u.account = t.account ++ told ∧ (cameBack told ++ u.waiting).Perm (c :: t.waiting) ∧
      u.woken.length ≤ t.woken.length + (cameBack told).length := by
  cases passed with
  | slept account waiting woken => exact ⟨_, account, waiting, Nat.le_of_eq (by rw [woken]; rfl)⟩
  | ended result wakers account waiting few =>
    refine ⟨_, account, ?_, ?_⟩ <;> rw [cameBack_ended]
    · exact waiting.cons c
    · exact few

end Passed

theorem Ran.passed (ran : Ran t c u) : Passed t c u := by
  have short : (t.cutShort c).waiting = t.waiting := (alike_setSignal t c.slot false).waiting
  cases ran with
  | interrupted unready =>
    exact .ended _ [] (account_cutShort t c) (short ▸ .refl _) (Nat.le_succ _)
  | passedOn ready =>
    obtain ⟨wakers, account⟩ := account_passedOn t c
    exact .ended _ wakers account (short ▸ waiting_wakeOne (t.cutShort c) c.direction)
      (Passed.few_of_take (woken_passedOn t c))
  | moved fits ready => exact .transfer t c
  | slept fits unready => exact .sleep t c

/-- A call that an operation makes is refused, or else it waits or comes back. -/
theorem passed_apply (memory : Memory) (t : Turn) (called : op.call? = some c) :
    op.apply memory t = (t, .refused) ∨
      (op.apply memory t).2 ≠ .refused ∧ Passed t c (op.apply memory t).1 := by
  have treated := treated_apply memory t called
  generalize op.apply memory t = result at treated
  cases treated with
  | refused => exact .inl rfl
  | answered result vain same account =>
    have taken : Outcome.ofProgress (.ended result) ≠ .refused := by
      cases result <;> simp [Outcome.ofProgress]
    have woken := Nat.le_succ_of_le (Nat.le_of_eq (congrArg List.length same.woken))
    exact .inr ⟨taken, .ended result [] account (same.waiting ▸ .refl _) woken⟩
  | slept fits unready => exact .inr ⟨by simp, .sleep t c⟩
  | moved fits ready => exact .inr ⟨by simp, .transfer t c⟩

/-! ## Runs in any order -/

/-- Woken calls run one after the other, in any order; the list tells which. -/
inductive Series (t : Turn) : List Call → Turn → Prop where
  | none : Series t [] t
  | ran {calls : List Call} {u : Turn} (before : Series t calls u) (earlier : List Call) (c : Call)
    (later : List Call) (woken : u.woken = earlier ++ c :: later) :
    Series t (calls ++ [c]) (resume { u with woken := earlier ++ later } c)

namespace Series

theorem runs (series : Series t calls u) : Runs t u := by
  induction series with
  | none => exact .none
  | ran before earlier c later woken ih => exact ih.ran earlier c later woken

theorem trans (first : Series t calls u) (second : Series u more v) :
    Series t (calls ++ more) v := by
  induction second with
  | none =>
    rw [List.append_nil]
    exact first
  | ran before earlier c later woken ih =>
    rw [← List.append_assoc]
    exact ih.ran earlier c later woken

/-- Where nobody is woken, nothing runs. -/
theorem of_settled (series : Series t calls u) (settled : t.woken = []) : calls = [] ∧ u = t := by
  induction series with
  | none => exact ⟨rfl, rfl⟩
  | ran before earlier c later woken ih =>
    obtain ⟨-, rfl⟩ := ih
    rw [settled] at woken
    exact absurd woken.symm (by simp)

end Series

/-- With any fuel, woken calls run one after the other until there are none or the fuel is used
up. -/
theorem series_runWoken (fuel : Nat) (t : Turn) :
    ∃ calls, Series t calls (t.runWoken fuel) ∧
      ((t.runWoken fuel).woken = [] ∨ calls.length = fuel) := by
  induction fuel generalizing t with
  | zero => exact ⟨[], .none, .inr rfl⟩
  | succ fuel ih =>
    cases woken : t.woken with
    | nil =>
      rw [runWoken_of_settled woken]
      exact ⟨[], .none, .inl woken⟩
    | cons c rest =>
      have busy : t.woken.isEmpty = false := by rw [woken]; rfl
      have next : t.runNext = resume { t with woken := rest } c := by rw [runNext, woken]
      obtain ⟨calls, series, stops⟩ := ih t.runNext
      rw [runWoken, busy, if_neg Bool.false_ne_true]
      refine ⟨[c] ++ calls, ?_, stops.imp_right fun all => by simp [all]⟩
      have first : Series t ([] ++ [c]) t.runNext := by
        rw [next]
        exact Series.none.ran [] c rest woken
      exact first.trans series

theorem runWoken_add (t : Turn) (fuel rest : Nat) :
    t.runWoken (fuel + rest) = (t.runWoken fuel).runWoken rest := by
  induction fuel generalizing t with
  | zero => rw [Nat.zero_add]; rfl
  | succ fuel ih =>
    by_cases none : t.woken = []
    · rw [runWoken_of_settled none, runWoken_of_settled none, runWoken_of_settled none]
    · have busy : t.woken.isEmpty = false := by simpa using none
      rw [Nat.add_right_comm, runWoken, runWoken, busy, if_neg Bool.false_ne_true,
        if_neg Bool.false_ne_true]
      exact ih t.runNext

/-- Fuel with which all woken calls have run is enough. -/
theorem runWoken_eq_settle (done : (t.runWoken fuel).woken = []) : t.runWoken fuel = t.settle := by
  rcases Nat.le_total fuel t.pendingRuns with less | more
  · obtain ⟨rest, same⟩ := Nat.exists_eq_add_of_le less
    rw [settle, same, runWoken_add, runWoken_of_settled done]
  · obtain ⟨rest, same⟩ := Nat.exists_eq_add_of_le more
    rw [same, runWoken_add, ← settle, runWoken_of_settled (woken_settle t)]

theorem waiting_take {earlier later : List Call} (woken : t.woken = earlier ++ c :: later) :
    (c :: waiting { t with woken := earlier ++ later }).Perm t.waiting := by
  simp only [waiting, woken]
  rw [← List.append_assoc, ← List.append_assoc]
  exact List.perm_middle.symm

theorem length_waiting (t : Turn) : t.waiting.length = t.channel.asleep + t.woken.length := by
  simp only [waiting, List.length_append]
  rfl

/-- Those that waited have come back or wait still; and every run is paid for by a call that was
woken to begin with or by one that has come back. -/
theorem Series.paid (series : Series t calls u) (life : Life memory peak t) :
    ∃ told, u.account = t.account ++ told ∧ (cameBack told ++ u.waiting).Perm t.waiting ∧
      calls.length + u.woken.length ≤ t.woken.length + (cameBack told).length ∧
      calls ⊆ t.waiting := by
  induction series with
  | none => exact ⟨[], (List.append_nil _).symm, .refl _, by simp, List.nil_subset _⟩
  | @ran calls u before earlier c later woken ih =>
    obtain ⟨told, account, perm, paid, known⟩ := ih
    obtain ⟨-, fits, -⟩ := (life.runs before.runs).orderly.take woken
    have ran := ran_resume (t := { u with woken := earlier ++ later }) fits
    obtain ⟨more, grown, back, few⟩ := ran.passed.paid
    have split : u.woken.length = earlier.length + later.length + 1 := by
      rw [woken, List.length_append, List.length_cons, Nat.add_assoc]
    refine ⟨told ++ more, ?_, ?_, ?_, List.append_subset.mpr ⟨known, ?_⟩⟩
    · rw [grown, ← List.append_assoc, ← account]
    · rw [cameBack_append, List.append_assoc]
      exact ((back.trans (waiting_take woken)).append_left _).trans perm
    · rw [cameBack_append, List.length_append, List.length_append, List.length_singleton]
      simp only [List.length_append] at few
      omega
    · refine List.cons_subset.mpr ⟨perm.subset (List.mem_append_right _ ?_), List.nil_subset _⟩
      exact (waiting_take woken).subset List.mem_cons_self

/-! ## Operations -/

theorem cameBack_of_apart (apart : ∀ n ∈ told, n.call? = none) : cameBack told = [] := by
  rw [cameBack, List.map_eq_nil_iff, endings, List.filterMap_eq_nil_iff]
  intro n member
  have none := apart n member
  cases n <;> first | rfl | cases none

/-- What an operation itself lets come back, and whom it wakes. -/
structure Opening (op : Operation) (t u : Turn) (outcome : Outcome) (told : List Notice) : Prop where
  account : u.account = t.account ++ told
  calls : (cameBack told ++ u.waiting).Perm (op.came outcome ++ t.waiting)
  few : u.woken.length ≤ op.wakesAtOnce t.channel + (cameBack told).length
  same : u.woken = [] ∨ u.waiting.Perm t.waiting

theorem opening_apply (memory : Memory) (op : Operation) (settled : t.woken = []) :
    ∃ told, Opening op t (op.apply memory t).1 (op.apply memory t).2 told := by
  cases called : op.call? with
  | none =>
    have came (outcome : Outcome) : op.came outcome = [] := by
      rw [Operation.came, called]
      exact ite_self _
    by_cases quiet : ∀ slot, op ≠ .interrupt slot
    · obtain ⟨same, told, account, apart⟩ := apart_apply memory t called quiet
      have none : (op.apply memory t).1.woken = [] := same.woken.trans settled
      refine ⟨told, account, ?_, ?_, .inl none⟩
      · rw [cameBack_of_apart apart, same.waiting, came]
      · rw [none]
        exact Nat.zero_le _
    · obtain ⟨slot, rfl⟩ : ∃ slot, op = .interrupt slot := by simpa using quiet
      obtain ⟨wakers, account⟩ := account_interrupt t slot
      have perm := waiting_interrupt t slot
      refine ⟨_, account, ?_, ?_, .inr perm⟩
      · rw [cameBack_of_apart (call?_woke wakers), came]
        exact perm
      · have woken : (t.interrupt slot).woken = t.channel.queued :=
          woken_interrupt_of_settled settled slot
        refine Nat.le_add_right_of_le (Nat.le_of_eq ?_)
        simp only [Operation.apply, woken, Channel.queued, List.length_append]
        rfl
  | some c =>
    rcases passed_apply memory t called with refused | ⟨taken, passed⟩
    · rw [refused]
      exact ⟨[], (List.append_nil _).symm, .refl _, by simp [settled], .inl settled⟩
    · have came : op.came (op.apply memory t).2 = [c] := by
        rw [Operation.came, called, if_neg taken]
        rfl
      obtain ⟨told, account, back, few⟩ := passed.paid
      rw [settled, List.length_nil, Nat.zero_add] at few
      refine ⟨told, account, came ▸ back, Nat.le_add_left_of_le few, ?_⟩
      cases passed with
      | slept account waiting woken => exact .inl (woken.trans settled)
      | ended result wakers account waiting few => exact .inr waiting

/-- A call that comes is none of those that wait. -/
theorem nodup_came (life : Life memory peak t) (settled : t.woken = []) (fresh : op.Fresh t.channel)
    (outcome : Outcome) : ((op.came outcome ++ t.waiting).map (·.ticket)).Nodup := by
  have distinct := life.orderly.distinct
  rw [Operation.came]
  split
  · exact distinct
  · cases called : op.call? with
    | none => exact distinct
    | some c =>
      refine List.nodup_cons.mpr ⟨fun listed => ?_, distinct⟩
      obtain ⟨w, waits, same⟩ := List.mem_map.mp listed
      rcases mem_waiting.mp waits with ⟨d, asleep⟩ | woken
      · exact fresh c called d w asleep same
      · rw [settled] at woken
        contradiction

/-- An operation wakes somebody only as an interrupt or by moving bytes, and by these one sleeping
call at most. -/
inductive Started (t : Turn) (op : Operation) : Turn × Outcome → Prop where
  | hushed {u : Turn} {outcome : Outcome} (hushed : Hushed t u) : Started t op (u, outcome)
  | moved {u : Turn} (c : Call) (called : op.call? = some c) (moved : Transferred)
    (some : moved.size ≠ 0) (few : u.woken.length ≤ 1) : Started t op (u, .transferred moved)
  | signalled {u : Turn} {outcome : Outcome} (slot : Slot) (made : op = .interrupt slot)
    (all : u.woken.length = t.channel.asleep) : Started t op (u, outcome)

theorem started_apply (life : Life memory peak t) (settled : t.woken = []) :
    Started t op (op.apply memory t) := by
  have stirred := stirred_apply memory t op
  generalize op.apply memory t = result at stirred
  cases stirred with
  | idle idle answer =>
    obtain ⟨told, notified, -⟩ := idle.notified
    exact .hushed (notified.hushed idle.woken)
  | vain c called n own woken notified none answer => exact .hushed (notified.hushed woken)
  | registered slot w made => exact .hushed (hushed_poll t w)
  | moved c called fits ready =>
    refine .moved c called _ (Channel.size_serve life.inside fits.nontrivial ready) ?_
    rw [woken_transfer, settled, List.nil_append]
    exact List.length_take_le 1 _
  | signalled slot made =>
    refine .signalled slot made ?_
    rw [woken_interrupt_of_settled settled, Channel.queued, List.length_append]
    rfl

/-- What runs after an operation has been asleep before it, and runs are few: a call that is still
woken stands for two of them. -/
theorem Series.few (series : Series u calls v) (life : Life memory peak u)
    (opening : Opening op t u outcome told) (settled : t.woken = []) :
    calls ⊆ t.waiting ∧ calls.length + 2 * v.woken.length ≤ 2 * t.channel.asleep := by
  rcases opening.same with none | perm
  · obtain ⟨rfl, rfl⟩ := series.of_settled none
    simp [none]
  · obtain ⟨more, -, back, paid, known⟩ := series.paid life
    refine ⟨List.Subset.trans known perm.subset, ?_⟩
    have total := back.length_eq
    have before := perm.length_eq
    rw [length_waiting t, settled, List.length_nil] at before
    rw [List.length_append, length_waiting v] at total
    have all := length_waiting u
    omega

end Turn

/-- Wake-ups die out. An operation on a settled channel wakes somebody only as an interrupt or by
moving bytes. Whatever woken call runs next, in any order, falls asleep again and wakes nobody, or
comes back with bytes moved or interrupted and wakes at most one sleeping call. No call comes back
twice, and every run beyond what an interrupt wakes at one go is paid for by a call that has come
back, that of the operation included. So sleeping calls run at most twice as often as there were of
them, and settling is done after as many runs. -/
theorem wake_ups_die_out {memory : Memory} {peak : Nat} {op : Operation} {t u : Turn}
    {outcome : Outcome} (life : Life memory peak t) (settled : t.woken = [])
    (fresh : op.Fresh t.channel) (applied : op.apply memory t = (u, outcome)) :
    Turn.Started t op (u, outcome) ∧
    (∀ calls v, u.Series calls v →
      (∀ earlier c later, v.woken = earlier ++ c :: later →
        Turn.Turned { v with woken := earlier ++ later } c
          (Turn.resume { v with woken := earlier ++ later } c)) ∧
      (∃ told, v.account = t.account ++ told ∧ ((cameBack told).map (·.ticket)).Nodup ∧
        calls.length + v.woken.length ≤ op.wakesAtOnce t.channel + (cameBack told).length) ∧
      (∀ c ∈ calls, ∃ d, c ∈ t.channel.sleepers d) ∧
      calls.length + 2 * v.woken.length ≤ 2 * t.channel.asleep) ∧
    ∀ fuel, 2 * t.channel.asleep ≤ fuel → u.runWoken fuel = u.settle ∧ u.settle.woken = [] := by
  have started : Turn.Started t op (op.apply memory t) := Turn.started_apply life settled
  have alive := life.operated op settled fresh
  obtain ⟨told, opening⟩ := Turn.opening_apply memory op settled
  simp only [applied] at started alive opening
  refine ⟨started, fun calls v series => ⟨fun earlier c later woken => ?_, ?_, fun c ran => ?_, ?_⟩,
    fun fuel enough => ⟨?_, u.woken_settle⟩⟩
  · have here := alive.runs series.runs
    obtain ⟨-, fits, -⟩ := here.orderly.take woken
    exact (Turn.ran_resume (t := { v with woken := earlier ++ later }) fits).turned here.inside
  · obtain ⟨more, grown, back, paid, -⟩ := series.paid alive
    have few := opening.few
    refine ⟨told ++ more, by rw [grown, opening.account, List.append_assoc], ?_, ?_⟩
    · have all := (back.append_left (cameBack told)).trans opening.calls
      have distinct := (all.map (·.ticket)).nodup_iff.mpr
        (Turn.nodup_came life settled fresh outcome)
      rw [← List.append_assoc, ← cameBack_append, List.map_append] at distinct
      exact (List.nodup_append.mp distinct).1
    · rw [cameBack_append, List.length_append]
      omega
  · rcases Turn.mem_waiting.mp ((series.few alive opening settled).1 ran) with asleep | woken
    · exact asleep
    · rw [settled] at woken
      contradiction
  · exact (series.few alive opening settled).2
  · obtain ⟨calls, series, stops⟩ := Turn.series_runWoken fuel u
    refine Turn.runWoken_eq_settle (stops.elim id fun all => ?_)
    have few := (series.few alive opening settled).2
    exact List.length_eq_zero_iff.mp (by omega)

/-- Two readers of one session sleep when it is interrupted: after four runs at most, and in fact
two, one of them sleeps again and the other has come back. -/
theorem wake_ups_die_out_two_readers :
    ∃ t u, Life ⟨16, by decide⟩ 1 t ∧ t.woken = [] ∧ (Operation.interrupt 0).Fresh t.channel ∧
      (Operation.interrupt 0).apply ⟨16, by decide⟩ t = (u, .done) ∧ t.channel.asleep = 2 ∧
      u.woken.length = 2 ∧
      (∀ calls v, u.Series calls v → calls.length + 2 * v.woken.length ≤ 4) ∧
      u.runWoken 4 = u.settle ∧ u.settle.channel.asleep = 1 ∧
      cameBack u.settle.account = [⟨0, 0, .read 4⟩] := by
  have created := @Life.created ⟨16, by decide⟩ "pipe" 4 (by decide)
  have opened := created.operated (.openSession .readOnly false) rfl
    (.of_idle _ fun d => by cases d <;> rfl)
  have first := opened.operated (.call ⟨0, 0, .read 4⟩) rfl (.of_idle _ fun d => by cases d <;> rfl)
  have life := first.operated (.call ⟨1, 0, .read 4⟩) rfl
    (fun c called d s asleep => by cases called; cases d <;> revert s <;> decide)
  have fresh (ch : Channel) : (Operation.interrupt 0).Fresh ch := fun c called => by cases called
  obtain ⟨-, series, settles⟩ := wake_ups_die_out life rfl (fresh _) rfl
  exact ⟨_, _, life, rfl, fresh _, rfl, rfl, rfl, fun calls v ran => (series calls v ran).2.2.2,
    (settles 4 (Nat.le_refl _)).1, rfl, rfl⟩

end BytePipe
