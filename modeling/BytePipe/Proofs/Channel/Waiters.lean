import BytePipe.Proofs.Channel.Replies
import BytePipe.Proofs.Channel.Subside

/-!
Calls that wait on a channel, and how a status counts them. A call counts itself in each time before
it sleeps and out each time it is woken, on a counter for its direction (`Tally`); at any moment the
counters tell how many calls are asleep or woken and have not run, so none is ever counted out of
nothing (`Turn.Metered.tally_eq`).

What an operation and the runs that follow it, in any order, make of the waiting calls is told of
each (`Life.waited`): a call that has waited or come waits afterwards if and only if it has not come
back. While a call waits, the storage neither comes nor goes (`Life.storage_untold`).
-/
namespace BytePipe

/-! ## Counters -/

/-- How many calls of each direction have counted themselves in and not out. -/
abbrev Tally := Direction → Nat

namespace Tally

def enter (n : Tally) (d : Direction) : Tally :=
  fun e => if e = d then n e + 1 else n e

/-- Nobody can be counted out of nothing. -/
def leave? (n : Tally) (d : Direction) : Option Tally :=
  if n d = 0 then none else some fun e => if e = d then n e - 1 else n e

/-- A call that goes to sleep counts itself in. -/
def after (n : Tally) : Notice → Tally
  | .slept c => n.enter c.direction
  | _ => n

def hear (n : Tally) (told : List Notice) : Tally :=
  told.foldl after n

/-- The waiting calls of each direction. -/
def of (waits : List Call) : Tally :=
  fun d => waits.countP (·.direction = d)

theorem of_perm {waits others : List Call} (perm : waits.Perm others) : of waits = of others :=
  funext fun _ => perm.countP_eq _

theorem of_cons (c : Call) (waits : List Call) : of (c :: waits) = (of waits).enter c.direction := by
  funext d
  by_cases own : d = c.direction
  · simp [of, enter, own]
  · simp [of, enter, own, Ne.symm own]

/-- A call that is counted can be counted out. -/
theorem leave?_of_cons (c : Call) (waits : List Call) :
    (of (c :: waits)).leave? c.direction = some (of waits) := by
  have some : (of waits).enter c.direction c.direction ≠ 0 := by simp [enter]
  rw [of_cons, leave?, if_neg some]
  refine congrArg Option.some (funext fun d => ?_)
  by_cases own : d = c.direction <;> simp [enter, own]

end Tally

/-- The calls that have gone to sleep, for the first time or again, the earliest first. -/
def dozed (account : List Notice) : List Call :=
  account.filterMap fun
    | .slept c => some c
    | _ => none

theorem hear_of (waits : List Call) (told : List Notice) :
    (Tally.of waits).hear told = .of (dozed told ++ waits) := by
  induction told generalizing waits with
  | nil => rfl
  | cons n told ih =>
    cases n with
    | slept c =>
      have entered : (Tally.of waits).after (.slept c) = .of (c :: waits) :=
        (Tally.of_cons c waits).symm
      rw [Tally.hear, List.foldl_cons, entered]
      exact (ih (c :: waits)).trans (Tally.of_perm List.perm_middle)
    | _ => exact ih waits

theorem dozed_append (account notices : List Notice) :
    dozed (account ++ notices) = dozed account ++ dozed notices :=
  List.filterMap_append

theorem dozed_of_apart {told : List Notice} (apart : ∀ n ∈ told, n.call? = none) :
    dozed told = [] := by
  rw [dozed, List.filterMap_eq_nil_iff]
  intro n member
  have none := apart n member
  cases n <;> first | rfl | cases none

theorem dozed_ended (c : Call) (result : CallResult) (wakers : List Waker) :
    dozed (.ended c result :: wakers.map .woke) = [] := by
  rw [← List.singleton_append, dozed_append, dozed_of_apart (call?_woke wakers)]
  rfl

namespace Turn

variable {memory : Memory} {peak : Nat} {op : Operation} {t u v : Turn} {c w : Call}
  {told : List Notice}

/-- What has been told since a moment. -/
def news (t u : Turn) : List Notice :=
  u.account.drop t.account.length

theorem news_eq (account : u.account = t.account ++ told) : news t u = told := by
  rw [news, account, List.drop_left]

/-- A life with the counters of its channel: a woken call counts itself out first when it runs. -/
inductive Metered (memory : Memory) : Turn → Option Tally → Prop where
  | created (name : String) (capacity : Nat) (positive : 0 < capacity) :
    Metered memory (.start (.named name capacity)) (some fun _ => 0)
  | operated {t : Turn} {n : Option Tally} (op : Operation) (before : Metered memory t n)
    (settled : t.woken = []) (fresh : op.Fresh t.channel) :
    Metered memory (op.apply memory t).1 (n.map (·.hear (t.news (op.apply memory t).1)))
  | ran {t : Turn} {n : Option Tally} (earlier : List Call) (c : Call) (later : List Call)
    (before : Metered memory t n) (woken : t.woken = earlier ++ c :: later) :
    Metered memory (resume { t with woken := earlier ++ later } c)
      ((n.bind (·.leave? c.direction)).map
        (·.hear (t.news (resume { t with woken := earlier ++ later } c))))

theorem Metered.life {n : Option Tally} (metered : Metered memory t n) :
    ∃ peak, Life memory peak t := by
  induction metered with
  | created name capacity positive => exact ⟨0, .created name capacity positive⟩
  | operated op before settled fresh ih =>
    obtain ⟨peak, life⟩ := ih
    exact ⟨_, life.operated op settled fresh⟩
  | ran earlier c later before woken ih =>
    obtain ⟨peak, life⟩ := ih
    exact ⟨peak, life.ran earlier c later woken⟩

/-- The calls that wait after a call has run or come are those that waited beside it, and the call
itself if it is told to sleep. -/
theorem Passed.dozed (passed : Passed t c u) :
    ∃ told, u.account = t.account ++ told ∧ u.waiting.Perm (dozed told ++ t.waiting) := by
  cases passed with
  | slept account waiting woken => exact ⟨_, account, waiting⟩
  | ended result wakers account waiting few =>
    refine ⟨_, account, ?_⟩
    rw [dozed_ended]
    exact waiting

theorem dozed_apply (memory : Memory) (t : Turn) (op : Operation) :
    ∃ told, (op.apply memory t).1.account = t.account ++ told ∧
      (op.apply memory t).1.waiting.Perm (dozed told ++ t.waiting) := by
  cases called : op.call? with
  | none =>
    by_cases quiet : ∀ slot, op ≠ .interrupt slot
    · obtain ⟨same, told, account, apart⟩ := apart_apply memory t called quiet
      refine ⟨told, account, ?_⟩
      rw [dozed_of_apart apart, same.waiting]
      exact .refl _
    · obtain ⟨slot, rfl⟩ : ∃ slot, op = .interrupt slot := by simpa using quiet
      obtain ⟨wakers, account⟩ := account_interrupt t slot
      refine ⟨_, account, ?_⟩
      rw [dozed_of_apart (call?_woke wakers)]
      exact waiting_interrupt t slot
  | some c =>
    rcases passed_apply memory t called with refused | ⟨-, passed⟩
    · rw [refused]
      exact ⟨[], (List.append_nil _).symm, .refl _⟩
    · exact passed.dozed

/-- The counters are always there, and tell how many calls of each direction wait. -/
theorem Metered.tally_eq {n : Option Tally} (metered : Metered memory t n) :
    n = some (.of t.waiting) := by
  induction metered with
  | created name capacity positive => rfl
  | @operated t n op before settled fresh ih =>
    obtain ⟨told, account, waits⟩ := dozed_apply memory t op
    rw [ih, Option.map_some, news_eq account, hear_of, Tally.of_perm waits]
  | @ran t n earlier c later before woken ih =>
    obtain ⟨peak, life⟩ := before.life
    obtain ⟨-, fits, -⟩ := life.orderly.take woken
    obtain ⟨told, account, waits⟩ :=
      (ran_resume (t := { t with woken := earlier ++ later }) fits).passed.dozed
    have news := news_eq (t := t) account
    rw [ih, Option.bind_some, ← Tally.of_perm (waiting_take woken), Tally.leave?_of_cons,
      Option.map_some, news, hear_of, Tally.of_perm waits]

end Turn

theorem Life.metered {memory : Memory} {peak : Nat} {t : Turn} (life : Life memory peak t) :
    Turn.Metered memory t (some (.of t.waiting)) := by
  have counters : ∃ n, Turn.Metered memory t n := by
    induction life with
    | created name capacity positive => exact ⟨_, .created name capacity positive⟩
    | operated op before settled fresh ih =>
      obtain ⟨n, metered⟩ := ih
      exact ⟨_, metered.operated op settled fresh⟩
    | ran earlier c later before woken ih =>
      obtain ⟨n, metered⟩ := ih
      exact ⟨_, metered.ran earlier c later woken⟩
  obtain ⟨n, metered⟩ := counters
  exact metered.tally_eq ▸ metered

theorem mem_dozed {c : Call} {account : List Notice} : c ∈ dozed account ↔ .slept c ∈ account := by
  rw [dozed, List.mem_filterMap]
  constructor
  · rintro ⟨n, listed, slept⟩
    cases n <;> cases slept
    exact listed
  · intro listed
    exact ⟨_, listed, rfl⟩

/-- Whoever waits has been asleep. -/
theorem Life.slept {memory : Memory} {peak : Nat} {t : Turn} {w : Call} (life : Life memory peak t)
    (waits : w ∈ t.waiting) : .slept w ∈ t.account := by
  induction life with
  | created name capacity positive => contradiction
  | @operated peak t op before settled fresh ih =>
    obtain ⟨told, account, waiting⟩ := Turn.dozed_apply memory t op
    rw [account]
    rcases List.mem_append.mp (waiting.subset waits) with dozing | waited
    · exact List.mem_append_right _ (mem_dozed.mp dozing)
    · exact List.mem_append_left _ (ih waited)
  | @ran peak t earlier c later before woken ih =>
    obtain ⟨-, fits, -⟩ := before.orderly.take woken
    obtain ⟨told, account, waiting⟩ :=
      (Turn.ran_resume (t := { t with woken := earlier ++ later }) fits).passed.dozed
    rw [account]
    rcases List.mem_append.mp (waiting.subset waits) with dozing | waited
    · exact List.mem_append_right _ (mem_dozed.mp dozing)
    · exact List.mem_append_left _
        (ih ((Turn.waiting_take woken).subset (List.mem_cons_of_mem c waited)))

/-! ## What is told of the waiting calls -/

/-- The storage comes or goes. -/
def Notice.isStorage : Notice → Bool
  | .allocated => true
  | .released => true
  | _ => false

theorem isStorage_of_call? {n : Notice} {c : Call} (called : n.call? = some c) :
    n.isStorage = false := by
  cases n <;> first | rfl | cases called

theorem isStorage_woke (wakers : List Waker) :
    ∀ n ∈ wakers.map Notice.woke, n.isStorage = false := by
  intro n told
  obtain ⟨w, -, rfl⟩ := List.mem_map.mp told
  rfl

namespace Turn

variable {memory : Memory} {peak : Nat} {op : Operation} {outcome : Outcome} {t u v : Turn}
  {c w : Call} {told : List Notice}

theorem Runs.series (runs : Runs t u) : ∃ calls, Series t calls u := by
  induction runs with
  | none => exact ⟨[], .none⟩
  | ran before earlier c later woken ih =>
    obtain ⟨calls, series⟩ := ih
    exact ⟨_, series.ran earlier c later woken⟩

/-- While woken calls run, nothing is told of the storage, nor of calls that have not waited. -/
theorem Series.tells {calls : List Call} (series : Series t calls u) (life : Life memory peak t) :
    ∃ told, u.account = t.account ++ told ∧
      ∀ n ∈ told, n.isStorage = false ∧ ∀ w, n.call? = some w → w ∈ t.waiting := by
  induction series with
  | none => exact ⟨[], (List.append_nil _).symm, nofun⟩
  | @ran calls u before earlier c later woken ih =>
    obtain ⟨told, account, known⟩ := ih
    obtain ⟨-, -, -, -, waited⟩ := (before.ran earlier c later woken).paid life
    obtain ⟨-, fits, -⟩ := (life.runs before.runs).orderly.take woken
    have ran := ran_resume (t := { u with woken := earlier ++ later }) fits
    obtain ⟨first, own, wakers, grown⟩ := ran.told
    refine ⟨told ++ first :: wakers.map .woke, ?_, fun n member => ?_⟩
    · rw [grown, ← List.append_assoc, ← account]
    · rcases List.mem_append.mp member with before | now
      · exact known n before
      · rcases List.mem_cons.mp now with rfl | woke
        · refine ⟨isStorage_of_call? own, fun w called => ?_⟩
          obtain rfl := Option.some.inj (own.symm.trans called)
          exact waited (List.mem_append_right _ (List.mem_singleton_self c))
        · refine ⟨isStorage_woke wakers n woke, fun w called => ?_⟩
          rw [call?_woke wakers n woke] at called
          contradiction

/-- What an operation itself tells of the storage and of calls. -/
structure Announced (op : Operation) (t u : Turn) (told : List Notice) : Prop where
  account : u.account = t.account ++ told
  calls : ∀ n ∈ told, ∀ w, n.call? = some w → op.call? = some w
  allocated : .allocated ∈ told → t.channel.ring.isAllocated = false ∧ op.call? = none
  released : .released ∈ told → u.channel.ring.isAllocated = false ∧ u.woken = t.woken

theorem Announced.nothing (account : u.account = t.account) : Announced op t u [] :=
  ⟨account.trans (List.append_nil _).symm, nofun, nofun, nofun⟩

/-- A single call is told of, and wakers. -/
theorem Announced.one {n : Notice} (called : op.call? = some c) (own : n.call? = some c)
    (wakers : List Waker) (account : u.account = t.account ++ n :: wakers.map .woke) :
    Announced op t u (n :: wakers.map .woke) := by
  have none (m : Notice) (storage : m.isStorage = true) : m ∉ n :: wakers.map .woke := by
    intro told
    rcases List.mem_cons.mp told with rfl | woke
    · rw [isStorage_of_call? own] at storage
      contradiction
    · rw [isStorage_woke wakers m woke] at storage
      contradiction
  refine ⟨account, fun m told w same => ?_, fun told => absurd told (none _ rfl),
    fun told => absurd told (none _ rfl)⟩
  rcases List.mem_cons.mp told with rfl | woke
  · exact called.trans (own.symm.trans same)
  · rw [call?_woke wakers m woke] at same
    contradiction

theorem announced_apply (memory : Memory) (t : Turn) (op : Operation) :
    ∃ told, Announced op t (op.apply memory t).1 told := by
  have applied := applied_apply memory t op
  generalize (op.apply memory t).1 = u at applied
  cases applied with
  | alike alike => exact ⟨_, .nothing alike.account⟩
  | joined mode nonBlocking opens allocated => exact ⟨_, .nothing rfl⟩
  | allocated mode nonBlocking ring opens unallocated granted =>
    exact ⟨[.allocated], rfl, by simp [Notice.call?], fun _ => ⟨unallocated, by rw [opens]; rfl⟩,
      by simp⟩
  | ended slot s found idle =>
    unfold releaseCounts
    dsimp only
    split
    · exact ⟨[.countedOut slot, .released], List.append_assoc _ _ _, by simp [Notice.call?],
        by simp, fun _ => ⟨rfl, rfl⟩⟩
    · exact ⟨[.countedOut slot], rfl, by simp [Notice.call?], by simp, by simp⟩
  | arrived c called arrived =>
    cases arrived with
    | refused => exact ⟨_, .nothing rfl⟩
    | failed e => exact ⟨_, .one called rfl [] rfl⟩
    | answered trivial => exact ⟨_, .one called rfl [] rfl⟩
    | ran ran =>
      obtain ⟨n, own, wakers, account⟩ := ran.told
      exact ⟨_, .one called own wakers account⟩
  | signalled slot made =>
    obtain ⟨wakers, account⟩ := account_interrupt t slot
    have none (m : Notice) (storage : m.isStorage = true) : m ∉ wakers.map .woke := fun told => by
      rw [isStorage_woke wakers m told] at storage
      contradiction
    refine ⟨_, account, fun m told w called => ?_, fun told => absurd told (none _ rfl),
      fun told => absurd told (none _ rfl)⟩
    rw [call?_woke wakers m told] at called
    contradiction

/-- What an operation on a settled channel and the runs that follow it come to: of the calls that
waited and the one that came, those wait afterwards that have not come back. -/
structure Waited (op : Operation) (outcome : Outcome) (t v : Turn) (told : List Notice) : Prop where
  account : v.account = t.account ++ told
  calls : (cameBack told ++ v.waiting).Perm (op.came outcome ++ t.waiting)
  blocking : ∀ w ∈ v.waiting, w ∈ t.waiting ∨ op = .call w
  known : ∀ n ∈ told, ∀ w, n.call? = some w → op.call? = some w ∨ w ∈ t.waiting
  stored : ∀ w ∈ v.waiting, (w ∈ t.waiting → t.channel.ring.isAllocated = true) →
    v.channel.ring.isAllocated = true → ∀ n ∈ told, n.isStorage = false

end Turn

open Turn in
theorem Life.waited {memory : Memory} {peak : Nat} {op : Operation} {t v : Turn}
    (life : Life memory peak t) (settled : t.woken = []) (fresh : op.Fresh t.channel)
    (runs : (op.apply memory t).1.Runs v) :
    ∃ told, Waited op (op.apply memory t).2 t v told := by
  have alive := life.operated op settled fresh
  obtain ⟨first, opening⟩ := opening_apply memory op settled
  obtain ⟨same, announced⟩ := announced_apply memory t op
  obtain rfl : same = first := List.append_cancel_left (announced.account.symm.trans opening.account)
  obtain ⟨calls, series⟩ := runs.series
  obtain ⟨more, grown, back, -⟩ := series.paid alive
  obtain ⟨also, again, known⟩ := series.tells alive
  obtain rfl : more = also := List.append_cancel_left (grown.symm.trans again)
  have stays {w : Call} (waits : w ∈ v.waiting) : w ∈ (op.apply memory t).1.waiting :=
    back.subset (List.mem_append_right _ waits)
  have blocking {w : Call} (waits : w ∈ v.waiting) : w ∈ t.waiting ∨ op = .call w :=
    mem_waiting_apply (stays waits)
  refine ⟨same ++ more, ?_, ?_, fun w waits => blocking waits, fun n member w called => ?_,
    fun w waits stored after n member => ?_⟩
  · rw [grown, opening.account, List.append_assoc]
  · rw [cameBack_append, List.append_assoc]
    exact (back.append_left _).trans opening.calls
  · rcases List.mem_append.mp member with before | now
    · exact .inl (announced.calls n before w called)
    · rcases mem_waiting_apply ((known n now).2 w called) with waited | rfl
      · exact .inr waited
      · exact .inl rfl
  · rcases List.mem_append.mp member with before | now
    · cases n with
      | allocated =>
        obtain ⟨unallocated, silent⟩ := announced.allocated before
        rcases blocking waits with waited | rfl
        · rw [stored waited] at unallocated
          contradiction
        · cases silent
      | released =>
        obtain ⟨unallocated, woken⟩ := announced.released before
        obtain ⟨-, rfl⟩ := series.of_settled (woken.trans settled)
        rw [after] at unallocated
        contradiction
      | _ => rfl
    · exact (known n now).1

end BytePipe
