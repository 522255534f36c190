import BytePipe.Proofs.Channel.Disturbance

/-!
Who is woken by what. A transfer notifies the observers of the other queue, an interrupt those of
both, and a call that passes its wake-up on those of its own queue (`Turn.Notified`); nothing else
notifies anybody (`Turn.Stirred`, `Turn.resume_cases`). To be notified is to be woken once and to be
registered no longer.
-/
namespace BytePipe

/-- The wakers that have been woken, the earliest first. -/
def wakings (account : List Notice) : List Waker :=
  account.filterMap fun
    | .woke w => some w
    | _ => none

theorem wakings_append (account notices : List Notice) :
    wakings (account ++ notices) = wakings account ++ wakings notices :=
  List.filterMap_append

theorem wakings_woke (wakers : List Waker) : wakings (wakers.map .woke) = wakers := by
  rw [wakings, List.filterMap_map]
  exact List.filterMap_some

theorem timesWoken_eq_count (w : Waker) (account : List Notice) :
    timesWoken w account = (wakings account).count w := by
  induction account with
  | nil => rfl
  | cons n account ih =>
    rw [← List.singleton_append, timesWoken_append, wakings_append, List.count_append, ih]
    cases n with
    | woke v => exact congrArg (· + _) (timesWoken_woke w [v])
    | _ => rfl

/-- The wakers registered on the queue of a direction. -/
abbrev Channel.observers (ch : Channel) (d : Direction) : List Waker :=
  (ch.queue d).observers

namespace Turn

variable {memory : Memory} {op : Operation} {t u v : Turn} {c : Call} {d : Direction}
  {sides others : List Direction} {told more : List Notice}

/-- The observers of some queues have been woken, each once for each of these queues, and are
registered there no longer; nobody else has been woken, and the other observers are where they
were. -/
structure Notified (t u : Turn) (sides : List Direction) (told : List Notice) : Prop where
  observers : ∀ d, u.channel.observers d = if d ∈ sides then [] else t.channel.observers d
  account : u.account = t.account ++ told
  woken : wakings told = sides.flatMap t.channel.observers

namespace Notified

theorem nobody (observers : ∀ d, u.channel.observers d = t.channel.observers d)
    (account : u.account = t.account ++ told) (none : wakings told = []) :
    Notified t u [] told where
  observers d := by rw [observers d, if_neg List.not_mem_nil]
  account := account
  woken := none

theorem of_eq (observers : ∀ d, u.channel.observers d = t.channel.observers d)
    (account : u.account = t.account) : Notified t u [] [] :=
  .nobody observers (account.trans (List.append_nil _).symm) rfl

/-- One after the other, different queues. -/
theorem trans (first : Notified t u sides told) (second : Notified u v others more)
    (apart : ∀ d ∈ others, d ∉ sides) : Notified t v (sides ++ others) (told ++ more) where
  observers d := by
    rw [second.observers d, first.observers d]
    by_cases late : d ∈ others <;> by_cases early : d ∈ sides <;> simp [late, early]
  account := by rw [second.account, first.account, List.append_assoc]
  woken := by
    have same : others.flatMap u.channel.observers = others.flatMap t.channel.observers := by
      rw [List.flatMap_def, List.flatMap_def, List.map_congr_left fun d late => by
        rw [first.observers d, if_neg (apart d late)]]
    rw [wakings_append, first.woken, second.woken, same, List.flatMap_append]

theorem wakeOne (t : Turn) (d : Direction) :
    Notified t (t.wakeOne d) [d] ((t.channel.observers d).map .woke) where
  observers e := by
    simp only [Turn.wakeOne, List.mem_singleton]
    cases d <;> cases e <;> rfl
  account := rfl
  woken := by simp [wakings_woke]

theorem wakeAll (t : Turn) (d : Direction) :
    Notified t (t.wakeAll d) [d] ((t.channel.observers d).map .woke) where
  observers e := by
    simp only [Turn.wakeAll, List.mem_singleton]
    cases d <;> cases e <;> rfl
  account := rfl
  woken := by simp [wakings_woke]

theorem finished (t : Turn) (c : Call) (result : CallResult) :
    Notified t (t.record [.ended c result]) [] [.ended c result] :=
  .nobody (fun _ => rfl) rfl rfl

theorem cutShort (t : Turn) (c : Call) :
    Notified t (t.cutShort c) [] [.ended c (.error .interrupted)] :=
  .nobody (fun d => by cases d <;> rfl) rfl rfl

theorem passedOn (t : Turn) (c : Call) :
    Notified t ((t.cutShort c).wakeOne c.direction) [c.direction]
      (.ended c (.error .interrupted) ::
        ((t.cutShort c).channel.observers c.direction).map .woke) :=
  (cutShort t c).trans (wakeOne _ _) fun _ _ => List.not_mem_nil

theorem sleep (t : Turn) (c : Call) : Notified t (t.sleep c) [] [.slept c] := by
  refine .nobody (fun d => ?_) rfl rfl
  simp only [Turn.sleep, channel_record, channel_mapChannel, Channel.observers]
  cases c.direction <;> cases d <;> rfl

theorem transfer (t : Turn) (c : Call) :
    ∃ wakers : List Waker, Notified t (t.transfer c).1 [c.direction.opposite]
      (.ended c (.ok (t.channel.ring.serve c.request).1) :: wakers.map .woke) := by
  have served : Notified t (t.served c) [] [.ended c (.ok (t.channel.ring.serve c.request).1)] :=
    .nobody (fun d => by cases d <;> rfl) rfl rfl
  have moving := served.trans (wakeOne _ c.direction.opposite) fun _ _ => List.not_mem_nil
  have published : Notified (t.moving c) (t.transfer c).1 [] [] := by
    refine .of_eq (fun d => ?_) (alike_transfer t c).account
    obtain ⟨ticket, slot, request⟩ := c
    cases request <;> cases d <;> rfl
  have both := moving.trans published fun _ none => absurd none List.not_mem_nil
  rw [List.append_nil, List.append_nil] at both
  exact ⟨_, both⟩

theorem interrupt (t : Turn) (slot : Slot) :
    ∃ wakers : List Waker,
      Notified t (t.interrupt slot) [.reading, .writing] (wakers.map .woke) := by
  have raised : Notified t (t.mapChannel (·.setSignal slot true)) [] [] :=
    .of_eq (fun d => by cases d <;> rfl) rfl
  have both := (raised.trans (wakeAll _ .reading) fun _ _ => List.not_mem_nil).trans
    (wakeAll _ .writing) (by decide)
  simp only [List.nil_append, ← List.map_append] at both
  exact ⟨_, both⟩

end Notified

/-! ## Operations -/

/-- Nobody has been woken: no further call can run, no waker is told to have been woken, and none
is missing. -/
structure Hushed (t u : Turn) : Prop where
  woken : u.woken = t.woken
  observers : ∀ d, t.channel.observers d ⊆ u.channel.observers d
  told : ∃ told, u.account = t.account ++ told ∧ wakings told = []

theorem Notified.hushed (notified : Notified t u [] told) (woken : u.woken = t.woken) :
    Hushed t u where
  woken := woken
  observers d w registered := by
    rw [notified.observers d, if_neg List.not_mem_nil]
    exact registered
  told := ⟨told, notified.account, notified.woken⟩

theorem hushed_poll (t : Turn) (w : Waker) : Hushed t (t.poll (some w)).1 where
  woken := rfl
  observers d v registered := by
    have kept := WaitQueue.mem_register_of_mem registered w
    cases d <;> exact kept
  told := ⟨[], (List.append_nil _).symm, rfl⟩

/-- Nobody has been woken, and nothing is told of any call. -/
structure Idle (t u : Turn) : Prop where
  woken : u.woken = t.woken
  notified : ∃ told, Notified t u [] told ∧ ∀ n ∈ told, n.call? = none

theorem Idle.of_eq (woken : u.woken = t.woken)
    (observers : ∀ d, u.channel.observers d = t.channel.observers d)
    (account : u.account = t.account) : Idle t u :=
  ⟨woken, [], .of_eq observers account, nofun⟩

theorem idle_openSession (memory : Memory) (t : Turn) (mode : AccessMode) (nonBlocking : Bool) :
    Idle t (t.openSession memory mode nonBlocking).1 := by
  unfold openSession
  dsimp only
  split
  · exact .of_eq rfl (fun d => by cases d <;> rfl) rfl
  · split
    · exact .of_eq rfl (fun _ => rfl) rfl
    · exact ⟨rfl, [.allocated], .nobody (fun d => by cases d <;> rfl) rfl rfl,
        by simp [Notice.call?]⟩

theorem idle_dropSession (t : Turn) (slot : Slot) : Idle t (t.dropSession slot).1 := by
  unfold dropSession letGo
  split
  · exact .of_eq rfl (fun _ => rfl) rfl
  · dsimp only
    split
    · exact .of_eq rfl (fun _ => rfl) rfl
    · unfold releaseCounts
      dsimp only
      split
      · exact ⟨rfl, [.countedOut slot, .released], .nobody (fun d => by cases d <;> rfl)
          (List.append_assoc _ _ _) rfl, by simp [Notice.call?]⟩
      · exact ⟨rfl, [.countedOut slot], .nobody (fun d => by cases d <;> rfl) rfl rfl,
          by simp [Notice.call?]⟩

/-- Whom an operation wakes. Unless it moves bytes or is an interrupt, nobody; a poll registers its
waker. -/
inductive Stirred (t : Turn) (op : Operation) : Turn × Outcome → Prop where
  | idle {u : Turn} {outcome : Outcome} (idle : Idle t u)
    (answer : ∀ moved, outcome ≠ .transferred moved) : Stirred t op (u, outcome)
  | vain {u : Turn} {outcome : Outcome} (c : Call) (called : op.call? = some c) (n : Notice)
    (own : n.call? = some c) (woken : u.woken = t.woken) (notified : Notified t u [] [n])
    (none : ∀ moved, n = .ended c (.ok moved) → moved.size = 0)
    (answer : ∀ moved, outcome = .transferred moved → moved.size = 0) : Stirred t op (u, outcome)
  | registered (slot : Slot) (w : Waker) (made : op = .poll slot (some w)) :
    Stirred t op ((t.poll (some w)).1, .ready t.channel.readiness)
  | moved (c : Call) (called : op.call? = some c) (fits : t.channel.Fits c)
    (ready : t.channel.ready c.direction = true) :
    Stirred t op ((t.transfer c).1, .transferred (t.channel.ring.serve c.request).1)
  | signalled (slot : Slot) (made : op = .interrupt slot) : Stirred t op (t.interrupt slot, .done)

theorem stirred_of_call? (memory : Memory) (t : Turn) (called : op.call? = some c) :
    Stirred t op (op.apply memory t) := by
  obtain ⟨mayBlock, same, -⟩ := apply_of_call? memory t called
  have failed (e : ChannelError) {u : Turn} (woken : u.woken = t.woken)
      (notified : Notified t u [] [.ended c (.error e)]) : Stirred t op (u, .failed e) :=
    .vain c called _ rfl woken notified (fun moved same => by cases same) nofun
  rw [same]
  have verdict := verdict_arrive t c mayBlock
  generalize t.arrive c mayBlock = result at verdict
  cases verdict with
  | refused closed => exact .idle (.of_eq rfl (fun _ => rfl) rfl) nofun
  | denied s found forbidden => exact failed _ rfl (.finished t c _)
  | answered s found permitted trivial =>
    have none : c.request.trivialAnswer.size = 0 := by cases c.request <;> rfl
    exact .vain c called _ rfl rfl (.finished t c _) (fun moved same => by cases same; exact none)
      fun moved same => by cases same; exact none
  | moved fits ready =>
    rw [progress_transfer_eq]
    exact .moved c called fits ready
  | turnedAway fits unready impatient => exact failed _ rfl (.finished t c _)
  | cutShort fits unready blocks pending => exact failed _ rfl (.cutShort t c)
  | slept fits unready blocks silent =>
    exact .vain c called _ rfl rfl (.sleep t c) (fun moved same => by cases same) nofun

theorem stirred_apply (memory : Memory) (t : Turn) (op : Operation) :
    Stirred t op (op.apply memory t) := by
  cases op with
  | call c => exact stirred_of_call? memory t rfl
  | tryCall c => exact stirred_of_call? memory t rfl
  | openSession mode nonBlocking =>
    have idle := idle_openSession memory t mode nonBlocking
    simp only [Operation.apply]
    split <;> rename_i done <;> rw [done] at idle <;> exact .idle idle (by simp)
  | closeSession slot =>
    rw [Operation.apply, closeSession_eq_dropSession]
    refine .idle (idle_dropSession t slot) fun moved => ?_
    split <;> simp
  | dropSession slot =>
    refine .idle (idle_dropSession t slot) fun moved => ?_
    split <;> simp
  | setNonBlocking slot nonBlocking =>
    exact .idle (.of_eq rfl (fun d => by cases d <;> rfl) rfl) (by simp)
  | poll slot waker =>
    simp only [Operation.apply]
    split
    · cases waker with
      | none => exact .idle (.of_eq rfl (fun _ => rfl) rfl) (by simp)
      | some w => exact .registered slot w rfl
    · exact .idle (.of_eq rfl (fun _ => rfl) rfl) (by simp)
  | interrupt slot => exact .signalled slot rfl
  | subscribe => exact .idle (.of_eq rfl (fun d => by cases d <;> rfl) rfl) (by simp)
  | unsubscribe feed => exact .idle (.of_eq rfl (fun d => by cases d <;> rfl) rfl) (by simp)
  | receive feed =>
    refine .idle ?_ (by simp)
    split <;> exact .of_eq rfl (fun d => by cases d <;> rfl) rfl

/-! ## Woken calls -/

/-- What a woken call does when it runs, with an open session or without. -/
theorem resume_cases (t : Turn) (c : Call) :
    t.resume c = t.sleep c ∨ t.resume c = t.cutShort c ∨
      t.resume c = (t.cutShort c).wakeOne c.direction ∨ t.resume c = (t.transfer c).1 := by
  cases signal : t.channel.hasSignal c.slot with
  | true =>
    rw [resume_of_signal signal]
    split
    · exact .inr (.inr (.inl rfl))
    · exact .inr (.inl rfl)
  | false =>
    rw [resume, signal, if_neg Bool.false_ne_true]
    split
    · exact .inr (.inr (.inr rfl))
    · exact .inl rfl

end Turn

end BytePipe
