import BytePipe.Proofs.Channel.Life

/-!
Accounts only grow, and nothing depends on what they already tell: a turn that goes on with an
earlier account does the same as one that starts afresh. So the operations of `Channel.perform`, one
after the other, make up a life whose account is theirs put together.
-/
namespace BytePipe

namespace Turn

/-- The same turn, going on with an earlier account. -/
def following (t : Turn) (earlier : List Notice) : Turn :=
  { t with account := earlier ++ t.account }

variable (t : Turn) (earlier : List Notice)

theorem following_mapChannel (f : Channel → Channel) :
    (t.following earlier).mapChannel f = (t.mapChannel f).following earlier := rfl

theorem following_record (notices : List Notice) :
    (t.following earlier).record notices = (t.record notices).following earlier := by
  simp only [following, record, List.append_assoc]

theorem following_wakeOne (d : Direction) :
    (t.following earlier).wakeOne d = (t.wakeOne d).following earlier := by
  simp only [following, wakeOne, List.append_assoc]

theorem following_wakeAll (d : Direction) :
    (t.following earlier).wakeAll d = (t.wakeAll d).following earlier := by
  simp only [following, wakeAll, List.append_assoc]

theorem following_sleep (c : Call) :
    (t.following earlier).sleep c = (t.sleep c).following earlier := by
  simp only [sleep, following_mapChannel, following_record]

theorem following_transfer (c : Call) :
    (t.following earlier).transfer c
      = ((t.transfer c).1.following earlier, (t.transfer c).2) := by
  obtain ⟨ticket, slot, request⟩ := c
  cases request with
  | read length =>
    simp only [transfer, finish, following_mapChannel, following_record, following_wakeOne]
    rfl
  | write data =>
    simp only [transfer, finish, following_mapChannel, following_record, following_wakeOne]
    rfl

theorem following_arrive (c : Call) (mayBlock : Bool) :
    (t.following earlier).arrive c mayBlock
      = ((t.arrive c mayBlock).1.following earlier, (t.arrive c mayBlock).2) := by
  have channel : (t.following earlier).channel = t.channel := rfl
  unfold arrive
  rw [channel]
  split
  · rfl
  · simp only [finish, following_mapChannel, following_record, following_transfer,
      following_sleep]
    repeat' split
    all_goals rfl

theorem following_cutShort (c : Call) :
    (t.following earlier).cutShort c = (t.cutShort c).following earlier := by
  simp only [cutShort, following_mapChannel, following_record]

theorem following_resume (c : Call) :
    (t.following earlier).resume c = (t.resume c).following earlier := by
  have channel : (t.following earlier).channel = t.channel := rfl
  cases signal : t.channel.hasSignal c.slot with
  | true =>
    rw [resume_of_signal signal, resume_of_signal (t := t.following earlier) signal, channel,
      following_cutShort]
    split
    · exact following_wakeOne _ earlier _
    · rfl
  | false =>
    rw [resume, resume, channel, signal, if_neg Bool.false_ne_true, if_neg Bool.false_ne_true]
    split
    · rw [following_transfer]
    · rw [following_sleep]

theorem following_openSession (memory : Memory) (mode : AccessMode) (nonBlocking : Bool) :
    (t.following earlier).openSession memory mode nonBlocking
      = ((t.openSession memory mode nonBlocking).1.following earlier,
        (t.openSession memory mode nonBlocking).2) := by
  have channel : (t.following earlier).channel = t.channel := rfl
  unfold openSession
  rw [channel]
  dsimp only
  split
  · rfl
  · split
    · rfl
    · rw [following_mapChannel, following_record]
      rfl

theorem following_releaseCounts (slot : Slot) (mode : AccessMode) :
    (t.following earlier).releaseCounts slot mode
      = (t.releaseCounts slot mode).following earlier := by
  simp only [releaseCounts, following_mapChannel, following_record]
  split
  · rename_i empty
    exact (congrArg (following · earlier) (if_pos empty)).symm
  · rename_i counted
    exact (congrArg (following · earlier) (if_neg counted)).symm

theorem following_letGo (slot : Slot) :
    (t.following earlier).letGo slot = (t.letGo slot).following earlier := by
  have channel : (t.following earlier).channel = t.channel := rfl
  unfold letGo
  rw [channel]
  split
  · rfl
  · exact following_releaseCounts (t.markClosed slot) earlier slot _

theorem following_dropSession (slot : Slot) :
    (t.following earlier).dropSession slot
      = ((t.dropSession slot).1.following earlier, (t.dropSession slot).2) := by
  have endable : (t.following earlier).endable? slot = t.endable? slot := rfl
  unfold dropSession
  rw [endable]
  split
  · rfl
  · rw [following_letGo]

theorem following_apply (memory : Memory) (op : Operation) :
    op.apply memory (t.following earlier)
      = ((op.apply memory t).1.following earlier, (op.apply memory t).2) := by
  cases op with
  | openSession mode nonBlocking =>
    simp only [Operation.apply, following_openSession]
    rcases t.openSession memory mode nonBlocking with ⟨u, e | slot⟩ <;> rfl
  | closeSession slot =>
    simp only [Operation.apply, closeSession_eq_dropSession, following_dropSession]
  | dropSession slot => simp only [Operation.apply, following_dropSession]
  | setNonBlocking slot nonBlocking => rfl
  | call c => exact congrArg (fun r => (r.1, Outcome.ofProgress r.2)) (following_arrive t earlier c _)
  | tryCall c =>
    exact congrArg (fun r => (r.1, Outcome.ofProgress r.2)) (following_arrive t earlier c _)
  | poll slot waker =>
    have channel : (t.following earlier).channel = t.channel := rfl
    simp only [Operation.apply, channel]
    split
    · cases waker <;> rfl
    · rfl
  | interrupt slot =>
    simp only [Operation.apply, interrupt, following_mapChannel, following_wakeAll]
  | subscribe => rfl
  | unsubscribe feed => rfl
  | receive feed =>
    have channel : (t.following earlier).channel = t.channel := rfl
    simp only [Operation.apply, receive, channel]
    split <;> rfl

theorem following_runNext : (t.following earlier).runNext = t.runNext.following earlier := by
  obtain ⟨channel, woken, account⟩ := t
  cases woken with
  | nil => rfl
  | cons c rest => exact following_resume ⟨channel, rest, account⟩ earlier c

theorem following_runWoken (fuel : Nat) :
    (t.following earlier).runWoken fuel = (t.runWoken fuel).following earlier := by
  induction fuel generalizing t with
  | zero => rfl
  | succ fuel ih =>
    have woken : (t.following earlier).woken = t.woken := rfl
    rw [runWoken, runWoken, woken, following_runNext]
    split
    · rfl
    · exact ih t.runNext

theorem following_settle : (t.following earlier).settle = t.settle.following earlier :=
  following_runWoken t earlier t.pendingRuns

/-- A settled turn is one that goes on with its account. -/
theorem start_following {t : Turn} (settled : t.woken = []) :
    (start t.channel).following t.account = t := by
  obtain ⟨channel, woken, account⟩ := t
  cases settled
  simp [start, following]

theorem Orderly.start {t : Turn} (orderly : Orderly t) (settled : t.woken = []) :
    Orderly (start t.channel) :=
  orderly.of_perm rfl (by rw [waiting, waiting, settled]; rfl) orderly.placed

theorem apply_of_settled {t : Turn} (memory : Memory) (op : Operation) (settled : t.woken = []) :
    op.apply memory t
      = ((op.apply memory (start t.channel)).1.following t.account,
        (op.apply memory (start t.channel)).2) := by
  have same := following_apply (start t.channel) t.account memory op
  rw [start_following settled] at same
  exact same

theorem settle_apply_of_settled {t : Turn} (memory : Memory) (op : Operation)
    (settled : t.woken = []) :
    (op.apply memory t).1.settle
      = (op.apply memory (start t.channel)).1.settle.following t.account := by
  rw [apply_of_settled memory op settled, following_settle]

/-! ## Whole operations -/

theorem roster_ran {t u : Turn} {c : Call} (ran : Ran t c u) :
    u.channel.roster = t.channel.roster := by
  cases ran with
  | interrupted unready => exact (alike_setSignal t c.slot false).roster
  | passedOn ready =>
    rw [roster_wakeOne]
    exact (alike_setSignal t c.slot false).roster
  | moved fits ready =>
    rw [(alike_transfer t c).roster, moving, roster_wakeOne]
    rfl
  | slept fits unready => exact roster_sleep t c

theorem roster_arrived {t u : Turn} {c : Call} (arrived : Arrived t c u) :
    u.channel.roster = t.channel.roster := by
  cases arrived with
  | refused => rfl
  | failed e => rfl
  | answered trivial => rfl
  | ran ran => exact roster_ran ran

/-- What running one woken call preserves, settling preserves. -/
theorem settle_induction {P : Turn → Prop} {t : Turn} (holds : P t)
    (next : ∀ t, P t → t.woken ≠ [] → P t.runNext) : P t.settle := by
  unfold settle
  generalize t.pendingRuns = fuel
  induction fuel generalizing t with
  | zero => exact holds
  | succ fuel ih =>
    rw [runWoken]
    split
    · exact holds
    · rename_i some
      exact ih (next t holds fun none => some (by rw [none]; rfl))

/-- Woken calls have run, one at a time and in any order; those that they woke may have run too. -/
inductive Runs (t : Turn) : Turn → Prop where
  | none : Runs t t
  | ran {u : Turn} (before : Runs t u) (earlier : List Call) (c : Call) (later : List Call)
    (woken : u.woken = earlier ++ c :: later) :
    Runs t (resume { u with woken := earlier ++ later } c)

theorem Runs.following {t u : Turn} (runs : Runs t u) (earlier : List Notice) :
    Runs (t.following earlier) (u.following earlier) := by
  induction runs with
  | none => exact .none
  | @ran u before first c later woken ih =>
    rw [← following_resume]
    exact ih.ran first c later woken

/-- Settling is one way of running the woken calls. -/
theorem runs_settle (t : Turn) : Runs t t.settle := by
  refine settle_induction (P := Runs t) .none fun u runs some => ?_
  unfold runNext
  split
  · exact runs
  · rename_i c rest woken
    exact runs.ran [] c rest woken

end Turn

namespace Life

variable {memory : Memory} {peak : Nat} {t : Turn}

theorem runNext (life : Life memory peak t) : Life memory peak t.runNext := by
  unfold Turn.runNext
  split
  · exact life
  · rename_i c rest woken
    exact life.ran [] c rest woken

theorem roster_runNext (life : Life memory peak t) :
    t.runNext.channel.roster = t.channel.roster := by
  unfold Turn.runNext
  split
  · rfl
  · rename_i c rest woken
    obtain ⟨-, fits, -⟩ := life.orderly.take (show t.woken = [] ++ c :: rest from woken)
    exact Turn.roster_ran (t := { t with woken := rest }) (Turn.ran_resume fits)

theorem settle (life : Life memory peak t) :
    Life memory peak t.settle ∧ t.settle.channel.roster = t.channel.roster :=
  Turn.settle_induction (P := fun u => Life memory peak u ∧ u.channel.roster = t.channel.roster)
    ⟨life, rfl⟩ fun _ ⟨life, same⟩ _ => ⟨life.runNext, life.roster_runNext.trans same⟩

/-- Woken calls run within a life. -/
theorem runs {u : Turn} (life : Life memory peak t) (runs : t.Runs u) : Life memory peak u := by
  induction runs with
  | none => exact life
  | ran before earlier c later woken ih => exact ih.ran earlier c later woken

theorem roster_runs {u : Turn} (life : Life memory peak t) (runs : t.Runs u) :
    u.channel.roster = t.channel.roster := by
  induction runs with
  | none => rfl
  | @ran u before earlier c later woken ih =>
    obtain ⟨-, fits, -⟩ := (life.runs before).orderly.take woken
    exact (Turn.roster_ran (t := { u with woken := earlier ++ later }) (Turn.ran_resume fits)).trans ih

/-- Whatever is woken changes nothing about who is open. -/
theorem openUses_perform (life : Life memory peak t) (settled : t.woken = []) {op : Operation}
    (fresh : op.Fresh t.channel) :
    (t.channel.perform memory op).1.openUses = (op.apply memory t).1.channel.openUses := by
  rw [← Channel.openUses_congr (life.operated op settled fresh).settle.2,
    Turn.settle_apply_of_settled memory op settled]
  rfl

/-- A settled channel lives on through any operation, and its account grows by that of the
operation. -/
theorem perform (life : Life memory peak t) (settled : t.woken = []) {op : Operation}
    (fresh : op.Fresh t.channel) :
    ∃ u, Life memory (max peak (t.channel.perform memory op).1.openUses) u ∧ u.woken = [] ∧
      u.channel = (t.channel.perform memory op).1 ∧
      u.account = t.account ++ (t.channel.perform memory op).2.2 := by
  have same := Turn.settle_apply_of_settled memory op settled
  have settles := (life.operated op settled fresh).settle.1
  refine ⟨_, life.openUses_perform settled fresh ▸ settles, Turn.woken_settle _, ?_, ?_⟩
  · rw [same]
    rfl
  · rw [same]
    rfl

end Life

end BytePipe
