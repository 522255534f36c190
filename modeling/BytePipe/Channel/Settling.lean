import BytePipe.Channel.Turn

/-!
Settling ends with nothing left to run. Every run of a woken call lowers `pendingRuns`: a call that
ends leaves at most one newly woken call behind, and one that goes back to sleep leaves none.
-/
namespace BytePipe.Turn

@[simp] theorem asleep_mapChannel {t : Turn} {f : Channel → Channel}
    (h : ∀ ch, (f ch).asleep = ch.asleep) : (t.mapChannel f).channel.asleep = t.channel.asleep :=
  h t.channel

@[simp] theorem woken_mapChannel (t : Turn) (f : Channel → Channel) :
    (t.mapChannel f).woken = t.woken := rfl

@[simp] theorem channel_record (t : Turn) (notices : List Notice) :
    (t.record notices).channel = t.channel := rfl

@[simp] theorem woken_record (t : Turn) (notices : List Notice) :
    (t.record notices).woken = t.woken := rfl

/-- A wake-up moves at most one call from a queue to the woken calls. -/
theorem wakeOne_calls (t : Turn) (d : Direction) :
    (t.wakeOne d).channel.asleep + (t.wakeOne d).woken.length = t.channel.asleep + t.woken.length ∧
      (t.wakeOne d).woken.length ≤ t.woken.length + 1 := by
  rw [Channel.asleep_eq _ d, Channel.asleep_eq t.channel d]
  simp only [wakeOne, Channel.queue_setQueue_self, Channel.queue_setQueue_opposite,
    WaitQueue.afterOne, List.length_append, List.length_take, List.length_tail]
  omega

theorem transfer_calls (t : Turn) (call : Call) :
    (t.transfer call).1.channel.asleep + (t.transfer call).1.woken.length
        = t.channel.asleep + t.woken.length ∧
      (t.transfer call).1.woken.length ≤ t.woken.length + 1 := by
  unfold transfer
  split
  · exact wakeOne_calls _ _
  · exact wakeOne_calls _ _

theorem sleep_calls (t : Turn) (call : Call) :
    (t.sleep call).channel.asleep = t.channel.asleep + 1 ∧ (t.sleep call).woken = t.woken := by
  refine ⟨?_, rfl⟩
  rw [Channel.asleep_eq _ call.direction, Channel.asleep_eq t.channel call.direction]
  simp only [sleep, mapChannel, channel_record, Channel.queue_setQueue_self,
    Channel.queue_setQueue_opposite, WaitQueue.enqueue, List.length_append, List.length_singleton]
  omega

/-- A woken call that runs ends, with at most one call newly woken, or sleeps again. -/
theorem resume_calls (t : Turn) (call : Call) :
    ((t.resume call).channel.asleep + (t.resume call).woken.length
        = t.channel.asleep + t.woken.length ∧
      (t.resume call).woken.length ≤ t.woken.length + 1) ∨
    ((t.resume call).channel.asleep = t.channel.asleep + 1 ∧ (t.resume call).woken = t.woken) := by
  unfold resume
  split
  · refine Or.inl ?_
    dsimp only
    split
    · exact wakeOne_calls _ _
    · exact ⟨rfl, Nat.le_succ _⟩
  · split
    · exact Or.inl (transfer_calls t call)
    · exact Or.inr (sleep_calls t call)

theorem pendingRuns_runNext (t : Turn) (h : t.woken ≠ []) :
    t.runNext.pendingRuns < t.pendingRuns := by
  unfold runNext
  split
  · contradiction
  · rename_i call rest eq
    have calls := resume_calls { t with woken := rest } call
    have size : t.woken.length = rest.length + 1 := by rw [eq]; rfl
    simp only [pendingRuns, size]
    rcases calls with ⟨total, woken⟩ | ⟨asleep, woken⟩
    · simp only at total woken
      omega
    · rw [asleep, woken]
      simp only
      omega

theorem woken_runWoken (fuel : Nat) (t : Turn) (h : t.pendingRuns ≤ fuel) :
    (t.runWoken fuel).woken = [] := by
  induction fuel generalizing t with
  | zero =>
    have : t.woken.length = 0 := by simp only [pendingRuns] at h; omega
    exact List.length_eq_zero_iff.mp this
  | succ fuel ih =>
    unfold runWoken
    split
    · rename_i empty
      exact List.isEmpty_iff.mp empty
    · rename_i some
      have := t.pendingRuns_runNext fun eq => some (by rw [eq]; rfl)
      exact ih t.runNext (by omega)

/-- Nothing is left to run. -/
theorem woken_settle (t : Turn) : t.settle.woken = [] :=
  woken_runWoken t.pendingRuns t (Nat.le_refl _)

end BytePipe.Turn
