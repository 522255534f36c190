import BytePipe.Proofs.Channel.Signals
import BytePipe.System

/-!
Signals reach the session they are raised on, and each of them ends one call. An interrupt leaves a
signal with a session; a call takes it when it would have to sleep or has just slept, and comes back
interrupted. So no call sleeps beside a signal of its session, and the interrupted calls of a
session are as many as the interrupts that found no signal there, but for one that is still pending
(`signals_delivered_once`).

`Course` tells a life together with its operations. Between operations no waiting call has a signal
to take (`Turn.Calm`), and only an interrupt changes that: until the first of its calls has run, the
channel is `Turn.Alarmed`.
-/
namespace BytePipe

/-- An interrupt that finds the session at the slot without a pending signal. -/
def Operation.raises (ch : Channel) (slot : Slot) : Operation → Bool
  | .interrupt target => target == slot && ch.sessions[slot]?.any (!·.signal)
  | _ => false

/-- How many interrupts have found the session at the slot without a pending signal. -/
def timesRaised (slot : Slot) (deeds : List (Channel × Operation)) : Nat :=
  deeds.countP fun (ch, op) => op.raises ch slot

/-- How many calls of the session at the slot have come back because of a signal. -/
def timesInterrupted (slot : Slot) (account : List Notice) : Nat :=
  (interruptedCalls account).countP (·.slot == slot)

/-- A moment of a life, with the operations so far, each beside the channel that it found. -/
inductive Course (memory : Memory) : (deeds : List (Channel × Operation)) → Turn → Prop where
  | created (name : String) (capacity : Nat) (positive : 0 < capacity) :
    Course memory [] (.start (.named name capacity))
  | operated {deeds : List (Channel × Operation)} {t : Turn} (op : Operation)
    (before : Course memory deeds t) (settled : t.woken = []) (fresh : op.Fresh t.channel) :
    Course memory (deeds ++ [(t.channel, op)]) (op.apply memory t).1
  | ran {deeds : List (Channel × Operation)} {t : Turn} (earlier : List Call) (c : Call)
    (later : List Call) (before : Course memory deeds t) (woken : t.woken = earlier ++ c :: later) :
    Course memory deeds (Turn.resume { t with woken := earlier ++ later } c)

theorem Course.life {memory : Memory} {deeds : List (Channel × Operation)} {t : Turn}
    (course : Course memory deeds t) : ∃ peak, Life memory peak t := by
  induction course with
  | created name capacity positive => exact ⟨0, .created name capacity positive⟩
  | operated op before settled fresh ih =>
    obtain ⟨peak, life⟩ := ih
    exact ⟨_, life.operated op settled fresh⟩
  | ran earlier c later before woken ih =>
    obtain ⟨peak, life⟩ := ih
    exact ⟨peak, life.ran earlier c later woken⟩

theorem Life.course {memory : Memory} {peak : Nat} {t : Turn} (life : Life memory peak t) :
    ∃ deeds, Course memory deeds t := by
  induction life with
  | created name capacity positive => exact ⟨[], .created name capacity positive⟩
  | operated op before settled fresh ih =>
    obtain ⟨deeds, course⟩ := ih
    exact ⟨_, course.operated op settled fresh⟩
  | ran earlier c later before woken ih =>
    obtain ⟨deeds, course⟩ := ih
    exact ⟨deeds, course.ran earlier c later woken⟩

namespace Turn

variable {memory : Memory} {op : Operation} {t u : Turn} {c : Call} {slot : Slot}

/-- No waiting call has a signal of its session to take. -/
def Calm (t : Turn) : Prop :=
  ∀ c ∈ t.waiting, t.channel.hasSignal c.slot = false

/-- While no waiting call has a signal, running them leaves all signals alone. -/
theorem Calm.runs (calm : Calm t) (runs : Runs t u) : Calm u ∧ Aside t u := by
  induction runs with
  | none => exact ⟨calm, .refl t⟩
  | @ran u before earlier c later woken ih =>
    obtain ⟨calm, aside⟩ := ih
    obtain ⟨chosen, inside⟩ := mem_waiting_take woken
    have silent : u.channel.hasSignal c.slot = false := calm c chosen
    have run := aside_resume (t := { u with woken := earlier ++ later }) silent
    refine ⟨fun w waits => ?_, aside.trans ⟨run.signals, run.interrupted⟩⟩
    rw [run.signals]
    rcases mem_waiting_resume waits with before | ⟨rfl, silent⟩
    · exact calm w (inside w before)
    · exact silent

/-- Only an interrupt gives a waiting call a signal to take. -/
theorem Calm.applied (calm : Calm t) (quiet : ∀ slot, op ≠ .interrupt slot) :
    Calm (op.apply memory t).1 := by
  have signalling := signalling_apply memory t op
  generalize op.apply memory t = result at signalling
  intro w waits
  cases signalling with
  | aside aside fewer other quiet =>
    rw [aside.signals]
    exact calm w (fewer w waits)
  | slept c made must silent =>
    rw [(Aside.sleep t c).signals]
    rcases List.mem_cons.mp ((waiting_sleep t c).mem_iff.mp waits) with rfl | before
    · exact silent
    · exact calm w before
  | cutShort c made must pending =>
    have before : w ∈ t.waiting := (alike_setSignal t c.slot false).waiting ▸ waits
    rw [hasSignal_cutShort, calm w before, Bool.false_and]
  | raised slot made => exact absurd made (quiet slot)

/-- An interrupt of the session at the slot is under way: its signal is pending, none of its calls
sleeps any more but one is woken, and no other session with waiting calls has a signal. -/
structure Alarmed (slot : Slot) (t : Turn) : Prop where
  pending : t.channel.hasSignal slot = true
  roused : ∀ d, ∀ c ∈ t.channel.sleepers d, c.slot ≠ slot
  woken : ∃ c ∈ t.woken, c.slot = slot
  others : ∀ c ∈ t.waiting, c.slot ≠ slot → t.channel.hasSignal c.slot = false

theorem Alarmed.ran (alarmed : Alarmed slot t) {earlier later : List Call}
    (woken : t.woken = earlier ++ c :: later) :
    if c.slot = slot then
      Calm (resume { t with woken := earlier ++ later } c) ∧
        interruptedCalls (resume { t with woken := earlier ++ later } c).account
          = interruptedCalls t.account ++ [c]
    else
      Alarmed slot (resume { t with woken := earlier ++ later } c) ∧
        interruptedCalls (resume { t with woken := earlier ++ later } c).account
          = interruptedCalls t.account := by
  obtain ⟨chosen, inside⟩ := mem_waiting_take woken
  split
  · rename_i own
    have pending : t.channel.hasSignal c.slot = true := own ▸ alarmed.pending
    obtain ⟨signals, interrupted⟩ :=
      resume_takes (t := { t with woken := earlier ++ later }) pending
    refine ⟨fun w waits => ?_, interrupted⟩
    rw [signals]
    by_cases same : w.slot = c.slot
    · simp [same]
    · rcases mem_waiting_resume waits with before | ⟨rfl, -⟩
      · rw [alarmed.others w (inside w before) (own ▸ same), Bool.false_and]
      · exact absurd rfl same
  · rename_i foreign
    have silent : t.channel.hasSignal c.slot = false := alarmed.others c chosen foreign
    have aside := aside_resume (t := { t with woken := earlier ++ later }) silent
    refine ⟨⟨?_, fun d w asleep => ?_, ?_, fun w waits ne => ?_⟩, aside.interrupted⟩
    · rw [aside.signals]
      exact alarmed.pending
    · rcases mem_sleepers_resume asleep with before | ⟨rfl, -⟩
      · exact alarmed.roused d w before
      · exact foreign
    · obtain ⟨w, woke, own⟩ := alarmed.woken
      refine ⟨w, mem_woken_resume ?_, own⟩
      rw [woken] at woke
      rcases List.mem_cons.mp (List.perm_middle.mem_iff.mp woke) with rfl | other
      · exact absurd own foreign
      · exact other
    · rw [aside.signals]
      rcases mem_waiting_resume waits with before | ⟨rfl, -⟩
      · exact alarmed.others w (inside w before) ne
      · exact silent

/-- The signal of an interrupt stays pending until the first of its calls to run takes it; that call
comes back, and from then on nobody finds a signal. -/
theorem Alarmed.runs (alarmed : Alarmed slot t) (runs : Runs t u) :
    (Alarmed slot u ∧ interruptedCalls u.account = interruptedCalls t.account ∧
      ∀ w ∈ u.waiting, w ∈ t.waiting) ∨
    (Calm u ∧ ∃ c ∈ t.waiting, c.slot = slot ∧
      interruptedCalls u.account = interruptedCalls t.account ++ [c]) := by
  induction runs with
  | none => exact .inl ⟨alarmed, rfl, fun _ waits => waits⟩
  | @ran u before earlier c later woken ih =>
    obtain ⟨chosen, inside⟩ := mem_waiting_take woken
    rcases ih with ⟨still, none, fewer⟩ | ⟨calm, w, waited, own, one⟩
    · have step := still.ran woken
      split at step
      · rename_i own
        refine .inr ⟨step.1, c, fewer c chosen, own, ?_⟩
        rw [step.2, none]
      · refine .inl ⟨step.1, step.2.trans none, fun w waits => ?_⟩
        rcases mem_waiting_resume waits with before | ⟨rfl, -⟩
        · exact fewer w (inside w before)
        · exact fewer w chosen
    · obtain ⟨calmAfter, aside⟩ := calm.runs (.ran .none earlier c later woken)
      exact .inr ⟨calmAfter, w, waited, own, aside.interrupted.trans one⟩

theorem aside_interrupt (t : Turn) (slot : Slot) :
    Aside (t.mapChannel (·.setSignal slot true)) (t.interrupt slot) :=
  (Aside.wakeAll _ .reading).trans (.wakeAll _ .writing)

theorem waiting_interrupt (t : Turn) (slot : Slot) : (t.interrupt slot).waiting.Perm t.waiting := by
  rw [← (alike_setSignal t slot true).waiting]
  exact (waiting_wakeAll _ .writing).trans (waiting_wakeAll _ .reading)

theorem sleepers_interrupt (t : Turn) (slot : Slot) (d : Direction) :
    (t.interrupt slot).channel.sleepers d = [] := by
  rw [interrupt, sleepers_wakeAll, sleepers_wakeAll]
  cases d <;> rfl

/-- An interrupt of a session that has sleeping calls wakes them all. -/
theorem alarmed_interrupt (orderly : Orderly t) (settled : t.woken = []) (calm : Calm t)
    (asleep : t.channel.isWaiting slot = true) : Alarmed slot (t.interrupt slot) := by
  obtain ⟨c, slept, own⟩ := List.any_eq_true.mp asleep
  obtain rfl : c.slot = slot := by simpa using own
  have waits : c ∈ t.waiting := by
    rw [waiting, settled, List.append_nil]
    exact slept
  have signals := (aside_interrupt t c.slot).signals
  refine ⟨?_, fun d w asleep => ?_, ⟨c, ?_, rfl⟩, fun w waits ne => ?_⟩
  · rw [signals, channel_mapChannel, Channel.hasSignal_setSignal_self,
      (orderly.fits c waits).listed]
    rfl
  · rw [sleepers_interrupt] at asleep
    contradiction
  · rcases mem_waiting.mp ((waiting_interrupt t c.slot).mem_iff.mpr waits) with ⟨d, asleep⟩ | woke
    · rw [sleepers_interrupt] at asleep
      contradiction
    · exact woke
  · rw [signals, channel_mapChannel, Channel.hasSignal_setSignal_ne _ _ (Ne.symm ne)]
    exact calm w ((waiting_interrupt t c.slot).mem_iff.mp waits)

end Turn

namespace Course

open Turn

variable {memory : Memory} {deeds : List (Channel × Operation)} {t : Turn}

/-- What is known at every moment: who sleeps has no signal to take, every signal raised is pending
or has ended one call, and who waits or has come back so was made as a call that must sleep. -/
structure Delivered (deeds : List (Channel × Operation)) (t : Turn) : Prop where
  silent : ∀ d, ∀ c ∈ t.channel.sleepers d, t.channel.hasSignal c.slot = false
  exact : ∀ slot, timesInterrupted slot t.account + (if t.channel.hasSignal slot then 1 else 0)
    = timesRaised slot deeds
  made : ∀ c, (c ∈ t.waiting ∨ c ∈ interruptedCalls t.account) →
    ∃ ch, (ch, .call c) ∈ deeds ∧ ch.MustSleep c

theorem timesRaised_concat (slot : Slot) (deeds : List (Channel × Operation)) (ch : Channel)
    (op : Operation) :
    timesRaised slot (deeds ++ [(ch, op)])
      = timesRaised slot deeds + if op.raises ch slot then 1 else 0 := by
  rw [timesRaised, List.countP_append, List.countP_singleton]
  rfl

/-- A signal that is taken ends one call of its session. -/
theorem timesInterrupted_takes {u : Turn} {c : Call}
    (signals : ∀ slot, u.channel.hasSignal slot = (t.channel.hasSignal slot && slot != c.slot))
    (pending : t.channel.hasSignal c.slot = true)
    (interrupted : interruptedCalls u.account = interruptedCalls t.account ++ [c]) (slot : Slot) :
    timesInterrupted slot u.account + (if u.channel.hasSignal slot then 1 else 0)
      = timesInterrupted slot t.account + (if t.channel.hasSignal slot then 1 else 0) := by
  rw [timesInterrupted, interrupted, List.countP_append, List.countP_singleton, signals,
    timesInterrupted]
  by_cases own : c.slot = slot
  · subst own
    simp [pending]
  · have other : (c.slot == slot) = false := by simpa using own
    simp [other, Ne.symm own]

theorem raises_of_calm {op : Operation} (calm : ∀ slot, op ≠ .interrupt slot) (ch : Channel)
    (slot : Slot) : op.raises ch slot = false := by
  cases op with
  | interrupt target => exact absurd rfl (calm target)
  | _ => rfl

/-- When nothing is left to run, all waiting calls are asleep. -/
theorem Delivered.calm (delivered : Delivered deeds t) (settled : t.woken = []) : Calm t := by
  intro c waits
  rcases mem_waiting.mp waits with ⟨d, asleep⟩ | woke
  · exact delivered.silent d c asleep
  · rw [settled] at woke
    contradiction

/-- Whatever leaves the signals alone leaves this alone. -/
theorem Delivered.aside {u : Turn} {later : List (Channel × Operation)}
    (delivered : Delivered deeds t) (aside : Aside t u)
    (silent : ∀ d, ∀ c ∈ u.channel.sleepers d, u.channel.hasSignal c.slot = false)
    (unraised : ∀ slot, timesRaised slot (deeds ++ later) = timesRaised slot deeds)
    (made : ∀ c ∈ u.waiting, ∃ ch, (ch, .call c) ∈ deeds ++ later ∧ ch.MustSleep c) :
    Delivered (deeds ++ later) u where
  silent := silent
  exact slot := by
    rw [unraised, ← delivered.exact slot, aside.signals, timesInterrupted, aside.interrupted,
      timesInterrupted]
  made c known := by
    rcases known with waits | interrupted
    · exact made c waits
    · rw [aside.interrupted] at interrupted
      obtain ⟨ch, deed, must⟩ := delivered.made c (.inr interrupted)
      exact ⟨ch, List.mem_append_left _ deed, must⟩

theorem Delivered.remembered (delivered : Delivered deeds t) (deed : Channel × Operation) {c : Call}
    (known : c ∈ t.waiting ∨ c ∈ interruptedCalls t.account) :
    ∃ ch, (ch, .call c) ∈ deeds ++ [deed] ∧ ch.MustSleep c := by
  obtain ⟨ch, before, must⟩ := delivered.made c known
  exact ⟨ch, List.mem_append_left _ before, must⟩

/-- An interrupt leaves nobody asleep, and is counted if it finds no signal. -/
theorem Delivered.interrupt (delivered : Delivered deeds t) (slot : Slot) :
    Delivered (deeds ++ [(t.channel, .interrupt slot)]) (t.interrupt slot) := by
  have aside := aside_interrupt t slot
  have interrupted : interruptedCalls (t.interrupt slot).account = interruptedCalls t.account :=
    aside.interrupted
  refine ⟨fun d c asleep => ?_, fun other => ?_, fun c known => ?_⟩
  · rw [sleepers_interrupt] at asleep
    contradiction
  · rw [timesRaised_concat, ← delivered.exact other, timesInterrupted, interrupted,
      timesInterrupted, aside.signals, channel_mapChannel, Operation.raises]
    by_cases own : slot = other
    · subst own
      rw [Channel.hasSignal_setSignal_self, Channel.hasSignal, beq_self_eq_true, Bool.true_and]
      cases t.channel.sessions[slot]? with
      | none => rfl
      | some s => cases signal : s.signal <;> simp [signal]
    · have ne : (slot == other) = false := by simpa using own
      rw [Channel.hasSignal_setSignal_ne _ _ own, ne, Bool.false_and]
      rfl
  · rw [interrupted] at known
    exact delivered.remembered _ (known.imp_left (waiting_interrupt t slot).mem_iff.mp)

/-- A call that takes the signal it finds is counted as interrupted. -/
theorem Delivered.cutShort {c : Call} (delivered : Delivered deeds t) (must : t.channel.MustSleep c)
    (pending : t.channel.hasSignal c.slot = true)
    (silent : ∀ d, ∀ w ∈ (t.cutShort c).channel.sleepers d,
      (t.cutShort c).channel.hasSignal w.slot = false) :
    Delivered (deeds ++ [(t.channel, .call c)]) (t.cutShort c) := by
  have interrupted := interruptedCalls_cutShort t c
  have quiet : ∀ slot, Operation.call c ≠ .interrupt slot := nofun
  refine ⟨silent, fun slot => ?_, fun w known => ?_⟩
  · rw [timesInterrupted_takes (hasSignal_cutShort t c) pending interrupted, delivered.exact,
      timesRaised_concat, raises_of_calm quiet]
    rfl
  · rw [interrupted] at known
    rcases known with waits | came
    · exact delivered.remembered _ (.inl ((alike_setSignal t c.slot false).waiting ▸ waits))
    · rcases List.mem_append.mp came with before | last
      · exact delivered.remembered _ (.inr before)
      · rw [List.mem_singleton.mp last]
        exact ⟨t.channel, by simp, must⟩

theorem Delivered.operated {op : Operation} (delivered : Delivered deeds t)
    (settled : t.woken = []) :
    Delivered (deeds ++ [(t.channel, op)]) (op.apply memory t).1 := by
  have unraised (quiet : ∀ slot, op ≠ .interrupt slot) (slot : Slot) :
      timesRaised slot (deeds ++ [(t.channel, op)]) = timesRaised slot deeds := by
    rw [timesRaised_concat, raises_of_calm quiet]
    rfl
  have silent (quiet : ∀ slot, op ≠ .interrupt slot) (d : Direction) :
      ∀ c ∈ (op.apply memory t).1.channel.sleepers d,
        (op.apply memory t).1.channel.hasSignal c.slot = false :=
    fun c asleep =>
      (delivered.calm settled).applied quiet c (mem_waiting.mpr (.inl ⟨d, asleep⟩))
  have signalling := signalling_apply memory t op
  generalize op.apply memory t = result at signalling silent
  cases signalling with
  | aside aside fewer other quiet =>
    exact delivered.aside aside (silent quiet) (unraised quiet) fun c waits =>
      delivered.remembered _ (.inl (fewer c waits))
  | slept c made must unsignalled =>
    subst made
    refine delivered.aside (.sleep t c) (silent nofun) (unraised nofun) fun w waits => ?_
    rcases List.mem_cons.mp ((waiting_sleep t c).mem_iff.mp waits) with rfl | before
    · exact ⟨t.channel, by simp, must⟩
    · exact delivered.remembered _ (.inl before)
  | cutShort c made must pending =>
    subst made
    exact delivered.cutShort must pending (silent nofun)
  | raised slot made =>
    subst made
    exact delivered.interrupt slot

theorem Delivered.ran {earlier later : List Call} {c : Call} (delivered : Delivered deeds t)
    (woken : t.woken = earlier ++ c :: later) :
    Delivered deeds (resume { t with woken := earlier ++ later } c) := by
  obtain ⟨chosen, inside⟩ := mem_waiting_take woken
  have waited (w : Call) (waits : w ∈ (resume { t with woken := earlier ++ later } c).waiting) :
      w ∈ t.waiting := by
    rcases mem_waiting_resume waits with before | ⟨rfl, -⟩
    · exact inside w before
    · exact chosen
  cases signal : t.channel.hasSignal c.slot with
  | true =>
    obtain ⟨signals, interrupted⟩ := resume_takes (t := { t with woken := earlier ++ later }) signal
    refine ⟨fun d w asleep => ?_, fun slot => ?_, fun w or => ?_⟩
    · rw [signals]
      rcases mem_sleepers_resume asleep with before | ⟨rfl, -⟩
      · rw [delivered.silent d w before, Bool.false_and]
      · simp
    · rw [timesInterrupted_takes signals signal interrupted]
      exact delivered.exact slot
    · rcases or with waits | came
      · exact delivered.made w (.inl (waited w waits))
      · rw [interrupted] at came
        rcases List.mem_append.mp came with before | last
        · exact delivered.made w (.inr before)
        · exact delivered.made w (.inl (List.mem_singleton.mp last ▸ chosen))
  | false =>
    have aside := aside_resume (t := { t with woken := earlier ++ later }) signal
    have kept : Delivered (deeds ++ []) (resume { t with woken := earlier ++ later } c) := by
      refine delivered.aside ⟨aside.signals, aside.interrupted⟩ (fun d w asleep => ?_)
        (fun slot => by rw [List.append_nil]) fun w waits => ?_
      · rw [aside.signals]
        rcases mem_sleepers_resume asleep with before | ⟨rfl, silent⟩
        · exact delivered.silent d w before
        · exact silent
      · rw [List.append_nil]
        exact delivered.made w (.inl (waited w waits))
    rw [List.append_nil] at kept
    exact kept

theorem delivered (course : Course memory deeds t) : Delivered deeds t := by
  induction course with
  | created name capacity positive =>
    refine ⟨fun d c asleep => ?_, fun slot => rfl, fun c known => ?_⟩
    · cases d <;> exact absurd asleep List.not_mem_nil
    · rcases known with waits | came
      · exact absurd waits List.not_mem_nil
      · exact absurd came List.not_mem_nil
  | operated op before settled fresh ih => exact ih.operated settled
  | ran earlier c later before woken ih => exact ih.ran woken

end Course

/-- No call sleeps beside a signal of its session. At every moment the calls of a session that have
come back interrupted are as many as the interrupts that found no signal there, less the one that is
pending. An interrupt of a session with sleeping calls makes exactly one of them come back, in
whatever order the woken calls run. Any other operation leaves all signals alone and interrupts
nobody, unless it is a blocking call that must sleep and finds a signal: it takes that one. So only
calls that were made as such ever come back interrupted, and a call made through a channel that is
not its session's touches nothing. -/
theorem signals_delivered_once {memory : Memory} {deeds : List (Channel × Operation)} {t : Turn}
    (course : Course memory deeds t) :
    (∀ d, ∀ c ∈ t.channel.sleepers d, t.channel.hasSignal c.slot = false) ∧
    (∀ slot, timesInterrupted slot t.account + (if t.channel.hasSignal slot then 1 else 0)
      = timesRaised slot deeds) ∧
    (∀ (slot : Slot) (u : Turn), t.woken = [] → t.channel.isWaiting slot = true →
      (t.interrupt slot).Runs u → u.woken = [] →
      ∃ d, ∃ c ∈ t.channel.sleepers d, c.slot = slot ∧
        interruptedCalls u.account = interruptedCalls t.account ++ [c]) ∧
    (∀ (op : Operation) (u : Turn), t.woken = [] → (∀ slot, op ≠ .interrupt slot) →
      (op.apply memory t).1.Runs u →
      ((∀ slot, u.channel.hasSignal slot = t.channel.hasSignal slot) ∧
        interruptedCalls u.account = interruptedCalls t.account ∧
        (op.apply memory t).2 ≠ .failed .interrupted) ∨
      ∃ c, op = .call c ∧ t.channel.MustSleep c ∧ t.channel.hasSignal c.slot = true ∧
        (op.apply memory t).2 = .failed .interrupted ∧
        (∀ slot, u.channel.hasSignal slot = (t.channel.hasSignal slot && slot != c.slot)) ∧
        interruptedCalls u.account = interruptedCalls t.account ++ [c]) ∧
    (∀ c ∈ interruptedCalls t.account, ∃ ch, (ch, .call c) ∈ deeds ∧ ch.MustSleep c) ∧
    (∀ (s : System) (via : ChannelId) (id : SessionId) (op : Operation), via ≠ id.channel →
      (s.performVia via id op).1 = s) := by
  have delivered := course.delivered
  refine ⟨delivered.silent, delivered.exact, fun slot u settled asleep runs ended => ?_,
    fun op u settled quiet runs => ?_, fun c came => delivered.made c (.inr came),
    fun s via id op foreign => ?_⟩
  · obtain ⟨peak, life⟩ := course.life
    have alarmed := Turn.alarmed_interrupt life.orderly settled (delivered.calm settled) asleep
    rcases alarmed.runs runs with ⟨still, -, -⟩ | ⟨-, c, waits, own, one⟩
    · obtain ⟨c, woke, -⟩ := still.woken
      rw [ended] at woke
      contradiction
    · rcases Turn.mem_waiting.mp ((Turn.waiting_interrupt t slot).mem_iff.mp waits)
        with ⟨d, slept⟩ | woke
      · rw [(Turn.aside_interrupt t slot).interrupted] at one
        exact ⟨d, c, slept, own, one⟩
      · rw [settled] at woke
        contradiction
  · obtain ⟨-, later⟩ := ((delivered.calm settled).applied quiet).runs runs
    have signalling := Turn.signalling_apply memory t op
    generalize op.apply memory t = result at signalling later
    cases signalling with
    | aside aside fewer other _ =>
      have whole := aside.trans later
      exact .inl ⟨whole.signals, whole.interrupted, other⟩
    | slept c made must silent =>
      have whole := (Turn.Aside.sleep t c).trans later
      exact .inl ⟨whole.signals, whole.interrupted, fun same => by cases same⟩
    | cutShort c made must pending =>
      refine .inr ⟨c, made, must, pending, rfl, fun slot => ?_, ?_⟩
      · rw [later.signals, Turn.hasSignal_cutShort]
      · rw [later.interrupted, Turn.interruptedCalls_cutShort]
    | raised slot made => exact absurd made (quiet slot)
  · rw [System.performVia_foreign s foreign]

/-- Two readers of one session sleep, and an interrupt brings one of them back. -/
theorem signals_delivered_once_two_readers :
    ∃ deeds t u, Course ⟨16, by decide⟩ deeds t ∧ t.woken = [] ∧
      (t.channel.sleepers .reading).length = 2 ∧ t.channel.isWaiting 0 = true ∧
      (t.interrupt 0).Runs u ∧ u.woken = [] ∧
      ∃ d, ∃ c ∈ t.channel.sleepers d, c.slot = 0 ∧
        interruptedCalls u.account = interruptedCalls t.account ++ [c] := by
  have created := @Course.created ⟨16, by decide⟩ "pipe" 4 (by decide)
  have opened := created.operated (.openSession .readWrite false) rfl
    (.of_idle _ fun d => by cases d <;> rfl)
  have first := opened.operated (.call ⟨0, 0, .read 1⟩) rfl
    (.of_idle _ fun d => by cases d <;> rfl)
  have second := first.operated (.call ⟨1, 0, .read 1⟩) rfl
    (fun c called d s asleep => by cases called; cases d <;> revert s <;> decide)
  refine ⟨_, _, _, second, rfl, rfl, by decide, Turn.runs_settle _, Turn.woken_settle _, ?_⟩
  exact (signals_delivered_once second).2.2.1 0 _ rfl (by decide) (Turn.runs_settle _)
    (Turn.woken_settle _)

end BytePipe