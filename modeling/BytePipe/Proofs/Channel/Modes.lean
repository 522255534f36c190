import BytePipe.Proofs.Channel.Endings

/-!
The blocking mode of a session matters to one thing only: whether a call of that session may fall
asleep. All else commutes with a change of mode (`Channel.inMode`): a call that never sleeps comes to
the same in either mode, and so does whatever it wakes (`Channel.perform_tryCall_inMode`).
-/
namespace BytePipe

/-- The channel with a session's blocking mode set. -/
def Channel.inMode (slot : Slot) (nonBlocking : Bool) (ch : Channel) : Channel :=
  { ch with sessions := ch.sessions.modify slot ({ · with nonBlocking }) }

namespace Channel

variable (ch : Channel) (slot : Slot) (nonBlocking : Bool)

theorem openSession?_inMode (other : Slot) :
    (ch.inMode slot nonBlocking).openSession? other
      = (ch.openSession? other).map fun s => if slot = other then { s with nonBlocking } else s := by
  simp only [openSession?, inMode, List.getElem?_modify]
  cases ch.sessions[other]? with
  | none => rfl
  | some s =>
    by_cases own : slot = other <;> cases isOpen : s.isOpen <;>
      simp [own, isOpen, Option.filter]

theorem hasSignal_inMode (other : Slot) :
    (ch.inMode slot nonBlocking).hasSignal other = ch.hasSignal other := by
  simp only [hasSignal, inMode, List.getElem?_modify]
  cases ch.sessions[other]? with
  | none => rfl
  | some s => by_cases own : slot = other <;> simp [own]

theorem setSignal_inMode (other : Slot) (signal : Bool) :
    (ch.inMode slot nonBlocking).setSignal other signal
      = (ch.setSignal other signal).inMode slot nonBlocking := by
  have same : (ch.inMode slot nonBlocking).sessions.modify other ({ · with signal })
      = (ch.setSignal other signal).sessions.modify slot ({ · with nonBlocking }) := by
    refine List.ext_getElem? fun i => ?_
    simp only [inMode, setSignal, List.getElem?_modify]
    cases ch.sessions[i]? with
    | none => rfl
    | some s => by_cases first : slot = i <;> by_cases second : other = i <;> simp [first, second]
  rw [setSignal, same]
  rfl

theorem ready_inMode (d : Direction) : (ch.inMode slot nonBlocking).ready d = ch.ready d := by
  cases d <;> rfl

end Channel

namespace Turn

/-- The turn with a session's blocking mode set. -/
abbrev inMode (slot : Slot) (nonBlocking : Bool) (t : Turn) : Turn :=
  t.mapChannel (·.inMode slot nonBlocking)

variable (t : Turn) (slot : Slot) (nonBlocking : Bool) (c : Call)

theorem wakeOne_inMode (d : Direction) :
    (t.inMode slot nonBlocking).wakeOne d = (t.wakeOne d).inMode slot nonBlocking := by
  cases d <;> rfl

theorem sleep_inMode :
    (t.inMode slot nonBlocking).sleep c = (t.sleep c).inMode slot nonBlocking := by
  obtain ⟨ticket, own, request⟩ := c
  cases request <;> rfl

theorem transfer_inMode :
    (t.inMode slot nonBlocking).transfer c
      = ((t.transfer c).1.inMode slot nonBlocking, (t.transfer c).2) := by
  obtain ⟨ticket, own, request⟩ := c
  cases request <;> rfl

theorem cutShort_inMode :
    (t.inMode slot nonBlocking).cutShort c = (t.cutShort c).inMode slot nonBlocking := by
  simp only [cutShort, mapChannel, record, Channel.setSignal_inMode]

theorem resume_inMode :
    (t.inMode slot nonBlocking).resume c = (t.resume c).inMode slot nonBlocking := by
  have signals := t.channel.hasSignal_inMode slot nonBlocking c.slot
  have ready := t.channel.ready_inMode slot nonBlocking c.direction
  cases signal : t.channel.hasSignal c.slot with
  | true =>
    rw [resume_of_signal signal, resume_of_signal (signals.trans signal), channel_mapChannel, ready,
      cutShort_inMode]
    split
    · exact wakeOne_inMode _ slot nonBlocking _
    · rfl
  | false =>
    rw [resume, resume, channel_mapChannel, signals, signal, ready, if_neg Bool.false_ne_true,
      if_neg Bool.false_ne_true]
    split
    · rw [transfer_inMode]
    · exact sleep_inMode t slot nonBlocking c

theorem arrive_inMode (mayBlock : Bool) :
    (t.inMode slot nonBlocking).arrive c mayBlock
      = ((t.arrive c mayBlock).1.inMode slot nonBlocking, (t.arrive c mayBlock).2) := by
  have found := t.channel.openSession?_inMode slot nonBlocking c.slot
  have ready := t.channel.ready_inMode slot nonBlocking c.direction
  cases isOpen : t.channel.openSession? c.slot with
  | none =>
    rw [isOpen, Option.map_none] at found
    rw [arrive, arrive, channel_mapChannel, found, isOpen]
  | some s =>
    rw [isOpen, Option.map_some] at found
    have mode : (if slot = c.slot then { s with nonBlocking } else s).mode = s.mode := by
      split <;> rfl
    have signal : (if slot = c.slot then { s with nonBlocking } else s).signal = s.signal := by
      split <;> rfl
    simp only [arrive, channel_mapChannel, found, isOpen, mode, signal, ready, transfer_inMode,
      sleep_inMode]
    repeat' split
    all_goals first | rfl | exact Prod.ext (cutShort_inMode t slot nonBlocking c) rfl

theorem runNext_inMode :
    (t.inMode slot nonBlocking).runNext = t.runNext.inMode slot nonBlocking := by
  obtain ⟨channel, woken, account⟩ := t
  cases woken with
  | nil => rfl
  | cons c rest => exact resume_inMode ⟨channel, rest, account⟩ slot nonBlocking c

theorem runWoken_inMode (fuel : Nat) :
    (t.inMode slot nonBlocking).runWoken fuel = (t.runWoken fuel).inMode slot nonBlocking := by
  induction fuel generalizing t with
  | zero => rfl
  | succ fuel ih =>
    rw [runWoken, runWoken, woken_mapChannel, runNext_inMode]
    split
    · rfl
    · exact ih t.runNext

theorem settle_inMode :
    (t.inMode slot nonBlocking).settle = t.settle.inMode slot nonBlocking :=
  runWoken_inMode t slot nonBlocking t.pendingRuns

end Turn

namespace Channel

variable (ch : Channel) (slot : Slot) (nonBlocking : Bool) (memory : Memory) (c : Call)

/-- A call that never sleeps does not depend on anybody's blocking mode. -/
theorem perform_tryCall_inMode :
    (ch.inMode slot nonBlocking).perform memory (.tryCall c)
      = ((ch.perform memory (.tryCall c)).1.inMode slot nonBlocking,
        (ch.perform memory (.tryCall c)).2) := by
  have arrived := Turn.arrive_inMode (.start ch) slot nonBlocking c false
  have settled := Turn.settle_inMode ((Turn.start ch).arrive c false).1 slot nonBlocking
  have applied : (Operation.tryCall c).apply memory (.start (ch.inMode slot nonBlocking))
      = (((Turn.start ch).arrive c false).1.inMode slot nonBlocking,
        .ofProgress ((Turn.start ch).arrive c false).2) :=
    congrArg (fun r => (r.1, Outcome.ofProgress r.2)) arrived
  rw [perform, applied]
  simp only [settled]
  rfl

theorem perform_setNonBlocking :
    ch.perform memory (.setNonBlocking slot nonBlocking) = (ch.inMode slot nonBlocking, .done, []) :=
  perform_of_settled rfl

end Channel

end BytePipe
