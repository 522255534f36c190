import BytePipe.Proofs.Scenario.Bare
import BytePipe.Proofs.Scenario.Service
import Mathlib.Data.List.Sort
import Mathlib.Order.Monotone.Basic

/-!
Scripts with and without their observers. Steps that only observe can be left out of a script, or
put into it, anywhere: the other steps get the same replies, the same sleeping calls come back during
them with the same results, and every channel shows the same status after each
(`observers_are_invisible`).

Both runs are followed in step, and after every step the two bare worlds are the same, up to the
places of the steps in the longer script.
-/
namespace BytePipe.Scenario

variable {f : Nat → Nat}

/-! ## Single steps -/

/-- A report whose calls are known by other tickets. -/
def Report.renumber (f : Nat → Nat) (r : Report) : Report :=
  { r with finished := r.finished.map fun (ticket, result) => (f ticket, result) }

namespace World

/-- The world as a step finds it, with nothing told yet. -/
def clear (w : World) : World :=
  { w with account := [] }

variable (w : World)

theorem bare_finished (mono : StrictMono f) (ticket : Nat) :
    (w.bare f).finished (f ticket)
      = (w.finished ticket).map fun (ticket, result) => (f ticket, result) := by
  have sorted (l : List (Nat × CallResult)) :
      (l.mergeSort (·.1 ≤ ·.1)).map (fun (ticket, result) => (f ticket, result))
        = (l.map fun (ticket, result) => (f ticket, result)).mergeSort (·.1 ≤ ·.1) := by
    apply List.map_mergeSort
    intro a _ b _
    simp [mono.le_iff_le]
  simp only [finished]
  rw [sorted, List.map_filterMap]
  congr 1
  simp only [bare, List.filterMap_filterMap]
  congr 1
  funext notice
  cases notice with
  | ended call result =>
    have same : f call.ticket = f ticket ↔ call.ticket = ticket := mono.injective.eq_iff
    simp only [Notice.bare?, Option.bind_some, Call.ticket_relabel, same]
    split
    · rfl
    · rfl
  | woke waker => cases waker <;> rfl
  | _ => rfl

theorem step_eq (ticket : Nat) (step : Step) :
    w.step ticket step
      = ((w.clear.apply ticket step).1,
        ⟨(w.clear.apply ticket step).2, (w.clear.apply ticket step).1.finished ticket⟩) :=
  rfl

theorem step_clear (ticket : Nat) (step : Step) : w.clear.step ticket step = w.step ticket step :=
  rfl

/-- A step that acts does the same without the observers. -/
theorem bare_step (mono : StrictMono f) (ticket : Nat) {step : Step}
    (acts : step.isPassive = false) :
    (w.bare f).step (f ticket) step
      = ((w.step ticket step).1.bare f, (w.step ticket step).2.renumber f) := by
  have applied := w.clear.bare_apply mono.injective ticket acts
  change (w.bare f).clear.apply (f ticket) step = _ at applied
  rw [step_eq, step_eq, applied]
  simp only [bare_finished _ mono, Report.renumber]

/-- During a step that only observes no call comes back, and the bare world stays as it was. -/
theorem bare_step_of_passive (mono : StrictMono f) (ticket : Nat) {step : Step}
    (passive : step.isPassive = true) :
    (w.step ticket step).1.bare f = w.clear.bare f ∧ (w.step ticket step).2.finished = [] := by
  have applied := w.clear.bare_apply_of_passive mono.injective ticket passive
  have told := (w.clear.apply ticket step).1.bare_finished mono ticket
  rw [applied] at told
  have none : (w.clear.bare f).finished (f ticket) = [] := by simp [finished, clear, bare]
  rw [none] at told
  exact ⟨applied, List.map_eq_nil_iff.mp told.symm⟩

end World

/-! ## Whole scripts -/

/-- What is seen of a step: the reply to one that acts, the sleeping calls that came back during it,
and the status that the channels show after it, those with a name and all there are. -/
structure Sight where
  reply : Option Reply
  finished : List (Nat × CallResult)
  named : List (String × Status)
  channels : List Status

def Sight.of (step : Step) (seen : World × Report) : Sight where
  reply := if step.isPassive then none else some seen.2.reply
  finished := seen.2.finished
  named := seen.1.statuses
  channels := seen.1.system.channels.map (·.status)

/-- The same seen when tickets are other numbers. -/
def Sight.renumber (f : Nat → Nat) (s : Sight) : Sight :=
  { s with finished := s.finished.map fun (ticket, result) => (f ticket, result) }

/-- What is seen of the steps of a script. -/
def sights (w : World) (ticket : Nat) (script : List Step) : List Sight :=
  List.zipWith .of script (run w ticket script)

theorem sights_cons (w : World) (ticket : Nat) (step : Step) (rest : List Step) :
    sights w ticket (step :: rest)
      = Sight.of step (w.step ticket step) :: sights (w.step ticket step).1 (ticket + 1) rest :=
  rfl

/-- The steps that are kept of a script in which the others are marked `false`. -/
def kept (marked : List (Step × Bool)) : List Step :=
  (marked.filter (·.2)).map (·.1)

/-- What is seen of the steps that are kept. -/
def ofKept (marked : List (Step × Bool)) (sights : List Sight) : List Sight :=
  ((marked.zip sights).filter (·.1.2)).map (·.2)

theorem kept_cons (step : Step) (rest : List (Step × Bool)) :
    kept ((step, true) :: rest) = step :: kept rest :=
  rfl

theorem ofKept_cons (step : Step) (rest : List (Step × Bool)) (seen : Sight) (later : List Sight) :
    ofKept ((step, true) :: rest) (seen :: later) = seen :: ofKept rest later :=
  rfl

/-- The place in the whole script of the step that is at place `i` of the kept ones. -/
def place : List (Step × Bool) → Nat → Nat
  | [], i => i
  | (_, false) :: rest, i => place rest i + 1
  | (_, true) :: _, 0 => 0
  | (_, true) :: rest, i + 1 => place rest i + 1

theorem strictMono_place (marked : List (Step × Bool)) : StrictMono (place marked) := by
  apply strictMono_nat_of_lt_succ
  intro i
  induction marked generalizing i with
  | nil => exact Nat.lt_succ_self i
  | cons entry rest ih =>
    obtain ⟨step, stays⟩ := entry
    cases stays with
    | false =>
      have := ih i
      simp only [place]
      omega
    | true =>
      cases i with
      | zero => simp [place]
      | succ i =>
        have := ih i
        simp only [place]
        omega

/-- Between two steps, the worlds of the two runs are the same without their observers. -/
def InStep (f : Nat → Nat) (whole part : World) : Prop :=
  whole.clear.bare id = part.clear.bare f

namespace InStep

variable {whole part : World} {step : Step}

/-- Worlds that are in step show the same. -/
theorem shows (inStep : InStep f whole part) :
    whole.statuses = part.statuses ∧
      whole.system.channels.map (·.status) = part.system.channels.map (·.status) := by
  have statuses := congrArg World.statuses inStep
  have channels := congrArg (fun w : World => w.system.channels.map (·.status)) inStep
  rw [World.statuses_bare, World.statuses_bare] at statuses
  simp only [World.bare, System.bare, List.map_map, Function.comp_def, Channel.status_bare]
    at channels
  exact ⟨statuses, channels⟩

/-- A step that is left out and only observes. -/
theorem leftOut (inStep : InStep f whole part) (passive : step.isPassive = true) (ticket : Nat) :
    InStep f (whole.step ticket step).1 part := by
  obtain ⟨same, -⟩ := whole.bare_step_of_passive strictMono_id ticket passive
  have cleared := congrArg World.clear same
  exact cleared.trans inStep

/-- Worlds that have become the same without their observers. -/
theorem of_bare (same : whole.bare id = part.bare f) : InStep f whole part :=
  congrArg World.clear same

theorem sight {seen seen' : World × Report} (inStep : InStep f seen.1 seen'.1)
    (reply : step.isPassive = false → seen.2.reply = seen'.2.reply)
    (finished : seen.2.finished = (seen'.2.renumber f).finished) :
    Sight.of step seen = (Sight.of step seen').renumber f := by
  obtain ⟨named, channels⟩ := inStep.shows
  simp only [Sight.of, Sight.renumber, finished, named, channels, Report.renumber]
  cases passive : step.isPassive with
  | true => rfl
  | false => simp [reply passive]

/-- A step that both runs make shows the same in both. -/
theorem made (inStep : InStep f whole part) (mono : StrictMono f) (ticket : Nat) (step : Step) :
    Sight.of step (whole.step (f ticket) step)
        = (Sight.of step (part.step ticket step)).renumber f ∧
      InStep f (whole.step (f ticket) step).1 (part.step ticket step).1 := by
  cases passive : step.isPassive with
  | true =>
    obtain ⟨same, silent⟩ := whole.bare_step_of_passive strictMono_id (f ticket) passive
    obtain ⟨same', silent'⟩ := part.bare_step_of_passive mono ticket passive
    have after : InStep f (whole.step (f ticket) step).1 (part.step ticket step).1 :=
      of_bare (same.trans (inStep.trans same'.symm))
    refine ⟨after.sight (fun acts => ?_) ?_, after⟩
    · rw [passive] at acts
      contradiction
    · simp only [silent, Report.renumber, silent', List.map_nil]
  | false =>
    have stepped := whole.clear.bare_step strictMono_id (f ticket) passive
    have stepped' := part.clear.bare_step mono ticket passive
    have start := congrArg (World.step · (id (f ticket)) step) inStep
    simp only [id, stepped', World.step_clear] at start
    simp only [id, World.step_clear] at stepped
    rw [stepped, Prod.mk.injEq] at start
    obtain ⟨same, report⟩ := start
    have after := of_bare same
    refine ⟨after.sight (fun _ => ?_) ?_, after⟩
    · have replies := congrArg Report.reply report
      exact replies
    · have finished := congrArg Report.finished report
      simpa [Report.renumber] using finished

/-- From worlds that are in step on, the steps that are kept show the same with the others and
without them. -/
theorem sights (inStep : InStep f whole part) (mono : StrictMono f) (marked : List (Step × Bool))
    (passive : ∀ step, (step, false) ∈ marked → step.isPassive = true) (first ticket : Nat)
    (places : ∀ i, f (ticket + i) = first + place marked i) :
    ofKept marked (sights whole first (marked.map (·.1)))
      = (Scenario.sights part ticket (kept marked)).map (.renumber f) := by
  induction marked generalizing whole part first ticket with
  | nil => rfl
  | cons entry rest ih =>
    obtain ⟨step, stays⟩ := entry
    have passive' (other : Step) (listed : (other, false) ∈ rest) : other.isPassive = true :=
      passive other (List.mem_cons_of_mem _ listed)
    cases stays with
    | false =>
      have after := inStep.leftOut (passive step List.mem_cons_self) first
      have later := ih after passive' (first + 1) ticket fun i => by
        rw [places i, place]
        omega
      exact later
    | true =>
      have here : f ticket = first := places 0
      obtain ⟨shown, after⟩ := inStep.made mono ticket step
      rw [here] at shown after
      have later := ih after passive' (first + 1) (ticket + 1) fun i => by
        have next := places (i + 1)
        rw [place, ← Nat.add_assoc, Nat.add_right_comm] at next
        omega
      rw [List.map_cons, sights_cons, ofKept_cons, shown, later, kept_cons, sights_cons,
        List.map_cons]

end InStep

/-- Steps that only observe can be left out of a script, or put into it, anywhere: the steps that stay
show the same. Whoever polls or subscribes takes no wake-up from a sleeping call and holds up no
write. -/
theorem observers_are_invisible (memory : Memory) (marked : List (Step × Bool))
    (passive : ∀ step, (step, false) ∈ marked → step.isPassive = true) :
    ofKept marked (sights (.fresh memory) 0 (marked.map (·.1)))
      = (sights (.fresh memory) 0 (kept marked)).map (.renumber (place marked)) := by
  have start : InStep (place marked) (.fresh memory) (.fresh memory) := rfl
  exact start.sights (strictMono_place marked) marked passive 0 0 (by simp)

/-- A reader sleeps while a waker is left with its session and somebody subscribes: the write still
lets it come back, known by the place of its step. -/
theorem observers_are_invisible_waker_beside_sleeper :
    let marked : List (Step × Bool) :=
      [(.createChannel "p" 4 none, true), (.openSession "p" "s" .readWrite false, true),
        (.subscribe "p" "e", false), (.call ⟨"s", none⟩ (.read 2), true),
        (.poll ⟨"s", none⟩ (some "w"), false), (.call ⟨"s", none⟩ (.write [7]), true),
        (.showStatus "p", true)]
    place marked 2 = 3 ∧
      (run (.fresh ⟨16, by decide⟩) 0 (marked.map (·.1))).map (·.2.finished.length)
        = [0, 0, 0, 0, 0, 1, 0] ∧
      (∀ step, (step, false) ∈ marked → step.isPassive = true) ∧
      ofKept marked (sights (.fresh ⟨16, by decide⟩) 0 (marked.map (·.1)))
        = (sights (.fresh ⟨16, by decide⟩) 0 (kept marked)).map (.renumber (place marked)) := by
  intro marked
  have passive (step : Step) (left : (step, false) ∈ marked) : step.isPassive = true := by
    simp only [marked, List.mem_cons, Prod.mk.injEq, List.not_mem_nil, Bool.false_eq_true,
      and_false, and_true, false_or, or_false] at left
    rcases left with rfl | rfl
    · rfl
    · rfl
  refine ⟨rfl, ?_, passive, observers_are_invisible ⟨16, by decide⟩ marked passive⟩
  rw [World.lengths_finished]
  decide +kernel

end BytePipe.Scenario
