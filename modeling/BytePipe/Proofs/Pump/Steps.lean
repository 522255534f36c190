import BytePipe.Proofs.Channel.Endings
import BytePipe.Pump

/-!
The schedules of a pump, and once what a step of one worker can do (`Stepped`). A step changes one
worker, or one worker and the sleeper it wakes; a sum over all workers changes by what these
contribute (`sum_set`). To the channel a worker does what any call does (`channel_transfer`,
`channel_sleep`), only that its wake-up comes later.
-/
namespace BytePipe

namespace Work

/-- No call is left to make. -/
def isDone : Work → Bool
  | produce pieces => pieces.isEmpty
  | consume owed => owed == 0

/-- What the session of a worker is opened for. -/
def mode : Work → AccessMode
  | produce _ => .writeOnly
  | consume _ => .readOnly

theorem permits_mode (work : Work) : work.mode.permits work.direction = true := by
  cases work <;> rfl

theorem request?_isSome (work : Work) (readSize : Nat) :
    (work.request? readSize).isSome = !work.isDone := by
  cases work with
  | produce pieces => cases pieces <;> rfl
  | consume owed => cases owed <;> rfl

theorem direction_of_request? {work : Work} {readSize : Nat} {r : Request}
    (asks : work.request? readSize = some r) : r.direction = work.direction := by
  cases work with
  | produce pieces =>
    cases pieces with
    | nil => cases asks
    | cons piece later => obtain rfl := Option.some.inj asks; rfl
  | consume owed =>
    cases owed with
    | zero => cases asks
    | succ owed => obtain rfl := Option.some.inj asks; rfl

end Work

theorem sum_set {α : Type} (f : α → Nat) {l : List α} {i : Nat} {old : α} (found : l[i]? = some old)
    (new : α) : ((l.set i new).map f).sum + f old = (l.map f).sum + f new := by
  induction l generalizing i with
  | nil => cases found
  | cons head tail ih =>
    cases i with
    | zero =>
      obtain rfl := Option.some.inj found
      simp only [List.set_cons_zero, List.map_cons, List.sum_cons]
      omega
    | succ i =>
      have rest := ih (i := i) found
      simp only [List.set_cons_succ, List.map_cons, List.sum_cons]
      omega

theorem modify_eq_set {α : Type} {l : List α} {i : Nat} {a : α} (found : l[i]? = some a)
    (f : α → α) : l.modify i f = l.set i (f a) := by
  obtain ⟨inside, rfl⟩ := List.getElem?_eq_some_iff.mp found
  apply List.ext_getElem?
  intro j
  rw [List.getElem?_modify, List.getElem?_set]
  by_cases chosen : i = j
  · subst chosen
    simp [inside]
  · simp [chosen]

theorem getElem?_set_cases {α : Type} {l : List α} {i j : Nat} {a b : α}
    (is : (l.set i a)[j]? = some b) : (i = j ∧ a = b) ∨ (i ≠ j ∧ l[j]? = some b) := by
  rw [List.getElem?_set] at is
  by_cases same : i = j
  · rw [if_pos same] at is
    split at is
    · exact .inl ⟨same, Option.some.inj is⟩
    · contradiction
  · rw [if_neg same] at is
    exact .inr ⟨same, is⟩

theorem map_set_of_eq {α β : Type} (f : α → β) {l : List α} {i : Nat} {old new : α}
    (found : l[i]? = some old) (same : f new = f old) : (l.set i new).map f = l.map f := by
  obtain ⟨inside, rfl⟩ := List.getElem?_eq_some_iff.mp found
  rw [List.map_set, same]
  apply List.ext_getElem?
  intro j
  rw [List.getElem?_set]
  by_cases chosen : i = j
  · subst chosen
    simp [inside]
  · simp [chosen]

namespace Pump

/-- A sum over the workers. -/
def sum (p : Pump) (f : Worker → Nat) : Nat :=
  (p.workers.map f).sum

/-- A schedule leads from one state to another by steps that are possible. -/
inductive Schedule (memory : Memory) (p : Pump) : List PumpAction → Pump → Prop where
  | start : Schedule memory p [] p
  | step {actions : List PumpAction} {q : Pump} (action : PumpAction)
    (before : Schedule memory p actions q) (enabled : q.enabled action = true) :
    Schedule memory p (actions ++ [action]) (q.apply memory action)

/-- What becomes of a pump in one step: a worker takes bytes or puts some in and owes a wake-up,
falls asleep, pays the wake-up it owes to nobody or to a sleeper, or leaves when it is done. -/
inductive Stepped (memory : Memory) (p : Pump) : Pump → Prop where
  | took {i slot owed : Nat} (found : p.workers[i]? = some ⟨slot, .consume (owed + 1), .running⟩)
    (nonempty : p.channel.ring.isEmpty = false) :
    Stepped memory p
      (p.transfer i ⟨slot, .consume (owed + 1), .running⟩ (.read (min p.readSize (owed + 1))))
  | put {i slot : Nat} {piece : List UInt8} {later : List (List UInt8)}
    (found : p.workers[i]? = some ⟨slot, .produce (piece :: later), .running⟩)
    (room : 0 < p.channel.ring.free) :
    Stepped memory p (p.transfer i ⟨slot, .produce (piece :: later), .running⟩ (.write piece))
  | slept {i : Nat} {w : Worker} {r : Request} (found : p.workers[i]? = some w)
    (running : w.phase = .running) (asks : w.work.request? p.readSize = some r)
    (unready : p.channel.ready r.direction = false) : Stepped memory p (p.sleep i w r)
  | told {i : Nat} {w : Worker} (found : p.workers[i]? = some w) (notifying : w.phase = .notifying)
    (nobody : p.sleepersFor w = []) : Stepped memory p (p.setWorker i { w with phase := .running })
  | woke {i : Nat} {w : Worker} {c : Call} (found : p.workers[i]? = some w)
    (notifying : w.phase = .notifying) (asleep : c ∈ p.sleepersFor w) :
    Stepped memory p
      ((p.setWorker i { w with phase := .running }).wake w.work.direction.opposite c.ticket)
  | left {i : Nat} {w : Worker} (found : p.workers[i]? = some w) (running : w.phase = .running)
    (done : w.work.isDone = true) :
    Stepped memory p
      (setWorker { p with channel := (p.channel.perform memory (.closeSession w.slot)).1 } i
        { w with phase := .gone })

variable {memory : Memory} {p : Pump}

/-- A worker moves bytes as any call of its session does, before it wakes anybody. -/
theorem channel_transfer (p : Pump) (i : Nat) (w : Worker) (r : Request) :
    (p.transfer i w r).channel = ((Turn.start p.channel).served ⟨i, w.slot, r⟩).channel := by
  cases r with
  | read length => rfl
  | write data => rfl

/-- A worker falls asleep as any call of its session does. -/
theorem channel_sleep (p : Pump) (i : Nat) (w : Worker) (r : Request) :
    (p.sleep i w r).channel = ((Turn.start p.channel).sleep ⟨i, w.slot, r⟩).channel :=
  rfl

theorem stepped_enter {i : Nat} {w : Worker} {r : Request} (found : p.workers[i]? = some w)
    (running : w.phase = .running) (asks : w.work.request? p.readSize = some r) :
    Stepped memory p
      (if p.channel.ready r.direction then p.transfer i w r else p.sleep i w r) := by
  split
  · rename_i ready
    obtain ⟨slot, work, phase⟩ := w
    obtain rfl : phase = .running := running
    cases work with
    | produce pieces =>
      cases pieces with
      | nil => cases asks
      | cons piece later =>
        obtain rfl := Option.some.inj asks
        exact .put found (of_decide_eq_true ready)
    | consume owed =>
      cases owed with
      | zero => cases asks
      | succ owed =>
        obtain rfl := Option.some.inj asks
        exact .took found (Channel.isEmpty_of_ready ready)
  · rename_i unready
    exact .slept found running asks (by simpa using unready)

theorem stepped_apply {action : PumpAction} (enabled : p.enabled action = true) :
    Stepped memory p (p.apply memory action) := by
  cases action with
  | enter i =>
    simp only [Pump.enabled, Option.any_eq_true, Bool.and_eq_true, decide_eq_true_eq] at enabled
    obtain ⟨w, found, running, some⟩ := enabled
    obtain ⟨r, asks⟩ := Option.isSome_iff_exists.mp some
    simp only [apply, found, asks]
    exact stepped_enter found running asks
  | notify i sleeper =>
    cases sleeper with
    | none =>
      simp only [Pump.enabled, Option.any_eq_true, Bool.and_eq_true, decide_eq_true_eq] at enabled
      obtain ⟨w, found, notifying, nobody⟩ := enabled
      simp only [apply, found]
      exact .told found notifying (List.isEmpty_iff.mp nobody)
    | some j =>
      simp only [Pump.enabled, Option.any_eq_true, Bool.and_eq_true, decide_eq_true_eq,
        List.any_eq_true, beq_iff_eq] at enabled
      obtain ⟨w, found, notifying, c, asleep, rfl⟩ := enabled
      simp only [apply, found]
      exact .woke found notifying asleep
  | leave i =>
    simp only [Pump.enabled, Option.any_eq_true, Bool.and_eq_true, decide_eq_true_eq] at enabled
    obtain ⟨w, found, running, none⟩ := enabled
    have done : w.work.isDone = true := by
      have some := w.work.request?_isSome p.readSize
      rw [Option.isNone_iff_eq_none.mp none] at some
      simpa using some
    simp only [apply, found]
    exact .left found running done

end Pump

end BytePipe
