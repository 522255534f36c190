import BytePipe.Proofs.System.Failures

/-!
A device set beside single channels. Whatever is asked of the devices of a set, in any order, every
device answers and looks as a channel of its own would if it were asked only what is addressed to
that device (`devices_are_independent`). The devices share nothing but the system they are listed in.
-/
namespace BytePipe

/-- What can be asked of a device: to open it by mode or by flags, to end one of its sessions as a
device handle, through its channel or by dropping it, to use a session, or anything else that its
channel does. -/
inductive DeviceRequest where
  | openMode (mode : AccessMode) (nonBlocking : Bool)
  | openFlags (flags : OpenFlags)
  | closeHandle (slot : Slot)
  | closeThrough (slot : Slot)
  | drop (slot : Slot)
  | use (slot : Slot) (op : Operation)
  | perform (op : Operation)

/-- Something that parties to a channel hear of: a call comes back or a waker is woken. -/
def Notice.isHeard : Notice → Bool
  | .ended _ _ => true
  | .woke _ => true
  | _ => false

/-- What comes of a request, and what is heard of meanwhile. -/
structure Reaction where
  outcome : Outcome
  heard : List Notice

namespace Reaction

def failed (e : ChannelError) : Reaction :=
  ⟨.failed e, []⟩

def of (outcome : Outcome) (account : List Notice) : Reaction :=
  ⟨outcome, account.filter Notice.isHeard⟩

end Reaction

namespace DeviceRequest

/-- The operation of a channel that a request comes down to, unless its flags are bad. -/
def operation : DeviceRequest → Except ChannelError Operation
  | openMode mode nonBlocking => .ok (.openSession mode nonBlocking)
  | openFlags flags => (DeviceSet.modeOfFlags flags).map (.openSession · flags.isNonBlocking)
  | closeHandle slot => .ok (.closeSession slot)
  | closeThrough slot => .ok (.closeSession slot)
  | drop slot => .ok (.dropSession slot)
  | use _ op => .ok op
  | perform op => .ok op

end DeviceRequest

namespace Channel

/-- What a single channel makes of a request. -/
def ask (memory : Memory) (ch : Channel) (request : DeviceRequest) : Channel × Reaction :=
  match request.operation with
  | .error e => (ch, .failed e)
  | .ok op =>
    let (after, outcome, account) := ch.perform memory op
    (after, .of outcome account)

/-- A single channel after requests. -/
def askAll (memory : Memory) (ch : Channel) (requests : List DeviceRequest) : Channel :=
  requests.foldl (fun ch request => (ch.ask memory request).1) ch

/-- The answer to each request, with the status after it. -/
def replies (memory : Memory) (ch : Channel) : List DeviceRequest → List (Reaction × Status)
  | [] => []
  | request :: rest =>
    let (after, reaction) := ch.ask memory request
    (reaction, after.status) :: after.replies memory rest

end Channel

namespace DeviceSet

/-- Takes over the result of opening a device. -/
def opened (s : System) : Except ChannelError (System × SessionId) → System × Reaction
  | .error e => (s, .failed e)
  | .ok (after, id) => (after, .of (.opened id.slot) [])

/-- Does something with the channel of a device. -/
def reach (ds : DeviceSet) (s : System) (minor : Nat)
    (act : ChannelId → System × Outcome × List Notice) : System × Reaction :=
  match ds.channel minor with
  | .error e => (s, .failed e)
  | .ok c =>
    let (after, outcome, account) := act c
    (after, .of outcome account)

/-- Asks the device of a minor number. Sessions are used and ended on the device's own channel. -/
def ask (ds : DeviceSet) (s : System) (minor : Nat) : DeviceRequest → System × Reaction
  | .openMode mode nonBlocking => opened s (ds.openDevice s minor mode nonBlocking)
  | .openFlags flags => opened s (ds.openWithFlags s minor flags)
  | .closeHandle slot => ds.reach s minor fun c => s.endSession ⟨c, slot⟩ .closeHandle
  | .closeThrough slot => ds.reach s minor fun c => s.endSession ⟨c, slot⟩ (.close c)
  | .drop slot => ds.reach s minor fun c => s.endSession ⟨c, slot⟩ .drop
  | .use slot op => ds.reach s minor fun c => s.performVia c ⟨c, slot⟩ op
  | .perform op => ds.reach s minor fun c => s.perform c op

/-- A system after the steps of a script, each a request to the device of a minor number. -/
def askAll (ds : DeviceSet) (s : System) (script : List (Nat × DeviceRequest)) : System :=
  script.foldl (fun s (minor, request) => (ds.ask s minor request).1) s

/-- The answer to each step of a script, with the statuses of all devices after it. -/
def replies (ds : DeviceSet) (s : System) :
    List (Nat × DeviceRequest) → List (Nat × Reaction × List Status)
  | [] => []
  | (minor, request) :: rest =>
    let (after, reaction) := ds.ask s minor request
    (minor, reaction, ds.statuses after) :: ds.replies after rest

end DeviceSet

/-- The requests of a script that are addressed to one device. -/
def requestsTo (minor : Nat) (script : List (Nat × DeviceRequest)) : List DeviceRequest :=
  (script.filter (·.1 == minor)).map (·.2)

/-- The answers that one device gives, each with its own status after it. -/
def repliesOf (minor : Nat) (replies : List (Nat × Reaction × List Status)) :
    List (Reaction × Status) :=
  replies.filterMap fun (asked, reaction, statuses) =>
    if asked = minor then statuses[minor]?.map (Prod.mk reaction) else none

namespace DeviceSet

variable {ds : DeviceSet} {s : System} {minor : Nat} {c : ChannelId} {ch : Channel}

/-- An open of a known device is an open of its channel. -/
theorem opened_openDevice (known : ds.channel minor = .ok c) (found : s.channels[c]? = some ch)
    (mode : AccessMode) (nonBlocking : Bool) :
    opened s (ds.openDevice s minor mode nonBlocking)
      = ({ s with channels :=
            s.channels.set c (ch.perform s.memory (.openSession mode nonBlocking)).1 },
          .of (ch.perform s.memory (.openSession mode nonBlocking)).2.1
            (ch.perform s.memory (.openSession mode nonBlocking)).2.2) := by
  rw [openDevice, known]
  simp only [bind, Except.bind]
  rw [System.perform_eq found]
  cases allocated : ch.ring.isAllocated with
  | true =>
    rw [Channel.perform_openSession_of_allocated s.memory mode nonBlocking allocated]
    rfl
  | false =>
    cases granted : ch.ring.allocate s.memory with
    | ok ring =>
      rw [Channel.perform_openSession_of_granted mode nonBlocking allocated granted]
      rfl
    | error e =>
      rw [Channel.perform_openSession_of_refused mode nonBlocking allocated granted,
        System.set_same found]
      rfl

theorem reach_of_found (known : ds.channel minor = .ok c) (found : s.channels[c]? = some ch)
    {act : ChannelId → System × Outcome × List Notice} {op : Operation}
    (acts : act c = s.perform c op) :
    ds.reach s minor act
      = ({ s with channels := s.channels.set c (ch.perform s.memory op).1 },
          .of (ch.perform s.memory op).2.1 (ch.perform s.memory op).2.2) := by
  rw [reach, known]
  simp only [acts]
  rw [System.perform_eq found]

/-- A known device does what its channel would do by itself, and nothing else changes. -/
theorem ask_of_found (known : ds.channel minor = .ok c) (found : s.channels[c]? = some ch)
    (request : DeviceRequest) :
    ds.ask s minor request
      = ({ s with channels := s.channels.set c (ch.ask s.memory request).1 },
          (ch.ask s.memory request).2) := by
  cases request <;> simp only [ask, Channel.ask, DeviceRequest.operation]
  case openMode mode nonBlocking => exact opened_openDevice known found mode nonBlocking
  case openFlags flags =>
    rw [openWithFlags]
    cases asked : modeOfFlags flags with
    | error e =>
      simp only [bind, Except.bind, Except.map, opened]
      rw [System.set_same found]
    | ok mode => exact opened_openDevice known found mode flags.isNonBlocking
  case closeHandle slot => exact reach_of_found known found rfl
  case closeThrough slot => exact reach_of_found known found (if_pos rfl)
  case drop slot => exact reach_of_found known found rfl
  case use slot op => exact reach_of_found known found (if_pos rfl)
  case perform op => exact reach_of_found known found rfl

/-- An unknown device does nothing; bad flags are reported first. -/
theorem ask_of_unknown (s : System) (unknown : ds.channel minor = .error (.noSuchDevice minor))
    (request : DeviceRequest) :
    ds.ask s minor request = (s, .failed (.noSuchDevice minor)) ∨
      ∃ flags e, request = .openFlags flags ∧ modeOfFlags flags = .error e ∧
        ds.ask s minor request = (s, .failed e) := by
  have unopened (mode : AccessMode) (nonBlocking : Bool) :
      opened s (ds.openDevice s minor mode nonBlocking) = (s, .failed (.noSuchDevice minor)) := by
    rw [openDevice, unknown]
    rfl
  have unreached (act : ChannelId → System × Outcome × List Notice) :
      ds.reach s minor act = (s, .failed (.noSuchDevice minor)) := by
    rw [reach, unknown]
  cases request with
  | openMode mode nonBlocking => exact .inl (unopened mode nonBlocking)
  | openFlags flags =>
    simp only [ask, openWithFlags]
    cases asked : modeOfFlags flags with
    | error e => exact .inr ⟨flags, e, rfl, asked, rfl⟩
    | ok mode => exact .inl (unopened mode flags.isNonBlocking)
  | closeHandle slot => exact .inl (unreached _)
  | closeThrough slot => exact .inl (unreached _)
  | drop slot => exact .inl (unreached _)
  | use slot op => exact .inl (unreached _)
  | perform op => exact .inl (unreached _)

/-- All devices of the set are listed in the system, each on a channel of its own. -/
structure Hosted (ds : DeviceSet) (s : System) : Prop where
  listed : ∀ c ∈ ds.channels, c < s.channels.length
  distinct : ds.channels.Nodup

theorem channel_eq_ok_iff : ds.channel minor = .ok c ↔ ds.channels[minor]? = some c := by
  unfold channel
  split
  · rename_i found
    simp [found]
  · rename_i missing
    simp [missing]

theorem channel_of_missing (missing : ds.channels[minor]? = none) :
    ds.channel minor = .error (.noSuchDevice minor) := by
  rw [channel, missing]

/-- A request to one device leaves the memory and all other channels as they are. -/
theorem Hosted.ask (hosted : Hosted ds s) (minor : Nat) (request : DeviceRequest) :
    Hosted ds (ds.ask s minor request).1 ∧ (ds.ask s minor request).1.memory = s.memory ∧
      ∀ i c, ds.channels[i]? = some c → i ≠ minor →
        (ds.ask s minor request).1.channels[c]? = s.channels[c]? := by
  cases known : ds.channels[minor]? with
  | none =>
    have still : (ds.ask s minor request).1 = s := by
      rcases ask_of_unknown s (channel_of_missing known) request with failed | ⟨_, _, -, -, failed⟩ <;>
        rw [failed]
    rw [still]
    exact ⟨hosted, rfl, fun _ _ _ _ => rfl⟩
  | some target =>
    have inside := hosted.listed target (List.mem_of_getElem? known)
    rw [ask_of_found (channel_eq_ok_iff.mpr known) (List.getElem?_eq_getElem inside)]
    refine ⟨⟨fun c member => ?_, hosted.distinct⟩, rfl, fun i c there ne => ?_⟩
    · rw [List.length_set]
      exact hosted.listed c member
    · refine List.getElem?_set_ne fun same => ne ?_
      subst same
      have inside := (List.getElem?_eq_some_iff.mp there).1
      exact (List.getElem?_inj inside hosted.distinct).mp (there.trans known.symm)

/-- The status of every device is that of its channel. -/
theorem Hosted.getElem?_statuses (hosted : Hosted ds s) (i : Nat) :
    (ds.statuses s)[i]? = ds.channels[i]?.bind fun c => s.channels[c]?.map (·.status) := by
  obtain ⟨size, channels⟩ := ds
  obtain ⟨listed, -⟩ := hosted
  simp only [statuses] at listed ⊢
  induction channels generalizing i with
  | nil => rfl
  | cons c rest ih =>
    have inside := listed c List.mem_cons_self
    rw [List.filterMap_cons, List.getElem?_eq_getElem inside]
    cases i with
    | zero => simp [inside]
    | succ i => exact ih i fun c member => listed c (List.mem_cons_of_mem _ member)

theorem requestsTo_cons (i minor : Nat) (request : DeviceRequest)
    (script : List (Nat × DeviceRequest)) :
    requestsTo i ((minor, request) :: script)
      = if minor = i then request :: requestsTo i script else requestsTo i script := by
  by_cases own : minor = i
  · simp [requestsTo, own]
  · simp [requestsTo, own]

/-- What a step does to the channel of one device. -/
theorem Hosted.ask_channel (hosted : Hosted ds s) {i : Nat} (member : ds.channels[i]? = some c)
    (found : s.channels[c]? = some ch) (minor : Nat) (request : DeviceRequest) :
    (ds.ask s minor request).1.channels[c]?
      = some (if minor = i then (ch.ask s.memory request).1 else ch) := by
  by_cases own : minor = i
  · subst own
    have inside := (List.getElem?_eq_some_iff.mp found).1
    rw [if_pos rfl, ask_of_found (channel_eq_ok_iff.mpr member) found]
    exact List.getElem?_set_self inside
  · rw [if_neg own, (hosted.ask minor request).2.2 i c member (Ne.symm own), found]

/-- After any script a device is where its channel would be after the requests addressed to it. -/
theorem Hosted.askAll (hosted : Hosted ds s) {i : Nat} (member : ds.channels[i]? = some c)
    (found : s.channels[c]? = some ch) (script : List (Nat × DeviceRequest)) :
    Hosted ds (ds.askAll s script) ∧ (ds.askAll s script).memory = s.memory ∧
      (ds.askAll s script).channels[c]? = some (ch.askAll s.memory (requestsTo i script)) := by
  induction script generalizing s ch with
  | nil => exact ⟨hosted, rfl, found⟩
  | cons step rest ih =>
    obtain ⟨minor, request⟩ := step
    obtain ⟨still, memory, -⟩ := hosted.ask minor request
    obtain ⟨after, same, channel⟩ := ih still (hosted.ask_channel member found minor request)
    refine ⟨after, same.trans memory, channel.trans (congrArg some ?_)⟩
    rw [memory, requestsTo_cons]
    split <;> rfl

/-- Over any script a device gives the answers, and shows the statuses, that its channel would give
and show to the requests addressed to it. -/
theorem Hosted.replies (hosted : Hosted ds s) {i : Nat} (member : ds.channels[i]? = some c)
    (found : s.channels[c]? = some ch) (script : List (Nat × DeviceRequest)) :
    repliesOf i (ds.replies s script) = ch.replies s.memory (requestsTo i script) := by
  induction script generalizing s ch with
  | nil => rfl
  | cons step rest ih =>
    obtain ⟨minor, request⟩ := step
    obtain ⟨still, memory, -⟩ := hosted.ask minor request
    have channel := hosted.ask_channel member found minor request
    have later := ih still channel
    have status := still.getElem?_statuses i
    rw [member, Option.bind_some, channel, Option.map_some] at status
    rw [memory] at later
    rw [DeviceSet.replies, repliesOf, List.filterMap_cons, requestsTo_cons]
    by_cases own : minor = i
    · subst own
      rw [if_pos rfl] at status later ⊢
      simp only [status, if_true, Option.map_some]
      rw [Channel.replies, ask_of_found (channel_eq_ok_iff.mpr member) found] at *
      exact congrArg _ later
    · rw [if_neg own] at later ⊢
      simp only [if_neg own]
      exact later

/-- The devices of a configuration are new channels of one size, named after their minor numbers. -/
theorem hosted_install {config : PipeConfig} {start : System} {devices : DeviceSet}
    (installed : install s config = .ok (start, devices)) :
    Hosted devices start ∧ devices.channels.length = config.devices ∧ 2 ≤ config.bufferSize ∧
      ∀ i, i < config.devices → ∃ c, devices.channels[i]? = some c ∧
        start.channels[c]? = some (.named (channelName i) config.bufferSize) := by
  unfold install channelsFor at installed
  cases checked : config.validate with
  | error e => rw [checked] at installed; cases installed
  | ok valid =>
    rw [checked] at installed
    obtain ⟨rfl, -, size⟩ := (PipeConfig.validate_eq_ok_iff _ _).mp checked
    cases installed
    refine ⟨⟨fun c member => ?_, ?_⟩, ?_, size, fun i inside => ⟨s.channels.length + i, ?_, ?_⟩⟩
    · simp only [List.mem_map, List.mem_range, List.length_map, List.length_range,
        List.length_append] at member ⊢
      obtain ⟨minor, inside, rfl⟩ := member
      exact Nat.add_lt_add_left inside _
    · exact List.Pairwise.map _ (fun a b ne same => ne (Nat.add_left_cancel same)) List.nodup_range
    · simp
    · simp [inside]
    · rw [List.getElem?_append_right (Nat.le_add_right _ _)]
      simp [inside]

end DeviceSet

/-- Every device of a set behaves as a channel of its own. For any script of requests to the devices,
a device gives the answers and shows the statuses that a single channel of its name and size gives
and shows to the requests addressed to it, and is left as that channel is. A request to any other
device changes nothing of it, and a request to a minor number beyond the last device fails and
changes nothing at all. -/
theorem devices_are_independent {s start : System} {config : PipeConfig} {devices : DeviceSet}
    (installed : DeviceSet.install s config = .ok (start, devices)) :
    (∀ i, i < config.devices →
      ∃ c alone, devices.channels[i]? = some c ∧
        Channel.create? (DeviceSet.channelName i) config.bufferSize = .ok alone ∧
        ∀ script,
          repliesOf i (devices.replies start script)
            = alone.replies start.memory (requestsTo i script) ∧
          (devices.askAll start script).channels[c]?
            = some (alone.askAll start.memory (requestsTo i script)) ∧
          (devices.statuses (devices.askAll start script))[i]?
            = some (alone.askAll start.memory (requestsTo i script)).status ∧
          ∀ minor request, minor ≠ i →
            (devices.askAll start (script ++ [(minor, request)])).channels[c]?
              = (devices.askAll start script).channels[c]?) ∧
    (∀ script minor request, config.devices ≤ minor →
      (devices.ask (devices.askAll start script) minor request).1
        = devices.askAll start script ∧
      ((devices.ask (devices.askAll start script) minor request).2 = .failed (.noSuchDevice minor) ∨
        ∃ flags e, request = .openFlags flags ∧ DeviceSet.modeOfFlags flags = .error e ∧
          (devices.ask (devices.askAll start script) minor request).2 = .failed e)) := by
  obtain ⟨hosted, count, size, each⟩ := DeviceSet.hosted_install installed
  refine ⟨fun i inside => ?_, fun script minor request beyond => ?_⟩
  · obtain ⟨c, member, found⟩ := each i inside
    refine ⟨c, _, member, if_neg (by omega), fun script => ?_⟩
    obtain ⟨still, -, channel⟩ := hosted.askAll member found script
    refine ⟨hosted.replies member found script, channel, ?_, fun minor request ne => ?_⟩
    · rw [still.getElem?_statuses, member, Option.bind_some, channel]
      rfl
    · rw [DeviceSet.askAll, List.foldl_append]
      exact (still.ask minor request).2.2 i c member (Ne.symm ne)
  · have missing : devices.channels[minor]? = none := List.getElem?_eq_none (by omega)
    rcases DeviceSet.ask_of_unknown (devices.askAll start script)
      (DeviceSet.channel_of_missing missing) request with failed | ⟨flags, e, made, bad, failed⟩ <;>
      rw [failed]
    · exact ⟨rfl, .inl rfl⟩
    · exact ⟨rfl, .inr ⟨flags, e, made, bad, rfl⟩⟩

/-- A reader sleeps on the first of two devices while the second one is written to; there is no third
one. -/
theorem devices_are_independent_sleeping_reader :
    ∃ (start : System) (devices : DeviceSet) (c : ChannelId) (alone : Channel),
      DeviceSet.install (.empty ⟨64, by decide⟩) .small = .ok (start, devices) ∧
      0 < PipeConfig.small.devices ∧ devices.channels[0]? = some c ∧
      (alone.askAll start.memory
        [.openMode .readWrite false, .use 0 (.call ⟨2, 0, .read 1⟩)]).asleep = 1 ∧
      repliesOf 0 (devices.replies start
        [(0, .openMode .readWrite false), (1, .openFlags 1), (0, .use 0 (.call ⟨2, 0, .read 1⟩)),
          (1, .use 0 (.call ⟨3, 0, .write [7]⟩)), (0, .use 0 (.call ⟨4, 0, .write [8]⟩))])
        = alone.replies start.memory
          [.openMode .readWrite false, .use 0 (.call ⟨2, 0, .read 1⟩),
            .use 0 (.call ⟨4, 0, .write [8]⟩)] ∧
      PipeConfig.small.devices ≤ 2 ∧ (devices.ask start 2 (.openFlags 1)).1 = start := by
  have installed : DeviceSet.install (.empty ⟨64, by decide⟩) .small = .ok _ := rfl
  obtain ⟨each, beyond⟩ := devices_are_independent installed
  obtain ⟨c, alone, member, created, same⟩ := each 0 (by decide)
  refine ⟨_, _, c, alone, installed, by decide, member, ?_, (same _).1, by decide,
    (beyond [] 2 (.openFlags 1) (by decide)).1⟩
  obtain rfl := (Except.ok.inj created).symm
  rfl

end BytePipe
