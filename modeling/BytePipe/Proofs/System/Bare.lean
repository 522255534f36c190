import BytePipe.DeviceSet
import BytePipe.Proofs.Channel.Bare
import BytePipe.Proofs.System.Sessions

/-!
A system without the observers of its channels. Every operation on a channel, with a session or on a
device comes to the same on the bare system, as it does on a bare channel.
-/
namespace BytePipe

variable {f : Nat → Nat}

def System.bare (f : Nat → Nat) (s : System) : System :=
  { s with channels := s.channels.map (Channel.bare f) }

namespace System

variable (s : System) {op : Operation}

@[simp] theorem getElem?_bare (c : ChannelId) :
    (s.bare f).channels[c]? = s.channels[c]?.map (Channel.bare f) := by
  simp [bare]

@[simp] theorem channelName_bare (c : ChannelId) : (s.bare f).channelName c = s.channelName c := by
  simp [channelName, Function.comp_def, Channel.bare]

theorem bare_perform (inj : Function.Injective f) (other : op.subscribes = false) (c : ChannelId) :
    (s.bare f).perform c (op.relabel f)
      = ((s.perform c op).1.bare f, (s.perform c op).2.1,
        (s.perform c op).2.2.filterMap (Notice.bare? f)) := by
  cases found : s.channels[c]? with
  | none => simp [perform, found]
  | some ch =>
    have performed := Channel.bare_perform s.memory ch inj other
    have memory : (s.bare f).memory = s.memory := rfl
    simp [perform, found, memory, performed]
    simp [bare, List.map_set]

theorem bare_perform_of_observes (inj : Function.Injective f) (observes : op.observes = true)
    (c : ChannelId) : (s.perform c op).1.bare f = s.bare f ∧ (s.perform c op).2.2 = [] := by
  unfold perform
  split
  · exact ⟨rfl, rfl⟩
  · rename_i ch found
    obtain ⟨same, silent⟩ := Channel.bare_perform_of_observes s.memory ch inj observes
    have bare : (s.bare f).channels[c]? = some ((ch.perform s.memory op).1.bare f) := by
      simp [found, same]
    have kept := set_same bare
    refine ⟨?_, silent⟩
    rw [← kept]
    simp [System.bare, List.map_set]

theorem bare_performVia (inj : Function.Injective f) (other : op.subscribes = false)
    (via : ChannelId) (id : SessionId) :
    (s.bare f).performVia via id (op.relabel f)
      = ((s.performVia via id op).1.bare f, (s.performVia via id op).2.1,
        (s.performVia via id op).2.2.filterMap (Notice.bare? f)) := by
  unfold performVia
  split
  · exact bare_perform s inj other via
  · simp

theorem bare_performVia_of_observes (inj : Function.Injective f) (observes : op.observes = true)
    (via : ChannelId) (id : SessionId) :
    (s.performVia via id op).1.bare f = s.bare f ∧ (s.performVia via id op).2.2 = [] := by
  unfold performVia
  split
  · exact bare_perform_of_observes s inj observes via
  · exact ⟨rfl, rfl⟩

theorem bare_endSession (inj : Function.Injective f) (id : SessionId) (how : Ending) :
    (s.bare f).endSession id how
      = ((s.endSession id how).1.bare f, (s.endSession id how).2.1,
        (s.endSession id how).2.2.filterMap (Notice.bare? f)) := by
  have closes : (Operation.closeSession id.slot).subscribes = false := rfl
  have drops : (Operation.dropSession id.slot).subscribes = false := rfl
  have closed (c : ChannelId) := bare_perform s inj closes c
  have dropped (c : ChannelId) := bare_perform s inj drops c
  cases how with
  | close via =>
    unfold endSession
    dsimp only
    split
    · exact closed via
    · exact dropped id.channel
  | closeHandle => exact closed id.channel
  | drop => exact dropped id.channel

end System

namespace DeviceSet

variable (ds : DeviceSet) (s : System)

theorem bare_install (c : PipeConfig) :
    install (s.bare f) c = (install s c).map fun (after, ds) => (after.bare f, ds) := by
  unfold install
  cases described : channelsFor c with
  | error e => rfl
  | ok channels =>
    have named : channels.map (Channel.bare f) = channels := by
      rw [List.map_congr_left (g := id), List.map_id]
      intro ch listed
      obtain ⟨name, capacity, -, rfl⟩ := System.named_of_channelsFor described ch listed
      rfl
    simp [bind, Except.bind, pure, Except.pure, Except.map, System.bare, named]

theorem bare_openDevice (inj : Function.Injective f) (minor : Nat) (mode : AccessMode)
    (nonBlocking : Bool) :
    ds.openDevice (s.bare f) minor mode nonBlocking
      = (ds.openDevice s minor mode nonBlocking).map fun (after, id) => (after.bare f, id) := by
  have opens : (Operation.openSession mode nonBlocking).subscribes = false := rfl
  unfold openDevice
  cases ds.channel minor with
  | error e => rfl
  | ok c =>
    have performed := System.bare_perform s inj opens c
    change (s.bare f).perform c (.openSession mode nonBlocking) = _ at performed
    simp only [bind, Except.bind, performed]
    obtain ⟨after, outcome, account⟩ := s.perform c (.openSession mode nonBlocking)
    cases outcome <;> rfl

theorem bare_openWithFlags (inj : Function.Injective f) (minor : Nat) (flags : OpenFlags) :
    ds.openWithFlags (s.bare f) minor flags
      = (ds.openWithFlags s minor flags).map fun (after, id) => (after.bare f, id) := by
  unfold openWithFlags
  cases modeOfFlags flags with
  | error e => rfl
  | ok mode => exact bare_openDevice ds s inj minor mode flags.isNonBlocking

end DeviceSet

end BytePipe
