import BytePipe.Proofs.Channel.Registrations
import BytePipe.Proofs.Task.Polling

/-!
Which endpoint decides a wait on several. A scan goes through the endpoints in order and leaves the
waker with the channel of each, until one is foreign or has something of interest to offer
(`System.decides`); what a scan has done so far is said by the channels it has been to
(`System.watching`), whatever their order and however often it came by.
-/
namespace BytePipe

/-- The endpoint's session belongs to the channel it is used through. -/
def Endpoint.isOwn (e : Endpoint) : Bool :=
  e.via == e.session.channel

namespace Channel

variable {ch after : Channel} {w : Waker}

/-- The channel as it was, but for one waker, which is now on both queues, and once on each. -/
structure Watched (w : Waker) (ch after : Channel) : Prop where
  once : ∀ d, (after.queue d).observers.count w = 1
  others : ∀ d, ∀ v ≠ w, (after.queue d).observers.count v = (ch.queue d).observers.count v
  sleepers : ∀ d, after.sleepers d = ch.sleepers d
  rest : after = { ch with readQueue := after.readQueue, writeQueue := after.writeQueue }

theorem queue_registered (w : Waker) (ch : Channel) (d : Direction) :
    (ch.registered w).queue d = (ch.queue d).register w := by
  cases d <;> rfl

theorem registered_registered (w : Waker) (ch : Channel) :
    (ch.registered w).registered w = ch.registered w := by
  have again (q : WaitQueue) : (q.register w).register w = q.register w := by
    rw [WaitQueue.register, if_pos (q.mem_register w)]
  change { ch with
    readQueue := (ch.readQueue.register w).register w
    writeQueue := (ch.writeQueue.register w).register w } = ch.registered w
  rw [again, again]
  rfl

theorem watched_registered (nodup : ∀ d, (ch.queue d).observers.Nodup) (w : Waker) :
    Watched w ch (ch.registered w) where
  once d := by
    rw [queue_registered, (WaitQueue.nodup_register (nodup d) w).count,
      if_pos (WaitQueue.mem_register _ w)]
  others d v other := by
    rw [queue_registered, WaitQueue.register]
    split
    · rfl
    · rw [List.count_append, List.count_singleton, beq_false_of_ne (Ne.symm other)]
      rfl
  sleepers d := by
    rw [Channel.sleepers, queue_registered, WaitQueue.sleepers_register, Channel.sleepers]
  rest := rfl

end Channel

namespace System

variable {s : System} {w : Waker} {c : ChannelId} {ch : Channel} {watched : List ChannelId}

/-- The system with a waker registered with some of its channels. -/
def watching (s : System) (w : Waker) (watched : List ChannelId) : System :=
  { s with
    channels := s.channels.mapIdx fun c ch => if c ∈ watched then ch.registered w else ch }

theorem channels_watching (s : System) (w : Waker) (watched : List ChannelId) (c : ChannelId) :
    (s.watching w watched).channels[c]?
      = s.channels[c]?.map fun ch => if c ∈ watched then ch.registered w else ch :=
  List.getElem?_mapIdx

theorem watching_nil (s : System) (w : Waker) : s.watching w [] = s := by
  have same : s.channels.mapIdx (fun c ch => if c ∈ [] then ch.registered w else ch) = s.channels :=
    List.ext_getElem? fun c => by simp
  rw [watching, same]

/-- A waker that is registered with one more channel, or with the same one again. -/
theorem watching_concat (found : s.channels[c]? = some ch) {before : Channel}
    (there : (s.watching w watched).channels[c]? = some before) :
    { s.watching w watched with
        channels := (s.watching w watched).channels.set c (before.registered w) }
      = s.watching w (watched ++ [c]) := by
  have inside := (List.getElem?_eq_some_iff.mp there).1
  have registered : before.registered w = ch.registered w := by
    rw [channels_watching, found, Option.map_some] at there
    obtain rfl := Option.some.inj there
    split
    · exact ch.registered_registered w
    · rfl
  have same : (s.watching w watched).channels.set c (before.registered w)
      = (s.watching w (watched ++ [c])).channels := by
    refine List.ext_getElem? fun other => ?_
    rw [List.getElem?_set, channels_watching, channels_watching]
    by_cases own : c = other
    · subst own
      rw [if_pos rfl, if_pos inside, found, registered]
      simp
    · have absent : (other ∈ watched ++ [c]) = (other ∈ watched) := by simp [Ne.symm own]
      rw [if_neg own]
      simp only [absent]
  rw [same]
  rfl

theorem channelName_watching (s : System) (w : Waker) (watched : List ChannelId) (c : ChannelId) :
    (s.watching w watched).channelName c = s.channelName c := by
  rw [channelName, channels_watching, channelName, Option.map_map]
  congr 2
  funext ch
  simp only [Function.comp_apply]
  split <;> rfl

/-- The endpoint ends a wait: its session belongs to another channel, or its channel has something
of interest to offer. -/
def decides (s : System) (interest : Readiness) (e : Endpoint) : Bool :=
  !e.isOwn || s.channels[e.via]?.any (·.readiness.intersects interest)

/-- What the endpoint at an index answers when it decides a wait: a failure that names both channels,
or the index and all that its channel is ready for. -/
inductive Answers (s : System) (index : Nat) (e : Endpoint) :
    Except ChannelError TaskValue → Prop where
  | foreign (foreign : e.isOwn = false) :
    Answers s index e
      (.error (.foreignSession (s.channelName e.session.channel) (s.channelName e.via)))
  | chosen (ch : Channel) (own : e.isOwn = true) (found : s.channels[e.via]? = some ch) :
    Answers s index e (.ok (.chosen index ch.readiness))

/-- The endpoint's session is open: a session that is borrowed stays so. -/
def Holds (s : System) (e : Endpoint) : Prop :=
  ∃ ch, s.channels[e.session.channel]? = some ch ∧ (ch.openSession? e.session.slot).isSome = true

/-- A channel that a waker is registered with differs in nothing else, and no other channel does. -/
theorem Reached.watched_channels {memory : Memory} {most : Nat} {history : History}
    (reached : Reached memory most s history) (w : Waker) (watched : List ChannelId)
    (found : s.channels[c]? = some ch) :
    ∃ after, (s.watching w watched).channels[c]? = some after ∧
      if c ∈ watched then ch.Watched w after else after = ch := by
  obtain ⟨peak, t, life, -, -, same, -⟩ := reached.living.lived c ch found
  refine ⟨_, by rw [channels_watching, found]; rfl, ?_⟩
  dsimp only
  split
  · exact Channel.watched_registered (same ▸ life.nodup_observers) w
  · rfl

end System

namespace Poller

variable {s : System} {e : Endpoint} {interest : Readiness} (w : Waker) (ticket : Nat)
  (told : List Notice)

theorem check_foreign (p : Poller) (foreign : e.isOwn = false) :
    p.check e = (p, .error (.foreignSession (p.system.channelName e.session.channel)
      (p.system.channelName e.via))) := by
  have ne : e.via ≠ e.session.channel := by simpa [Endpoint.isOwn] using foreign
  rw [check, perform, System.performVia_foreign _ ne]
  simp only [List.append_nil]

/-- A look at an endpoint tells the readiness that its channel had to begin with. -/
theorem check_watching (watched : List ChannelId) (held : s.Holds e) (own : e.isOwn = true) :
    ∃ ch, s.channels[e.via]? = some ch ∧
      Poller.check ⟨s.watching w watched, w, ticket, told⟩ e
        = (⟨s.watching w (watched ++ [e.via]), w, ticket, told⟩, .ok ch.readiness) := by
  obtain ⟨ch, found, isOpen⟩ := held
  obtain ⟨session, isOpen⟩ := Option.isSome_iff_exists.mp isOpen
  have same : e.via = e.session.channel := by simpa [Endpoint.isOwn] using own
  refine ⟨ch, same ▸ found, ?_⟩
  obtain ⟨before, there, openThere, readiness⟩ : ∃ before,
      (s.watching w watched).channels[e.session.channel]? = some before ∧
        before.openSession? e.session.slot = some session ∧ before.readiness = ch.readiness := by
    refine ⟨_, by rw [System.channels_watching, found]; rfl, ?_, ?_⟩ <;>
      · dsimp only
        split
        · first | exact isOpen | rfl
        · first | exact isOpen | rfl
  rw [check_of_open (p := ⟨s.watching w watched, w, ticket, told⟩) same there openThere, readiness,
    registering, same]
  simp only [System.watching_concat found there]

/-- A scan goes past what does not decide, and registers its waker there. -/
theorem scan_past (watched : List ChannelId) {before : List Endpoint}
    (held : ∀ e ∈ before, s.Holds e)
    (undecided : ∀ e ∈ before, s.decides interest e = false) (index : Nat) (rest : List Endpoint) :
    Poller.scan ⟨s.watching w watched, w, ticket, told⟩ interest index (before ++ rest)
      = Poller.scan ⟨s.watching w (watched ++ before.map (·.via)), w, ticket, told⟩ interest
        (index + before.length) rest := by
  induction before generalizing watched index with
  | nil => simp
  | cons e before ih =>
    have heldHere := held e List.mem_cons_self
    have passed := undecided e List.mem_cons_self
    obtain ⟨own, nothing⟩ := Bool.or_eq_false_iff.mp passed
    obtain ⟨ch, found, check⟩ := check_watching w ticket told watched heldHere
      (by simpa using own)
    rw [found, Option.any_some] at nothing
    rw [List.cons_append, scan, check]
    simp only [nothing, if_neg Bool.false_ne_true]
    rw [ih _ (fun e listed => held e (List.mem_cons_of_mem _ listed))
      (fun e listed => undecided e (List.mem_cons_of_mem _ listed)), List.map_cons,
      List.length_cons, List.append_assoc, Nat.add_assoc, Nat.add_comm 1]
    rfl

/-- A scan that comes to a foreign session fails with it. -/
theorem scan_foreign {before : List Endpoint} (after : List Endpoint)
    (held : ∀ e ∈ before, s.Holds e)
    (undecided : ∀ e ∈ before, s.decides interest e = false) (foreign : e.isOwn = false) :
    Poller.scan ⟨s, w, ticket, told⟩ interest 0 (before ++ e :: after)
      = (⟨s.watching w (before.map (·.via)), w, ticket, told⟩,
        some (.error (.foreignSession (s.channelName e.session.channel) (s.channelName e.via)))) := by
  have past := scan_past w ticket told [] held undecided 0 (e :: after)
  rw [System.watching_nil, List.nil_append] at past
  rw [past, scan, check_foreign _ foreign, System.channelName_watching, System.channelName_watching]

/-- A scan that comes to an endpoint of interest chooses it. -/
theorem scan_ready {before : List Endpoint} (after : List Endpoint)
    (held : ∀ e ∈ before, s.Holds e)
    (undecided : ∀ e ∈ before, s.decides interest e = false) (heldHere : s.Holds e)
    (own : e.isOwn = true) (decided : s.decides interest e = true) :
    ∃ ch, s.channels[e.via]? = some ch ∧
      Poller.scan ⟨s, w, ticket, told⟩ interest 0 (before ++ e :: after)
        = (⟨s.watching w (before.map (·.via) ++ [e.via]), w, ticket, told⟩,
          some (.ok (.chosen before.length ch.readiness))) := by
  have past := scan_past w ticket told [] held undecided 0 (e :: after)
  obtain ⟨ch, found, check⟩ := check_watching w ticket told (before.map (·.via)) heldHere own
  have interesting : ch.readiness.intersects interest = true := by
    rw [System.decides, own, found] at decided
    exact decided
  rw [System.watching_nil, List.nil_append, Nat.zero_add] at past
  refine ⟨ch, found, ?_⟩
  rw [past, scan, check]
  simp only [interesting, if_true]

theorem scan_undecided {endpoints : List Endpoint} (held : ∀ e ∈ endpoints, s.Holds e)
    (undecided : ∀ e ∈ endpoints, s.decides interest e = false) :
    Poller.scan ⟨s, w, ticket, told⟩ interest 0 endpoints
      = (⟨s.watching w (endpoints.map (·.via)), w, ticket, told⟩, none) := by
  have past := scan_past w ticket told [] held undecided 0 []
  rw [System.watching_nil, List.nil_append, List.append_nil] at past
  rw [past, scan]

/-- Endpoints that do not decide are no foreign ones. -/
theorem filter_isOwn_of_undecided {before : List Endpoint}
    (undecided : ∀ e ∈ before, s.decides interest e = false) :
    before.filter (·.isOwn) = before :=
  List.filter_eq_self.mpr fun e listed => by
    simpa using (Bool.or_eq_false_iff.mp (undecided e listed)).1

theorem poll_waitAny_of_first {before : List Endpoint} (after : List Endpoint)
    (held : ∀ b ∈ before, s.Holds b)
    (undecided : ∀ b ∈ before, s.decides interest b = false) (heldHere : s.Holds e)
    (decided : s.decides interest e = true) (waiting : Bool) :
    ∃ result, s.Answers before.length e result ∧
      Poller.poll ⟨s, w, ticket, told⟩ ⟨.waitAny (before ++ e :: after) interest, waiting⟩
        = (⟨s.watching w (((before ++ [e]).filter (·.isOwn)).map (·.via)), w, ticket, told⟩,
          .resolved result) := by
  rw [List.filter_append, filter_isOwn_of_undecided undecided]
  cases own : e.isOwn with
  | false =>
    have scanned := scan_foreign w ticket told after held undecided own
    refine ⟨_, .foreign own, ?_⟩
    simp only [poll, scanned, List.filter_cons, own, List.filter_nil, List.append_nil,
      if_neg Bool.false_ne_true]
  | true =>
    obtain ⟨ch, found, scanned⟩ := scan_ready w ticket told after held undecided
      heldHere own decided
    refine ⟨_, .chosen ch own found, ?_⟩
    simp only [poll, scanned, List.filter_cons, own, List.filter_nil, List.map_append,
      List.map_cons, List.map_nil, if_true]

/-- A wait on several endpoints is decided by the first of them that is foreign or has something of
interest to offer, at the moment of the poll: by a failure in the one case, by its place and its
channel's full readiness in the other. The waker is left with the channels of the own endpoints up
to there, or with all when none decides and the wait goes on: once on both queues, however often a
channel is listed. Nothing else is changed anywhere, and nothing is told. -/
theorem wait_any_takes_first_decided {memory : Memory} {most : Nat} {history : History}
    (reached : System.Reached memory most s history) (endpoints : List Endpoint)
    (held : ∀ e ∈ endpoints, s.Holds e) (interest : Readiness) (waiting : Bool) :
    ((∃ result, (Poller.poll ⟨s, w, ticket, told⟩ ⟨.waitAny endpoints interest, waiting⟩).2
      = .resolved result) ↔ ∃ e ∈ endpoints, s.decides interest e = true) ∧
    (∀ before e after, endpoints = before ++ e :: after →
      (∀ b ∈ before, s.decides interest b = false) → s.decides interest e = true →
      ∃ result, s.Answers before.length e result ∧
        Poller.poll ⟨s, w, ticket, told⟩ ⟨.waitAny endpoints interest, waiting⟩
          = (⟨s.watching w (((before ++ [e]).filter (·.isOwn)).map (·.via)), w, ticket, told⟩,
            .resolved result)) ∧
    ((∀ e ∈ endpoints, s.decides interest e = false) →
      Poller.poll ⟨s, w, ticket, told⟩ ⟨.waitAny endpoints interest, waiting⟩
        = (⟨s.watching w (endpoints.map (·.via)), w, ticket, told⟩,
          .pending ⟨.waitAny endpoints interest, waiting⟩)) ∧
    (∀ watched c ch, s.channels[c]? = some ch →
      ∃ after, (s.watching w watched).channels[c]? = some after ∧
        if c ∈ watched then ch.Watched w after else after = ch) := by
  have first (before : List Endpoint) (e : Endpoint) (after : List Endpoint)
      (whole : endpoints = before ++ e :: after)
      (undecided : ∀ b ∈ before, s.decides interest b = false)
      (decided : s.decides interest e = true) :
      ∃ result, s.Answers before.length e result ∧
        Poller.poll ⟨s, w, ticket, told⟩ ⟨.waitAny endpoints interest, waiting⟩
          = (⟨s.watching w (((before ++ [e]).filter (·.isOwn)).map (·.via)), w, ticket, told⟩,
            .resolved result) := by
    subst whole
    exact poll_waitAny_of_first w ticket told after
      (fun b listed => held b (List.mem_append_left _ listed)) undecided
      (held e (List.mem_append_right _ List.mem_cons_self)) decided waiting
  have never (undecided : ∀ e ∈ endpoints, s.decides interest e = false) :
      Poller.poll ⟨s, w, ticket, told⟩ ⟨.waitAny endpoints interest, waiting⟩
        = (⟨s.watching w (endpoints.map (·.via)), w, ticket, told⟩,
          .pending ⟨.waitAny endpoints interest, waiting⟩) := by
    simp only [poll, scan_undecided w ticket told held undecided]
  refine ⟨⟨?_, ?_⟩, first, never, fun watched c ch found =>
    reached.watched_channels w watched found⟩
  · rintro ⟨result, resolved⟩
    cases chosen : endpoints.find? (s.decides interest) with
    | none =>
      rw [never fun e listed => by simpa using List.find?_eq_none.mp chosen e listed] at resolved
      cases resolved
    | some e => exact ⟨e, List.mem_of_find?_eq_some chosen, List.find?_some chosen⟩
  · rintro ⟨e, listed, decided⟩
    obtain ⟨b, chosen⟩ := Option.isSome_iff_exists.mp (List.find?_isSome.mpr ⟨e, listed, decided⟩)
    obtain ⟨decides, before, after, whole, others⟩ := List.find?_eq_some_iff_append.mp chosen
    obtain ⟨result, -, polled⟩ := first before b after whole
      (fun a member => by simpa using others a member) decides
    exact ⟨result, by rw [polled]⟩

/-- A wait on a quiet channel, twice, and then on one that holds a byte: the third endpoint decides,
and the waker is on each queue of the quiet channel once. -/
theorem wait_any_takes_first_decided_third_of_three :
    ∃ s history p, System.Reached ⟨16, by decide⟩ 1 s history ∧
      Poller.poll ⟨s, .task 0, 9, []⟩
          ⟨.waitAny [⟨0, ⟨0, 0⟩⟩, ⟨0, ⟨0, 0⟩⟩, ⟨1, ⟨1, 0⟩⟩, ⟨0, ⟨1, 0⟩⟩] ⟨true, false⟩, false⟩
        = (p, .resolved (.ok (.chosen 2 ⟨true, true⟩))) ∧
      p.system = s.watching (.task 0) [0, 0, 1] ∧
      ∃ quiet, p.system.channels[0]? = some quiet ∧
        ∀ d, (quiet.queue d).observers.count (.task 0) = 1 := by
  have first := (@System.Reached.empty ⟨16, by decide⟩ 1).created
    (show Channel.create? "quiet" 4 = .ok _ from rfl)
  have second := first.created (show Channel.create? "busy" 4 = .ok _ from rfl)
  have quiet := second.performed 0 (.openSession .readOnly false)
    (fun ch found => .of_idle _ fun d => by cases found; cases d <;> rfl) (by decide)
  have busy := quiet.performed 1 (.openSession .readWrite false)
    (fun ch found => .of_idle _ fun d => by cases found; cases d <;> rfl) (by decide)
  have written := busy.performed 1 (.call ⟨0, 0, .write [7]⟩)
    (fun ch found => .of_idle _ fun d => by cases found; cases d <;> rfl) (by decide)
  obtain ⟨-, decided, -, frame⟩ := wait_any_takes_first_decided (.task 0) 9 [] written
    [⟨0, ⟨0, 0⟩⟩, ⟨0, ⟨0, 0⟩⟩, ⟨1, ⟨1, 0⟩⟩, ⟨0, ⟨1, 0⟩⟩]
    (fun e listed => by
      simp only [List.mem_cons, List.not_mem_nil, or_false] at listed
      rcases listed with rfl | rfl | rfl | rfl <;> exact ⟨_, rfl, rfl⟩) ⟨true, false⟩ false
  obtain ⟨result, answers, polled⟩ := decided [⟨0, ⟨0, 0⟩⟩, ⟨0, ⟨0, 0⟩⟩] ⟨1, ⟨1, 0⟩⟩ [⟨0, ⟨1, 0⟩⟩] rfl
    (fun b listed => by
      simp only [List.mem_cons, List.not_mem_nil, or_false] at listed
      rcases listed with rfl | rfl <;> rfl) rfl
  obtain ⟨after, found, watched⟩ := frame [0, 0, 1] 0 _ rfl
  cases answers with
  | foreign foreign => cases foreign
  | chosen ch own there =>
    obtain rfl := Option.some.inj there
    exact ⟨_, _, _, written, polled, rfl, after, found, watched.once⟩

end Poller

end BytePipe
