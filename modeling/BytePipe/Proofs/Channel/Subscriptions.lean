import BytePipe.Proofs.Channel.Events
import BytePipe.Proofs.Channel.Onward

/-!
What a subscriber receives. A subscription keeps its latest events and counts those it had to drop,
so at every moment its count and its backlog stand for the events that its subscriber has not been
told of (`WriteFeed.Owes`). Hence whatever a subscriber has received, event by event and each loss
counted for as many as it says, spells out the events of all writes since it subscribed, up to those
still owed (`receipts_spell_out_writes`).
-/
namespace BytePipe

/-- Receipts spell out events: an event received is the next one, and a loss stands for as many
further ones as it says. -/
inductive Spells : List Receipt → List WriteEvent → Prop where
  | none : Spells [] []
  | event {receipts : List Receipt} {told : List WriteEvent} (before : Spells receipts told)
    (e : WriteEvent) : Spells (receipts ++ [.event e]) (told ++ [e])
  | lagged {receipts : List Receipt} {told : List WriteEvent} (before : Spells receipts told)
    (missed : List WriteEvent) (some : missed ≠ []) :
    Spells (receipts ++ [.lagged missed.length]) (told ++ missed)

/-- Without losses, the receipts are the events themselves. -/
theorem Spells.lossless {receipts : List Receipt} {told : List WriteEvent}
    (spells : Spells receipts told) (lossless : ∀ lost, .lagged lost ∉ receipts) :
    receipts = told.map .event := by
  induction spells with
  | none => rfl
  | event before e ih =>
    rw [ih fun lost lags => lossless lost (List.mem_append_left _ lags), List.map_append]
    rfl
  | lagged before missed some ih =>
    exact absurd (List.mem_append_right _ (List.mem_singleton_self _)) (lossless missed.length)

namespace WriteFeed

variable {f after : WriteFeed} {rest : List WriteEvent}

/-- The events that a subscription still owes its subscriber: those lost since the last receipt,
then those kept. Only a full backlog loses events. -/
structure Owes (f : WriteFeed) (rest : List WriteEvent) : Prop where
  kept : rest.drop f.lost = f.backlog
  size : rest.length = f.lost + f.backlog.length
  bounded : f.backlog.length ≤ depth
  full : f.lost ≠ 0 → f.backlog.length = depth

theorem owes_empty : empty.Owes [] :=
  ⟨rfl, rfl, Nat.zero_le _, fun never => absurd rfl never⟩

theorem Owes.publish (owes : f.Owes rest) (e : WriteEvent) : (f.publish e).Owes (rest ++ [e]) := by
  obtain ⟨kept, size, bounded, full⟩ := owes
  have room := length_publish_le bounded e
  have short : f.lost ≤ rest.length := by omega
  unfold WriteFeed.publish at *
  split
  · rename_i few
    refine ⟨?_, ?_, ?_, fun lost => ?_⟩
    · rw [List.drop_append_of_le_length short, kept]
    · simp [size, Nat.add_assoc]
    · rwa [if_pos few] at room
    · have := full lost
      omega
  · rename_i many
    have some : 0 < f.backlog.length := by
      have : 0 < depth := by decide
      omega
    have inside : f.lost + 1 ≤ rest.length := by omega
    refine ⟨?_, ?_, ?_, fun _ => ?_⟩
    · rw [List.drop_append_of_le_length inside, ← kept, List.tail_drop]
    · simp
      omega
    · rwa [if_neg many] at room
    · simp
      omega

theorem Owes.publishAll (owes : f.Owes rest) (events : List WriteEvent) :
    (events.foldl WriteFeed.publish f).Owes (rest ++ events) := by
  induction events generalizing f rest with
  | nil => exact (List.append_nil rest).symm ▸ owes
  | cons e more ih =>
    have published := ih (owes.publish e)
    rw [List.append_assoc] at published
    exact published

/-- What a receipt tells: nothing if nothing is owed, else the events lost or the first one kept;
the subscription owes the others. -/
theorem Owes.receive (owes : f.Owes rest) :
    (f.receive = (none, f) ∧ rest = []) ∨
    (∃ e left after, f.receive = (some (.event e), after) ∧ rest = e :: left ∧ after.Owes left) ∨
    (∃ missed left after, f.receive = (some (.lagged missed.length), after) ∧ missed ≠ [] ∧
      rest = missed ++ left ∧ left.length = depth ∧ after.Owes left) := by
  obtain ⟨kept, size, bounded, full⟩ := owes
  unfold WriteFeed.receive
  split
  · rename_i lost
    have length : (rest.take f.lost).length = f.lost := by
      rw [List.length_take]
      omega
    refine .inr (.inr ⟨rest.take f.lost, rest.drop f.lost, { f with lost := 0 }, ?_, ?_, ?_, ?_, ?_⟩)
    · rw [length]
    · intro none
      rw [none] at length
      exact lost length.symm
    · exact (List.take_append_drop _ rest).symm
    · rw [kept]
      exact full lost
    · rw [kept]
      exact ⟨rfl, (Nat.zero_add _).symm, bounded, fun never => absurd rfl never⟩
  · rename_i lossless
    have none : f.lost = 0 := by simpa using lossless
    have all : rest = f.backlog := by
      rw [none, List.drop_zero] at kept
      exact kept
    split
    · rename_i empty
      exact .inl ⟨rfl, all.trans empty⟩
    · rename_i e left backlog
      rw [backlog, List.length_cons] at bounded
      refine .inr (.inl ⟨e, left, { f with backlog := left }, rfl, all.trans backlog, ?_⟩)
      refine ⟨?_, ?_, Nat.le_of_succ_le bounded, fun lost => absurd none lost⟩
      · rw [none, List.drop_zero]
      · rw [none, Nat.zero_add]

/-- Two events more than a backlog holds: the subscriber is told of two lost ones. -/
example : (((List.range 66).map fun n => (⟨1, n⟩ : WriteEvent)).foldl publish empty).receive.1
    = some (.lagged 2) := by decide +kernel

end WriteFeed

/-- What a subscriber is given by an operation. -/
def receiptOf (feed : Nat) : Operation × Outcome → Option Receipt
  | (.receive other, .received receipt) => if other = feed then receipt else none
  | _ => none

/-- All that a subscriber has received, the earliest first. -/
def receiptsOf (feed : Nat) (asked : List (Operation × Outcome)) : List Receipt :=
  asked.filterMap (receiptOf feed)

theorem receiptsOf_concat (feed : Nat) (asked : List (Operation × Outcome)) (op : Operation)
    (outcome : Outcome) :
    receiptsOf feed (asked ++ [(op, outcome)])
      = receiptsOf feed asked ++ (receiptOf feed (op, outcome)).toList := by
  rw [receiptsOf, List.filterMap_append, List.filterMap_cons, List.filterMap_nil, receiptsOf]
  cases receiptOf feed (op, outcome) <;> rfl

namespace Turn

variable {memory : Memory} {peak most : Nat} {feed : Nat} {op : Operation} {t u v : Turn}
  {receipts : List Receipt} {since events : List WriteEvent}

/-- What a subscriber has received spells out the first of the events since it subscribed; as long
as it is subscribed, it is owed the rest. -/
structure Subscribed (feed : Nat) (u : Turn) (receipts : List Receipt)
    (since : List WriteEvent) : Prop where
  listed : feed < u.channel.feeds.length
  spelled : ∃ told rest, since = told ++ rest ∧ Spells receipts told ∧
    ∀ f, u.channel.feeds[feed]? = some (some f) → f.Owes rest

theorem subscribed_subscribe (t : Turn) :
    Subscribed t.subscribe.2 t.subscribe.1 [] [] := by
  refine ⟨?_, [], [], rfl, .none, fun f found => ?_⟩
  · simp [subscribe]
  · simp only [subscribe, channel_mapChannel, List.getElem?_concat_length, Option.some.injEq]
      at found
    exact found ▸ WriteFeed.owes_empty

/-- What leaves a subscription alone leaves this alone. -/
theorem Subscribed.same (subscribed : Subscribed feed u receipts since)
    (listed : feed < v.channel.feeds.length)
    (same : ∀ f, v.channel.feeds[feed]? = some (some f) → u.channel.feeds[feed]? = some (some f)) :
    Subscribed feed v receipts since := by
  obtain ⟨told, rest, split, spells, owes⟩ := subscribed.spelled
  exact ⟨listed, told, rest, split, spells, fun f found => owes f (same f found)⟩

/-- Events that are published are owed. -/
theorem Subscribed.published {told : List Notice} (subscribed : Subscribed feed u receipts since)
    (published : Published u v told) :
    Subscribed feed v receipts (since ++ eventsFrom u.channel.ring.used told) := by
  obtain ⟨listed, shown, rest, split, spells, owes⟩ := subscribed
  refine ⟨?_, shown, rest ++ eventsFrom u.channel.ring.used told, ?_, spells, fun f found => ?_⟩
  · rw [published.feeds, List.length_map]
    exact listed
  · rw [split, List.append_assoc]
  · rw [published.feeds, List.getElem?_map, Option.map_eq_some_iff] at found
    obtain ⟨before, found, mapped⟩ := found
    obtain ⟨f, rfl, rfl⟩ := Option.map_eq_some_iff.mp mapped
    exact (owes f found).publishAll _

/-- What a receipt does to the subscription it is for. -/
theorem receive_of_found {f : WriteFeed} (found : u.channel.feeds[feed]? = some (some f)) :
    (u.receive feed).2 = f.receive.1 ∧
      (u.receive feed).1.channel.feeds = u.channel.feeds.set feed (some f.receive.2) := by
  rw [Turn.receive, found]
  exact ⟨rfl, rfl⟩

theorem receive_of_missing (missing : u.channel.feeds[feed]?.join = none) :
    u.receive feed = (u, none) := by
  rw [Turn.receive, missing]

/-- A receipt touches no other subscription. -/
theorem feeds_receive_ne {other : Nat} (ne : other ≠ feed) :
    (u.receive other).1.channel.feeds[feed]? = u.channel.feeds[feed]? := by
  unfold Turn.receive
  split
  · rfl
  · exact List.getElem?_set_ne ne

theorem length_feeds_receive (u : Turn) (feed : Nat) :
    (u.receive feed).1.channel.feeds.length = u.channel.feeds.length := by
  unfold Turn.receive
  split
  · rfl
  · exact List.length_set

/-- A receipt spells out the next of the events owed. -/
theorem Subscribed.receive (subscribed : Subscribed feed u receipts since) :
    Subscribed feed (u.receive feed).1 (receipts ++ (u.receive feed).2.toList) since := by
  cases found : u.channel.feeds[feed]?.join with
  | none =>
    rw [receive_of_missing found]
    exact (List.append_nil receipts).symm ▸ subscribed
  | some f =>
    have found : u.channel.feeds[feed]? = some (some f) := Option.join_eq_some_iff.mp found
    obtain ⟨listed, told, rest, split, spells, owes⟩ := subscribed
    obtain ⟨given, feeds⟩ := receive_of_found found
    have still (g : WriteFeed) (there : (u.receive feed).1.channel.feeds[feed]? = some (some g)) :
        g = f.receive.2 := by
      rw [feeds, List.getElem?_set_self listed] at there
      exact (Option.some.inj (Option.some.inj there)).symm
    have inside : feed < (u.receive feed).1.channel.feeds.length := by
      rw [length_feeds_receive]
      exact listed
    rw [given]
    rcases (owes f found).receive with ⟨receipt, empty⟩ | ⟨e, left, after, receipt, next, owed⟩ |
      ⟨missed, left, after, receipt, some, next, -, owed⟩ <;> rw [receipt] at still ⊢
    · refine ⟨inside, told, rest, split, ?_, fun g there => still g there ▸ owes f found⟩
      exact (List.append_nil receipts).symm ▸ spells
    · refine ⟨inside, told ++ [e], left, ?_, spells.event e, fun g there => still g there ▸ owed⟩
      rw [split, next, List.append_assoc]
      rfl
    · refine ⟨inside, told ++ missed, left, ?_, spells.lagged missed some,
        fun g there => still g there ▸ owed⟩
      rw [split, next, List.append_assoc]

/-- An operation on subscriptions gives the subscriber what it owes, or nothing. -/
theorem Subscribed.asked (subscribed : Subscribed feed u receipts since)
    (subscribes : op.subscribes = true) :
    Subscribed feed (op.apply memory u).1
      (receipts ++ (receiptOf feed (op, (op.apply memory u).2)).toList) since := by
  have unasked {v : Turn} (kept : Subscribed feed v receipts since) :
      Subscribed feed v (receipts ++ (none : Option Receipt).toList) since :=
    (List.append_nil receipts).symm ▸ kept
  cases op with
  | subscribe =>
    refine unasked (subscribed.same ?_ fun f found => ?_)
    · have listed := subscribed.listed
      simp only [Operation.apply, subscribe, channel_mapChannel, List.length_append]
      omega
    · simp only [Operation.apply, subscribe, channel_mapChannel] at found
      rwa [List.getElem?_append_left subscribed.listed] at found
  | unsubscribe other =>
    refine unasked (subscribed.same ?_ fun f found => ?_)
    · simp only [Operation.apply, unsubscribe, channel_mapChannel, List.length_set]
      exact subscribed.listed
    · simp only [Operation.apply, unsubscribe, channel_mapChannel] at found
      by_cases own : other = feed
      · subst own
        rw [List.getElem?_set_self subscribed.listed] at found
        cases found
      · rwa [List.getElem?_set_ne own] at found
  | receive other =>
    by_cases own : other = feed
    · subst own
      have received := subscribed.receive
      simp only [Operation.apply, receiptOf, if_pos]
      exact received
    · simp only [Operation.apply, receiptOf, if_neg own]
      refine unasked (subscribed.same ?_ fun f found => ?_)
      · rw [length_feeds_receive]
        exact subscribed.listed
      · rwa [feeds_receive_ne own] at found
  | _ => contradiction

theorem receiptOf_of_other (other : op.subscribes = false) (outcome : Outcome) :
    receiptOf feed (op, outcome) = none := by
  cases op with
  | receive feed => contradiction
  | _ => rfl

/-- What is known of a subscription since the moment `t`: how its receipts spell out the events, and
that the events carry all bytes accepted. -/
def Informed (t : Turn) (feed : Nat) (u : Turn) (receipts : List Receipt)
    (later : List Notice) : Prop :=
  u.account = t.account ++ later ∧
  Subscribed feed u receipts (eventsFrom (buffered t.account) later) ∧
  ((eventsFrom (buffered t.account) later).map (·.written)).sum = (accepted later).length

theorem Informed.published {later told : List Notice} (informed : Informed t feed u receipts later)
    (alive : Life memory peak u) (published : Published u v told) :
    Informed t feed v receipts (later ++ told) := by
  obtain ⟨account, subscribed, sums⟩ := informed
  have count : later.foldl bufferedAfter (buffered t.account) = u.channel.ring.used := by
    rw [← alive.used, account]
    exact List.foldl_append.symm
  have events : eventsFrom (buffered t.account) (later ++ told)
      = eventsFrom (buffered t.account) later ++ eventsFrom u.channel.ring.used told := by
    rw [eventsFrom_append, count]
  refine ⟨?_, ?_, ?_⟩
  · rw [published.account, account, List.append_assoc]
  · rw [events]
    exact subscribed.published published
  · rw [events, List.map_append, List.sum_append, sums, published.accepted, accepted, accepted,
      accepted, List.flatMap_append, List.length_append]

/-- Over a whole run, what a subscriber has received spells out the first of the events since it
subscribed. -/
theorem Onward.informed {asked : List (Operation × Outcome)} (life : Life memory peak t)
    (settled : t.woken = []) (onward : Onward memory t.subscribe.1 most asked u) :
    ∃ later, Informed t t.subscribe.2 u (receiptsOf t.subscribe.2 asked) later := by
  have begun : Life memory (max peak t.subscribe.1.channel.openUses) t.subscribe.1 :=
    life.operated .subscribe settled nofun
  induction onward with
  | here => exact ⟨[], (List.append_nil _).symm, subscribed_subscribe t, rfl⟩
  | @operated most asked u op before _ fresh ih =>
    obtain ⟨later, informed⟩ := ih
    rw [receiptsOf_concat]
    cases subscribes : op.subscribes with
    | true =>
      obtain ⟨account, subscribed, sums⟩ := informed
      have alike := alike_of_subscribes memory u subscribes
      exact ⟨later, alike.account.trans account, subscribed.asked subscribes, sums⟩
    | false =>
      have alive := before.life begun
      obtain ⟨told, published⟩ := published_apply memory alive.inside subscribes
      rw [receiptOf_of_other subscribes, Option.toList_none, List.append_nil]
      exact ⟨_, informed.published alive published⟩
  | @ran most asked u first c rest before woken ih =>
    obtain ⟨later, informed⟩ := ih
    have alive := before.life begun
    obtain ⟨-, fits, -⟩ := alive.orderly.take woken
    obtain ⟨told, published⟩ :=
      published_resume (t := { u with woken := first ++ rest }) alive.inside fits
    have ran : Published u (resume { u with woken := first ++ rest } c) told :=
      ⟨published.account, published.used, published.feeds, published.accepted⟩
    exact ⟨_, informed.published alive ran⟩

end Turn

/-- Let someone subscribe at a moment when nothing is left to run, and let anything happen from then
on. Then all that the subscriber has received, each event as one and each loss as many as it says,
spells out the first of the events of the writes since, in the order in which these completed, each
with the bytes it put in and the bytes buffered right after it. While the subscription lasts, the
rest is what is still to be received: nothing is given exactly when the rest is empty, an event given
is the next one, and a loss is reported only beyond the 64 events that are kept. If no loss was
reported, the receipts are the events themselves. The events carry all bytes accepted, and the count
behind them is that of the ring. -/
theorem receipts_spell_out_writes {memory : Memory} {peak most : Nat} {t u : Turn}
    {asked : List (Operation × Outcome)} (life : Life memory peak t) (settled : t.woken = [])
    (onward : t.subscribe.1.Onward memory most asked u) :
    ∃ later told rest,
      u.account = t.account ++ later ∧
      eventsFrom (buffered t.account) later = told ++ rest ∧
      Spells (receiptsOf t.subscribe.2 asked) told ∧
      (∀ f, u.channel.feeds[t.subscribe.2]? = some (some f) →
        ((u.receive t.subscribe.2).2 = none ↔ rest = []) ∧
        (∀ e, (u.receive t.subscribe.2).2 = some (.event e) → rest.head? = some e) ∧
        (∀ lost, (u.receive t.subscribe.2).2 = some (.lagged lost) →
          0 < lost ∧ rest.length = lost + 64)) ∧
      ((∀ lost, .lagged lost ∉ receiptsOf t.subscribe.2 asked) →
        receiptsOf t.subscribe.2 asked = told.map .event) ∧
      ((eventsFrom (buffered t.account) later).map (·.written)).sum = (accepted later).length ∧
      buffered u.account = u.channel.ring.used := by
  obtain ⟨later, account, subscribed, sums⟩ := onward.informed life settled
  obtain ⟨-, told, rest, split, spells, owes⟩ := subscribed
  have begun : Life memory (max peak t.subscribe.1.channel.openUses) t.subscribe.1 :=
    life.operated .subscribe settled nofun
  refine ⟨later, told, rest, account, split, spells, fun f found => ?_, spells.lossless, sums,
    (onward.life begun).used⟩
  have given := (Turn.receive_of_found found).1
  rw [given]
  rcases (owes f found).receive with ⟨receipt, empty⟩ | ⟨e, left, after, receipt, next, -⟩ |
    ⟨missed, left, after, receipt, some, next, length, -⟩ <;> rw [receipt]
  · exact ⟨⟨fun _ => empty, fun _ => rfl⟩, nofun, nofun⟩
  · refine ⟨⟨nofun, fun empty => ?_⟩, fun e' same => ?_, nofun⟩
    · rw [empty] at next
      contradiction
    · cases same
      rw [next]
      rfl
  · refine ⟨⟨nofun, fun empty => ?_⟩, nofun, fun lost same => ?_⟩
    · rw [empty] at next
      exact absurd (List.append_eq_nil_iff.mp next.symm).1 some
    · cases same
      refine ⟨List.length_pos_iff.mpr some, ?_⟩
      rw [next, List.length_append, length]
      rfl

/-- Two bytes are written, one is read, another one is written: the subscriber has received the first
event and the second one, of one byte beside two, comes next. -/
theorem receipts_spell_out_writes_next_event :
    ∃ (t u : Turn) (most : Nat) (asked : List (Operation × Outcome)),
      Life ⟨16, by decide⟩ 2 t ∧ t.woken = [] ∧ t.subscribe.1.Onward ⟨16, by decide⟩ most asked u ∧
      receiptsOf 0 asked = [.event ⟨2, 2⟩] ∧
      ∃ later told rest, u.account = t.account ++ later ∧
        eventsFrom (buffered t.account) later = told ++ rest ∧
        Spells (receiptsOf 0 asked) told ∧ rest.head? = some ⟨1, 2⟩ ∧
        receiptsOf 0 asked = told.map .event := by
  have created := @Life.created ⟨16, by decide⟩ "pipe" 4 (by decide)
  have opened := created.operated (.openSession .readWrite false) rfl
    (.of_idle _ fun d => by cases d <;> rfl)
  have begun := @Turn.Onward.here ⟨16, by decide⟩ ((Operation.openSession .readWrite false).apply
    ⟨16, by decide⟩ (.start (.named "pipe" 4))).1.subscribe.1
  have written := begun.operated (.call ⟨0, 0, .write [7, 8]⟩) rfl
    (.of_idle _ fun d => by cases d <;> rfl)
  have read := written.operated (.tryCall ⟨1, 0, .read 1⟩) rfl
    (.of_idle _ fun d => by cases d <;> rfl)
  have again := read.operated (.call ⟨2, 0, .write [9]⟩) rfl
    (.of_idle _ fun d => by cases d <;> rfl)
  have received := again.operated (.receive 0) rfl nofun
  obtain ⟨later, told, rest, account, split, spells, owed, lossless, -, -⟩ :=
    receipts_spell_out_writes opened rfl received
  refine ⟨_, _, _, _, opened, rfl, received, rfl, later, told, rest, account, split, spells,
    (owed _ rfl).2.1 _ rfl, lossless fun lost lags => ?_⟩
  have event : Receipt.lagged lost ∈ [Receipt.event ⟨2, 2⟩] := lags
  cases List.mem_singleton.mp event

end BytePipe
