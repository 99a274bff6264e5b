import BrokerClient.Proofs.Publisher.Discard

/-!
# The channels that a publisher opens

Between two turns an open channel that a publisher has opened is either the one in its slot or *in
hand*: a publish that has just opened a channel or that discards one, and a request to close hold on
to one channel each until they have put it in place or closed it.  A task that rests has no channel
in hand, so that between activations no open channel is out of reach.

Every channel is given a number when it is put into the slot, one more than the last.  A watch over
a channel goes by that number, which is why it can come as late as it wants: the slot holds the
number only as long as it holds the channel.
-/

namespace BrokerClient

/-! ## Channels that have been opened and numbered -/

/-- The channel that the next turn of a publish makes the broker open. -/
def Publishing.opens? (b : Broker) : Publishing → Option Nat
  | opening _ connection wait _ =>
    if b.progress wait = .passed then some (b.endOpen connection).2 else none
  | _ => none

namespace Moment

/-- The channel that a publish of the publisher `i` opens. -/
def opens? (i : Nat) (m : Moment) : Option Nat :=
  (m.publishing? i).bind fun point => point.opens? m.before.broker

/-- The channel that a publish of the publisher `i` puts into the slot, with its number. -/
def keeps? (i : Nat) (m : Moment) : Option KeptChannel :=
  if ((m.publishing? i).bind Publishing.puts?).isSome then (m.after.publisherAt i).slot else none

end Moment

/-- The channels that the publisher `i` has opened, in order. -/
def openedBy (i : Nat) (past : List Moment) : List Nat :=
  past.filterMap (Moment.opens? i)

/-- The channels that the publisher `i` has put into its slot, with their numbers, in order. -/
def keptBy (i : Nat) (past : List Moment) : List KeptChannel :=
  past.filterMap (Moment.keeps? i)

theorem openedBy_concat (i : Nat) (past : List Moment) (m : Moment) :
    openedBy i (past ++ [m]) = openedBy i past ++ (m.opens? i).toList :=
  filterMap_concat _ _ _

theorem keptBy_concat (i : Nat) (past : List Moment) (m : Moment) :
    keptBy i (past ++ [m]) = keptBy i past ++ (m.keeps? i).toList :=
  filterMap_concat _ _ _

/-! ## Channels in hand -/

/-- The channel that a publish has yet to put into the slot or to close. -/
def Publishing.channelInHand : Publishing → Option Nat
  | opened _ channel | discarding channel => some channel
  | _ => none

/-- The channel that a request has yet to close. -/
def ClosePublisher.channelInHand : ClosePublisher → Option Nat
  | closing channel => some channel
  | _ => none

/-- The channel of the publisher `i` that a task has yet to put into the slot or to close. -/
def Task.channelInHand (i : Nat) : Task → Option Nat
  | publish j _ point => if j = i then point.channelInHand else none
  | closePublisher j point => if j = i then point.channelInHand else none
  | _ => none

theorem Task.channelInHand_of_rests {i : Nat} {task : Task} (hrests : task.rests = true) :
    task.channelInHand i = none := by
  cases task with
  | publish j event point =>
      cases point <;>
        simp_all [rests, Publishing.rests, channelInHand, Publishing.channelInHand]
  | closePublisher j point =>
      cases point <;>
        simp_all [rests, ClosePublisher.rests, channelInHand, ClosePublisher.channelInHand]
  | _ => rfl

theorem Task.channelInHand_of_other {i : Nat} {task : Task} (hother : task.publisher? ≠ some i) :
    task.channelInHand i = none := by
  cases task <;> simp_all [publisher?, channelInHand]

/-- The channel in the slot of a publisher. -/
def Publisher.channel? (p : Publisher) : Option Nat :=
  p.slot.map (·.channel)

theorem Publisher.channel?_of_slot {p p' : Publisher} (hslot : p'.slot = p.slot) :
    p'.channel? = p.channel? := by
  rw [channel?, channel?, hslot]

/-! ## One turn -/

/-- An open channel that is in the slot or in hand is there after a turn too, or has been closed. -/
private def HandsOn (b b' : Broker) (p p' : Publisher) (hand hand' : Option Nat) : Prop :=
  ∀ c, b.channelClosed c = false → b'.channelClosed c = false →
    p.channel? = some c ∨ hand = some c → p'.channel? = some c ∨ hand' = some c

private theorem handsOn_of_eq {b b' : Broker} {p p' : Publisher} {hand hand' : Option Nat}
    (hslot : p'.slot = p.slot) (hhand : hand = none) : HandsOn b b' p p' hand hand' := by
  rintro c _ _ (hheld | hheld)
  · exact .inl (by rw [Publisher.channel?_of_slot hslot, hheld])
  · rw [hhand] at hheld
    cases hheld

/-- Closing what is in hand is all that is left to do with it, as long as closes do not fail. -/
private theorem handsOn_of_close {b : Broker} {p : Publisher} {channel : Nat} {hand' : Option Nat}
    (hgrants : b.Grants .closeChannel) :
    HandsOn b (b.closeChannel channel).1 p p (some channel) hand' := by
  rintro c _ hopen (hheld | hheld)
  · exact .inl hheld
  · obtain rfl := Option.some.inj hheld
    have hnote : (b.note (.closeChannel channel)).Grants .closeChannel := hgrants
    have hclosed : (b.closeChannel channel).1.channelClosed channel = true := by
      rw [Broker.closeChannel, hnote.takeFailure]
      simp
    rw [hclosed] at hopen
    cases hopen

/-- What is in hand and has closed need not be handed on. -/
private theorem handsOn_of_closed {b b' : Broker} {p : Publisher} {channel : Nat}
    {hand' : Option Nat} (hclosed : b.channelClosed channel = true) :
    HandsOn b b' p p (some channel) hand' := by
  rintro c hopen _ (hheld | hheld)
  · exact .inl hheld
  · obtain rfl := Option.some.inj hheld
    rw [hclosed] at hopen
    cases hopen

/-- A slot without an open channel can be emptied. -/
private theorem handsOn_of_noChannel {b b' : Broker} {p p' : Publisher} {hand' : Option Nat}
    (hnone : Publishing.NoChannel b p) : HandsOn b b' p p' none hand' := by
  rintro c hopen _ (hheld | hheld)
  · obtain ⟨kept, hslot, rfl⟩ := Option.map_eq_some_iff.mp hheld
    rw [hnone kept hslot] at hopen
    cases hopen
  · cases hheld

private theorem handsOn_of_empty {b b' : Broker} {p p' : Publisher} {hand' : Option Nat}
    (hslot : p.slot = none) : HandsOn b b' p p' none hand' :=
  handsOn_of_noChannel fun _ hkept => nomatch hslot.symm.trans hkept

/-- What is taken out of the slot is in hand. -/
private theorem handsOn_of_take {b b' : Broker} {p p' : Publisher} {kept : KeptChannel}
    (hslot : p.slot = some kept) : HandsOn b b' p p' none (some kept.channel) := by
  rintro c _ _ (hheld | hheld)
  · rw [Publisher.channel?, hslot] at hheld
    exact .inr hheld
  · cases hheld

private theorem Publishing.Advance.handsOn {s : Supervisor} {b b' : Broker} {p p' : Publisher}
    {me : Nat} {event : Event} {point point' : Publishing}
    (hadvance : Advance s b p me event point p' b' point') (hgrants : b.Grants .closeChannel)
    (hempty : ∀ attempt channel, point = opened attempt channel → p.slot = none) :
    HandsOn b b' p p' point.channelInHand point'.channelInHand := by
  cases hadvance with
  | notReady hnone | refuseOpen hnone | beginOpen hnone => exact handsOn_of_noChannel hnone
  | install =>
      -- the slot has been empty, and what was in hand is there now
      rintro c _ _ (hheld | hheld)
      · rw [Publisher.channel?, hempty _ _ rfl] at hheld
        cases hheld
      · exact .inl hheld
  | discard hheld hslot => exact handsOn_of_take hslot
  | discardNothing hheld hslot => exact handsOn_of_empty hslot
  | leave hclosed => exact handsOn_of_closed hclosed
  | close hopen => exact handsOn_of_close hgrants
  | _ => exact handsOn_of_eq rfl rfl

private theorem ClosePublisher.Advance.handsOn {b b' : Broker} {p p' : Publisher} {me : Nat}
    {point point' : ClosePublisher} (hadvance : Advance b p me point p' b' point')
    (hgrants : b.Grants .closeChannel) :
    HandsOn b b' p p' point.channelInHand point'.channelInHand := by
  cases hadvance with
  | ask => exact handsOn_of_eq rfl rfl
  | take hheld hslot => exact handsOn_of_take hslot
  | takeNothing hheld hslot => exact handsOn_of_empty hslot
  | leave hclosed => exact handsOn_of_closed hclosed
  | close hopen => exact handsOn_of_close hgrants

namespace System

/-! ## The slot while a channel is opened -/

/-- While a publish opens a channel the slot is empty. -/
def EmptyWhileOpening (w : System) (i : Nat) : Prop :=
  ∀ (t : Nat) (event : Event) (point : Publishing), w.tasks[t]? = some (.publish i event point) →
    (∃ attempt connection wait deadline, point = .opening attempt connection wait deadline) ∨
      (∃ attempt channel, point = .opened attempt channel) →
    (w.publisherAt i).slot = none

theorem EmptyWhileOpening.change {w w' : System} {what : Happening} {i : Nat}
    (hempty : w.EmptyWhileOpening i) (hheld : w.LockHeld i)
    (hchange : w.PublisherChange i what w') : w'.EmptyWhileOpening i := by
  intro t event point' htask' hopening
  rcases hchange.publish_cases htask' with ⟨hturn, habort, hkept⟩ |
    ⟨rfl, point, p', b', htask, hpublisher, _, hadvance⟩ | rfl
  · -- the publish has the lock, so that nobody else fills the slot
    have hholds : point'.holds = true := by
      rcases hopening with ⟨_, _, _, _, rfl⟩ | ⟨_, _, rfl⟩ <;> rfl
    have hholder := hheld t event point' hkept hholds
    rw [(hchange.spares hheld hturn habort).slot hholder]
    exact hempty t event point' hkept hopening
  · rw [hpublisher]
    cases hadvance with
    | beginOpen => rfl
    | waitOpen hwait => exact hempty t event _ htask (.inl ⟨_, _, _, _, rfl⟩)
    | endOpen hwait => exact hempty t event _ htask (.inl ⟨_, _, _, _, rfl⟩)
    | _ => rcases hopening with ⟨_, _, _, _, ⟨⟩⟩ | ⟨_, _, ⟨⟩⟩
  · rcases hopening with ⟨_, _, _, _, ⟨⟩⟩ | ⟨_, _, ⟨⟩⟩

/-! ## Watches -/

/-- A watch over a channel is one of before, which may have taken a turn, or it has just been set
going over the channel in the slot. -/
theorem PublisherChange.watch_cases {w w' : System} {what : Happening} {i u : Nat}
    {kept : KeptChannel} {point' : ChannelWatch} (hchange : w.PublisherChange i what w')
    (htask' : w'.tasks[u]? = some (.channelWatch i kept point')) :
    (∃ point, w.tasks[u]? = some (.channelWatch i kept point) ∧
        (point' = point ∨ ∃ p', ChannelWatch.Advance w.broker (w.publisherAt i) u kept point p'
          point')) ∨
      (w'.publisherAt i).slot = some kept ∧ point' = .waiting := by
  rcases hchange.task_cases htask' rfl with ⟨_, _, hkept⟩ | ⟨_, task, htask, hmoved⟩ |
    ⟨call, _, hcall⟩ | ⟨found, hslot, hwatch⟩
  · exact .inl ⟨point', hkept, .inl rfl⟩
  · cases hmoved with
    | channelWatch hadvance => exact .inl ⟨_, htask, .inr ⟨_, hadvance⟩⟩
  · cases call <;> cases hcall
  · cases hwatch
    exact .inr ⟨hslot, rfl⟩

/-- The numbers in the slot and of the watches have been given out, and each stands for one
channel. -/
structure NumbersFit (w : System) (i : Nat) : Prop where
  slot : ∀ kept, (w.publisherAt i).slot = some kept → kept.id ≤ (w.publisherAt i).opened
  watch : ∀ (t : Nat) (kept : KeptChannel) (point : ChannelWatch),
    w.tasks[t]? = some (.channelWatch i kept point) → kept.id ≤ (w.publisherAt i).opened
  same : ∀ (t : Nat) (kept current : KeptChannel) (point : ChannelWatch),
    w.tasks[t]? = some (.channelWatch i kept point) → (w.publisherAt i).slot = some current →
    current.id = kept.id → current = kept

theorem NumbersFit.change {w w' : System} {what : Happening} {i : Nat} (hfit : w.NumbersFit i)
    (hchange : w.PublisherChange i what w') : w'.NumbersFit i := by
  have hslot : ∀ kept, (w'.publisherAt i).slot = some kept →
      kept.id ≤ (w'.publisherAt i).opened := by
    intro kept hkept
    rcases hchange.fill_cases with ⟨hopened, hsame | hnone, _⟩ | ⟨_, _, _, _, _, _, hput, hopened⟩
    · rw [hopened]
      exact hfit.slot kept (hsame ▸ hkept)
    · cases hnone.symm.trans hkept
    · cases hput.symm.trans hkept
      rw [hopened]
  have hle : (w.publisherAt i).opened ≤ (w'.publisherAt i).opened := by
    rcases hchange.fill_cases with ⟨hopened, _⟩ | ⟨_, _, _, _, _, _, _, hopened⟩ <;> omega
  refine ⟨hslot, fun t kept point' htask' => ?_,
    fun t kept current point' htask' hcurrent hid => ?_⟩
  · rcases hchange.watch_cases htask' with ⟨point, htask, _⟩ | ⟨hnew, _⟩
    · exact (hfit.watch t kept point htask).trans hle
    · exact hslot kept hnew
  · rcases hchange.watch_cases htask' with ⟨point, htask, _⟩ | ⟨hnew, _⟩
    · rcases hchange.fill_cases with ⟨_, hsame | hnone, _⟩ | ⟨_, _, _, _, _, _, hput, _⟩
      · exact hfit.same t kept current point htask (hsame ▸ hcurrent) hid
      · cases hnone.symm.trans hcurrent
      · -- a number that is given out now is none that anybody watches
        cases hput.symm.trans hcurrent
        have hwatched := hfit.watch t kept point htask
        simp only at hid
        omega
    · exact Option.some.inj (hcurrent.symm.trans hnew)

/-- A watch that no longer waits is over a channel that has closed. -/
def WatchesInformed (w : System) (i : Nat) : Prop :=
  ∀ (t : Nat) (kept : KeptChannel) (point : ChannelWatch),
    w.tasks[t]? = some (.channelWatch i kept point) → point ≠ .waiting →
    kept.channel < w.broker.channels.length ∧ w.broker.channelClosed kept.channel = true

theorem WatchesInformed.change {w w' : System} {what : Happening} {i : Nat}
    (hinformed : w.WatchesInformed i) (hnotices : w.broker.NoticesHeld)
    (hchange : w.PublisherChange i what w') (hkeeps : w.broker.KeepsChannels w'.broker) :
    w'.WatchesInformed i := by
  intro t kept point' htask' hknows
  have hlasts : kept.channel < w.broker.channels.length ∧
      w.broker.channelClosed kept.channel = true →
      kept.channel < w'.broker.channels.length ∧ w'.broker.channelClosed kept.channel = true :=
    fun ⟨hlt, hclosed⟩ => ⟨hlt.trans_le hkeeps.length_le, hkeeps.closed _ hlt hclosed⟩
  rcases hchange.watch_cases htask' with ⟨point, htask, rfl | ⟨p', hadvance⟩⟩ | ⟨_, rfl⟩
  · exact hlasts (hinformed t kept point' htask hknows)
  · refine hlasts ?_
    cases hadvance with
    | notice hreason => exact Broker.channelClosed_of_reason hnotices hreason
    | ask => exact hinformed t kept _ htask nofun
    | clear => exact hinformed t kept _ htask nofun
    | leave => exact hinformed t kept _ htask nofun
  · exact absurd rfl hknows

/-- A watch empties the slot only of its own channel, which has closed. -/
theorem watch_leaves {w : System} {i t : Nat} {kept : KeptChannel}
    {point point' : ChannelWatch} {p' : Publisher} (hfit : w.NumbersFit i)
    (hinformed : w.WatchesInformed i) (htask : w.tasks[t]? = some (.channelWatch i kept point))
    (hadvance : ChannelWatch.Advance w.broker (w.publisherAt i) t kept point p' point') :
    p'.slot = (w.publisherAt i).slot ∨
      (w.publisherAt i).slot = some kept ∧ p'.slot = none ∧
        w.broker.channelClosed kept.channel = true := by
  cases hadvance with
  | clear hheld hslot hid =>
      have hcurrent := hfit.same t kept _ _ htask hslot hid
      exact .inr ⟨hcurrent ▸ hslot, rfl, (hinformed t kept _ htask nofun).2⟩
  | _ => exact .inl rfl

/-! ## Open channels are held -/

/-- Is the channel in the slot of the publisher `i` or in the hand of one of its tasks? -/
def HoldsChannel (w : System) (i c : Nat) : Prop :=
  (w.publisherAt i).channel? = some c ∨
    ∃ (t : Nat) (task : Task), w.tasks[t]? = some task ∧ task.channelInHand i = some c

/-- It is enough to look at the task whose turn it is. -/
private theorem holdsChannel_of_handsOn {w w' : System} {i t c : Nat} {task task' : Task}
    {spawned : List Task} (hholds : w.HoldsChannel i c) (htask : w.tasks[t]? = some task)
    (htasks : w'.tasks = w.tasks.set t task' ++ spawned)
    (hopen : w.broker.channelClosed c = false) (hopen' : w'.broker.channelClosed c = false)
    (hhands : HandsOn w.broker w'.broker (w.publisherAt i) (w'.publisherAt i)
      (task.channelInHand i) (task'.channelInHand i)) : w'.HoldsChannel i c := by
  have hmoved (hheld : (w.publisherAt i).channel? = some c ∨ task.channelInHand i = some c) :
      w'.HoldsChannel i c :=
    (hhands c hopen hopen' hheld).imp id
      fun hhand => ⟨t, task', by rw [htasks]; exact task_set_self htask, hhand⟩
  rcases hholds with hslot | ⟨u, other, hother, hhand⟩
  · exact hmoved (.inl hslot)
  · by_cases hne : u = t
    · subst hne
      obtain rfl := Option.some.inj (htask.symm.trans hother)
      exact hmoved (.inr hhand)
    · exact .inr ⟨u, other, by rw [htasks]; exact task_set_of_ne hne hother, hhand⟩

theorem HoldsChannel.change {w w' : System} {what : Happening} {i c : Nat}
    (hholds : w.HoldsChannel i c) (hchange : w.PublisherChange i what w')
    (hgrants : w.broker.Grants .closeChannel) (hempty : w.EmptyWhileOpening i)
    (hfit : w.NumbersFit i) (hinformed : w.WatchesInformed i)
    (hopen : w.broker.channelClosed c = false) (hopen' : w'.broker.channelClosed c = false) :
    w'.HoldsChannel i c := by
  cases hchange with
  | turn hturn =>
      cases hturn with
      | @publish event point point' p' b' spawned htask hadvance hpublisher hbroker htasks =>
          refine holdsChannel_of_handsOn hholds htask htasks hopen hopen' ?_
          have hhands := hadvance.handsOn hgrants fun attempt channel hpoint =>
            hempty _ event point htask (.inr ⟨attempt, channel, hpoint⟩)
          simpa [Task.channelInHand, hpublisher, hbroker] using hhands
      | closePublisher htask hadvance hpublisher hbroker htasks =>
          refine holdsChannel_of_handsOn hholds htask htasks hopen hopen' ?_
          simpa [Task.channelInHand, hpublisher, hbroker] using hadvance.handsOn hgrants
      | channelWatch htask hadvance hpublisher hbroker htasks =>
          refine holdsChannel_of_handsOn hholds htask htasks hopen hopen' ?_
          rcases watch_leaves hfit hinformed htask hadvance with hsame | ⟨hslot, _, hclosed⟩
          · exact handsOn_of_eq (by rw [hpublisher, hsame]) rfl
          · refine handsOn_of_noChannel fun current hcurrent => ?_
            rwa [Option.some.inj (hcurrent.symm.trans hslot)]
      | other htask hother hother' hspawned hpublisher htasks =>
          exact holdsChannel_of_handsOn hholds htask htasks hopen hopen'
            (handsOn_of_eq (by rw [hpublisher]) (Task.channelInHand_of_other hother))
  | call hpublisher htasks =>
      rcases hholds with hslot | ⟨t, task, htask, hhand⟩
      · exact .inl (by rw [hpublisher, hslot])
      · exact .inr ⟨t, task, by rw [htasks]; exact task_append_of_some htask, hhand⟩
  | abort htask hrests hpublisher htasks =>
      refine holdsChannel_of_handsOn hholds htask htasks hopen hopen'
        (handsOn_of_eq ?_ (Task.channelInHand_of_rests hrests))
      rcases hpublisher with hpublisher | hpublisher
      · rw [hpublisher]
      · rw [hpublisher]
        rfl
  | quiet hwhat hpublisher htasks =>
      rw [HoldsChannel, hpublisher, htasks]
      exact hholds

/-! ## What is opened and what is numbered -/

/-- A publish that opens a channel is given one that is new to the broker, and has it in hand. -/
theorem PublisherChange.of_opens? {w w' : System} {what : Happening} {i c : Nat}
    (hchange : w.PublisherChange i what w')
    (hopens : (⟨w, what, w'⟩ : Moment).opens? i = some c) :
    c = w.broker.channels.length ∧ w'.broker.channels.length = c + 1 ∧
      ∃ (t : Nat) (event : Event) (point : Publishing) (attempt : Attempt), what = .turn t ∧
        w.tasks[t]? = some (.publish i event point) ∧ point.holds = true ∧
        w'.tasks[t]? = some (.publish i event (.opened attempt c)) := by
  obtain ⟨point, hpoint, hpasses⟩ := Option.bind_eq_some_iff.mp hopens
  obtain ⟨t, event, rfl, htask⟩ := Moment.exists_of_publishing? hpoint
  cases point with
  | opening attempt connection wait deadline =>
      obtain ⟨hpassed, hchannel⟩ := Option.ite_none_right_eq_some.mp hpasses
      obtain ⟨point', htask', hadvance⟩ := hchange.publish_turn htask
      cases hchannel
      generalize w'.publisherAt i = p', hbroker : w'.broker = b' at hadvance
      cases hadvance with
      | endOpen hwait =>
          exact ⟨rfl, List.length_append, t, event, _, attempt, rfl, htask, rfl, htask'⟩
      | waitOpen hwait => cases hpassed.symm.trans hwait
      | openElapsed hwait => cases hpassed.symm.trans hwait
  | _ => cases hpasses

/-- A publish that has opened a channel and takes a turn numbers it. -/
theorem PublisherChange.keeps?_of_opened {w w' : System} {i t c : Nat} {event : Event}
    {attempt : Attempt} (htask : w.tasks[t]? = some (.publish i event (.opened attempt c))) :
    (⟨w, .turn t, w'⟩ : Moment).keeps? i = (w'.publisherAt i).slot := by
  simp [Moment.keeps?, Moment.publishing?_turn htask, Publishing.puts?]

/-- Nobody else numbers a channel. -/
theorem PublisherChange.keeps?_of_not_opened {w w' : System} {what : Happening} {i : Nat}
    (hnobody : ∀ (t : Nat) (event : Event) (attempt : Attempt) (channel : Nat), what = .turn t →
      w.tasks[t]? ≠ some (.publish i event (.opened attempt channel))) :
    (⟨w, what, w'⟩ : Moment).keeps? i = none := by
  refine if_neg fun hputs => ?_
  obtain ⟨channel, hchannel⟩ := Option.isSome_iff_exists.mp hputs
  obtain ⟨point, hpoint, hput⟩ := Option.bind_eq_some_iff.mp hchannel
  obtain ⟨t, event, hwhat, htask⟩ := Moment.exists_of_publishing? hpoint
  cases point with
  | opened attempt found => exact hnobody t event attempt found hwhat htask
  | _ => cases hput

/-- The channels that have been opened are known to the broker, in the order of their opening. -/
structure OpenedInOrder (w : System) (i : Nat) (past : List Moment) : Prop where
  lt_length : ∀ c ∈ openedBy i past, c < w.broker.channels.length
  increasing : (openedBy i past).Pairwise (· < ·)

theorem OpenedInOrder.change {w w' : System} {what : Happening} {i : Nat} {past : List Moment}
    (horder : w.OpenedInOrder i past) (hchange : w.PublisherChange i what w')
    (hkeeps : w.broker.KeepsChannels w'.broker) :
    w'.OpenedInOrder i (past ++ [⟨w, what, w'⟩]) := by
  cases hopens : (⟨w, what, w'⟩ : Moment).opens? i with
  | none =>
      have hsame : openedBy i (past ++ [⟨w, what, w'⟩]) = openedBy i past := by
        simp [openedBy_concat, hopens]
      refine ⟨fun c hc => ?_, hsame ▸ horder.increasing⟩
      exact (horder.lt_length c (hsame ▸ hc)).trans_le hkeeps.length_le
  | some c =>
      have hnew : openedBy i (past ++ [⟨w, what, w'⟩]) = openedBy i past ++ [c] := by
        simp [openedBy_concat, hopens]
      obtain ⟨hc, hlength, _⟩ := hchange.of_opens? hopens
      refine ⟨fun d hd => ?_, ?_⟩
      · rw [hnew, List.mem_append, List.mem_singleton] at hd
        rcases hd with hd | rfl
        · have hlt := horder.lt_length d hd
          omega
        · omega
      · -- the new one is not known to the broker before
        rw [hnew]
        refine List.pairwise_append.mpr ⟨horder.increasing, List.pairwise_singleton _ _, ?_⟩
        intro d hd e he
        have hlt := horder.lt_length d hd
        rw [List.mem_singleton.mp he]
        omega

/-- The numbers that have been given out are those from one on. -/
def NumbersInOrder (w : System) (i : Nat) (past : List Moment) : Prop :=
  (keptBy i past).map (·.id) = List.range' 1 (w.publisherAt i).opened

theorem NumbersInOrder.change {w w' : System} {what : Happening} {i : Nat} {past : List Moment}
    (horder : w.NumbersInOrder i past) (hchange : w.PublisherChange i what w') :
    w'.NumbersInOrder i (past ++ [⟨w, what, w'⟩]) := by
  unfold NumbersInOrder at *
  rcases hchange.fill_cases with ⟨hopened, _, hnobody⟩ |
    ⟨t, event, attempt, channel, rfl, htask, hslot, hopened⟩
  · rw [keptBy_concat, PublisherChange.keeps?_of_not_opened hnobody, hopened]
    simpa using horder
  · rw [keptBy_concat, PublisherChange.keeps?_of_opened htask, hslot, hopened]
    rw [List.range'_1_concat, Nat.add_comm 1]
    simp [horder]

/-- Has the channel been opened by a publish that is yet to put it into the slot? -/
def IsOpened (w : System) (i c : Nat) : Prop :=
  ∃ (t : Nat) (event : Event) (attempt : Attempt),
    w.tasks[t]? = some (.publish i event (.opened attempt c))

/-- Every channel that has been opened has been put into the slot, but for one that is about to
be. -/
structure OpenedAreKept (w : System) (i : Nat) (past : List Moment) : Prop where
  settled : (∀ c, ¬ w.IsOpened i c) → openedBy i past = (keptBy i past).map (·.channel)
  opened : ∀ c, w.IsOpened i c → openedBy i past = (keptBy i past).map (·.channel) ++ [c]

/-- Only one publish can have the lock. -/
theorem LockHeld.eq {w : System} {i t u : Nat} {event event' : Event} {point point' : Publishing}
    (hheld : w.LockHeld i) (ht : w.tasks[t]? = some (.publish i event point))
    (hpoint : point.holds = true) (hu : w.tasks[u]? = some (.publish i event' point'))
    (hpoint' : point'.holds = true) : t = u :=
  Option.some.inj ((hheld t event point ht hpoint).symm.trans (hheld u event' point' hu hpoint'))

/-- While a publish that has the lock takes its turn no other one has opened a channel. -/
theorem PublisherChange.isOpened_cases {w w' : System} {what : Happening} {i c : Nat}
    (hchange : w.PublisherChange i what w') (hheld : w.LockHeld i) (hopened : w'.IsOpened i c) :
    (∀ (t : Nat) (event : Event) (point : Publishing), what = .turn t →
        w.tasks[t]? = some (.publish i event point) → point.holds = false) ∧ w.IsOpened i c ∨
      (⟨w, what, w'⟩ : Moment).opens? i = some c := by
  obtain ⟨t, event, attempt, htask'⟩ := hopened
  rcases hchange.publish_cases htask' with ⟨hturn, _, hkept⟩ |
    ⟨rfl, point, p', b', htask, _, _, hadvance⟩ | hstart
  · refine .inl ⟨fun u event' point' hwhat hu => ?_, t, event, attempt, hkept⟩
    by_contra hholds
    exact hturn (by rw [hwhat, hheld.eq hkept rfl hu (by simpa using hholds)])
  · cases hadvance with
    | endOpen hwait =>
        refine .inr ?_
        simp [Moment.opens?, Moment.publishing?_turn htask, Publishing.opens?, hwait]
  · cases hstart

section OpenedAreKept

variable {w w' : System} {what : Happening} {i : Nat} {past : List Moment}

/-- Nobody opens a channel or puts one into the slot. -/
private theorem OpenedAreKept.change_of_neither (hkept : w.OpenedAreKept i past)
    (hheld : w.LockHeld i) (hchange : w.PublisherChange i what w')
    (hsupervision : w.SupervisionChange what w')
    (hopens : (⟨w, what, w'⟩ : Moment).opens? i = none)
    (hnobody : ∀ (t : Nat) (event : Event) (attempt : Attempt) (channel : Nat), what = .turn t →
      w.tasks[t]? ≠ some (.publish i event (.opened attempt channel))) :
    w'.OpenedAreKept i (past ++ [⟨w, what, w'⟩]) := by
  -- a publish that has opened a channel does not rest, and is where it was
  have hsame (c : Nat) : w'.IsOpened i c ↔ w.IsOpened i c := by
    constructor
    · intro hopened
      rcases hchange.isOpened_cases hheld hopened with ⟨_, hbefore⟩ | hnew
      · exact hbefore
      · cases hopens.symm.trans hnew
    · rintro ⟨t, event, attempt, htask⟩
      have hother : what ≠ .turn t := fun hwhat => hnobody t event attempt c hwhat htask
      exact ⟨t, event, attempt, hsupervision.task_kept hother (.inl rfl) htask⟩
  have hkeeps : (⟨w, what, w'⟩ : Moment).keeps? i = none :=
    PublisherChange.keeps?_of_not_opened hnobody
  refine ⟨fun hnone => ?_, fun c hopened => ?_⟩
  · have hbefore := hkept.settled fun c hopened => hnone c ((hsame c).mpr hopened)
    simp [openedBy_concat, keptBy_concat, hopens, hkeeps, hbefore]
  · have hbefore := hkept.opened c ((hsame c).mp hopened)
    simp [openedBy_concat, keptBy_concat, hopens, hkeeps, hbefore]

/-- A publish opens a channel.  It has the lock, so that no other one has opened one before. -/
private theorem OpenedAreKept.change_of_opens {c : Nat} (hkept : w.OpenedAreKept i past)
    (hheld : w.LockHeld i) (hchange : w.PublisherChange i what w')
    (hopens : (⟨w, what, w'⟩ : Moment).opens? i = some c)
    (hnobody : ∀ (t : Nat) (event : Event) (attempt : Attempt) (channel : Nat), what = .turn t →
      w.tasks[t]? ≠ some (.publish i event (.opened attempt channel))) :
    w'.OpenedAreKept i (past ++ [⟨w, what, w'⟩]) := by
  obtain ⟨_, _, t, event, point, attempt, rfl, htask, hholds, htask'⟩ := hchange.of_opens? hopens
  have hkeeps : (⟨w, .turn t, w'⟩ : Moment).keeps? i = none :=
    PublisherChange.keeps?_of_not_opened hnobody
  have hbefore : openedBy i past = (keptBy i past).map (·.channel) := by
    refine hkept.settled ?_
    rintro d ⟨u, event', attempt', hopened⟩
    obtain rfl := hheld.eq hopened rfl htask hholds
    exact hnobody u event' attempt' d rfl hopened
  refine ⟨fun hnone => absurd ⟨t, event, attempt, htask'⟩ (hnone c), fun d hopened => ?_⟩
  rcases hchange.isOpened_cases hheld hopened with ⟨hfree, _⟩ | hnew
  · rw [hfree t event point rfl htask] at hholds
    cases hholds
  · obtain rfl := Option.some.inj (hopens.symm.trans hnew)
    simp [openedBy_concat, keptBy_concat, hopens, hkeeps, hbefore]

/-- A publish puts the channel that it has opened into the slot. -/
private theorem OpenedAreKept.change_of_keeps {t id channel : Nat} {event : Event}
    {attempt : Attempt} (hkept : w.OpenedAreKept i past) (hheld : w.LockHeld i)
    (hchange : w.PublisherChange i (.turn t) w')
    (htask : w.tasks[t]? = some (.publish i event (.opened attempt channel)))
    (hslot : (w'.publisherAt i).slot = some ⟨id, channel⟩) :
    w'.OpenedAreKept i (past ++ [⟨w, .turn t, w'⟩]) := by
  have hopens : (⟨w, .turn t, w'⟩ : Moment).opens? i = none := by
    simp [Moment.opens?, Moment.publishing?_turn htask, Publishing.opens?]
  have hkeeps : (⟨w, .turn t, w'⟩ : Moment).keeps? i = some ⟨id, channel⟩ :=
    (PublisherChange.keeps?_of_opened htask).trans hslot
  have hbefore := hkept.opened channel ⟨t, event, attempt, htask⟩
  refine ⟨fun _ => ?_, fun c hopened => ?_⟩
  · simp [openedBy_concat, keptBy_concat, hopens, hkeeps, hbefore]
  · rcases hchange.isOpened_cases hheld hopened with ⟨hfree, _⟩ | hnew
    · cases hfree t event _ rfl htask
    · cases hopens.symm.trans hnew

theorem OpenedAreKept.change (hkept : w.OpenedAreKept i past) (hheld : w.LockHeld i)
    (hchange : w.PublisherChange i what w') (hsupervision : w.SupervisionChange what w') :
    w'.OpenedAreKept i (past ++ [⟨w, what, w'⟩]) := by
  rcases hchange.fill_cases with ⟨_, _, hnobody⟩ |
    ⟨t, event, attempt, channel, rfl, htask, hslot, _⟩
  · cases hopens : (⟨w, what, w'⟩ : Moment).opens? i with
    | none => exact hkept.change_of_neither hheld hchange hsupervision hopens hnobody
    | some c => exact hkept.change_of_opens hheld hchange hopens hnobody
  · exact hkept.change_of_keeps hheld hchange htask hslot

end OpenedAreKept

end System

/-! ## Every run -/

namespace Run

variable {w₀ w : System} {past : List Moment} {i : Nat}

theorem noticesHeld (hrun : Run w₀ past w) (hfresh : w₀.Fresh) : w.broker.NoticesHeld := by
  have hnone : w₀.broker.NoticesHeld := by
    intro channel hmem
    rw [hfresh.channels] at hmem
    cases hmem
  exact hrun.keepsClosed.channels.noticesHeld hnone

theorem emptyWhileOpening (hrun : Run w₀ past w) (hfresh : w₀.Fresh)
    (hi : i < w₀.publishers.length) : w.EmptyWhileOpening i := by
  induction hrun with
  | refl => exact fun t event point htask => absurd htask hfresh.not_task
  | snoc hpast hafter ih =>
      exact ih.change (hpast.lockHeld hfresh hi) (hpast.publisherChange_of_snoc hi hafter)

theorem numbersFit (hrun : Run w₀ past w) (hfresh : w₀.Fresh) (hi : i < w₀.publishers.length) :
    w.NumbersFit i := by
  induction hrun with
  | refl =>
      refine ⟨fun kept hslot => ?_, fun t kept point htask => absurd htask hfresh.not_task,
        fun t kept current point htask => absurd htask hfresh.not_task⟩
      rw [hfresh.publisherAt_slot] at hslot
      cases hslot
  | snoc hpast hafter ih => exact ih.change (hpast.publisherChange_of_snoc hi hafter)

theorem watchesInformed (hrun : Run w₀ past w) (hfresh : w₀.Fresh)
    (hi : i < w₀.publishers.length) : w.WatchesInformed i := by
  induction hrun with
  | refl => exact fun t kept point htask => absurd htask hfresh.not_task
  | snoc hpast hafter ih =>
      exact ih.change (hpast.noticesHeld hfresh) (hpast.publisherChange_of_snoc hi hafter)
        (System.after_supervisionChange hafter).keepsClosed.channels

theorem openedInOrder (hrun : Run w₀ past w) (hi : i < w₀.publishers.length) :
    w.OpenedInOrder i past := by
  induction hrun with
  | refl => exact ⟨nofun, .nil⟩
  | snoc hpast hafter ih =>
      exact ih.change (hpast.publisherChange_of_snoc hi hafter)
        (System.after_supervisionChange hafter).keepsClosed.channels

theorem numbersInOrder (hrun : Run w₀ past w) (hfresh : w₀.Fresh) (hi : i < w₀.publishers.length) :
    w.NumbersInOrder i past := by
  induction hrun with
  | refl =>
      rw [System.NumbersInOrder, hfresh.publisherAt_opened]
      rfl
  | snoc hpast hafter ih => exact ih.change (hpast.publisherChange_of_snoc hi hafter)

theorem openedAreKept (hrun : Run w₀ past w) (hfresh : w₀.Fresh) (hi : i < w₀.publishers.length) :
    w.OpenedAreKept i past := by
  induction hrun with
  | refl =>
      refine ⟨fun _ => rfl, ?_⟩
      rintro c ⟨t, event, attempt, htask⟩
      exact absurd htask hfresh.not_task
  | snoc hpast hafter ih =>
      exact ih.change (hpast.lockHeld hfresh hi) (hpast.publisherChange_of_snoc hi hafter)
        (System.after_supervisionChange hafter)

/-- As long as no close of a channel fails, an open channel that the publisher has opened is in its
slot or in the hand of one of its tasks. -/
theorem holdsChannel (hrun : Run w₀ past w) (hfresh : w₀.Fresh) (hi : i < w₀.publishers.length)
    (hgrants : w₀.broker.Grants .closeChannel)
    (hcloses : ∀ m ∈ past, m.what.fails .closeChannel = false) {c : Nat} (hc : c ∈ openedBy i past)
    (hopen : w.broker.channelClosed c = false) : w.HoldsChannel i c := by
  induction hrun with
  | refl => cases hc
  | @snoc past w w' what hpast hafter ih =>
      simp only [List.mem_append, List.mem_singleton, or_imp, forall_and, forall_eq] at hcloses
      have hchange := hpast.publisherChange_of_snoc hi hafter
      have hkeeps := (System.after_supervisionChange hafter).keepsClosed.channels
      rw [openedBy_concat, List.mem_append, Option.mem_toList] at hc
      rcases hc with hold | hnew
      · -- it has been open before, and in somebody's hand or in the slot
        have hbefore : w.broker.channelClosed c = false := by
          by_contra hclosed
          rw [hkeeps.closed c ((hpast.openedInOrder hi).lt_length c hold) (by simpa using hclosed)]
            at hopen
          cases hopen
        exact (ih hcloses.1 hold hbefore).change hchange (hpast.grants hgrants hcloses.1)
          (hpast.emptyWhileOpening hfresh hi) (hpast.numbersFit hfresh hi)
          (hpast.watchesInformed hfresh hi) hbefore hopen
      · obtain ⟨_, _, t, event, point, attempt, _, _, _, htask'⟩ := hchange.of_opens? hnew
        exact .inr ⟨t, _, htask', by simp [Task.channelInHand, Publishing.channelInHand]⟩

end Run

/-- Every task of the publisher `i` rests. -/
def System.PublisherRests (w : System) (i : Nat) : Prop :=
  ∀ (t : Nat) (task : Task), w.tasks[t]? = some task → task.publisher? = some i →
    task.rests = true

theorem System.AtRest.publisherRests {w : System} {i : Nat} (hrest : w.AtRest) :
    w.PublisherRests i :=
  fun _ _ htask _ => hrest.rests htask

/-- What becomes of the channels of the publisher `i` in the course of a run. -/
structure ChannelLifecycle (w : System) (i : Nat) (past : List Moment) : Prop where
  /-- Whenever its tasks rest a channel that the publisher has opened is in its slot or closed. -/
  open_in_slot : w.PublisherRests i → ∀ c ∈ openedBy i past, w.broker.channelClosed c = false →
    (w.publisherAt i).channel? = some c
  /-- Every channel that the publisher has opened has been given a number then. -/
  numbered : w.PublisherRests i → openedBy i past = (keptBy i past).map (·.channel)
  /-- A channel that is opened later has a larger number. -/
  increasing : (keptBy i past).Pairwise fun earlier later =>
    earlier.id < later.id ∧ earlier.channel < later.channel
  /-- A watch leaves the slot alone unless it holds the watch's own channel, which has closed. -/
  watch : ∀ m ∈ past, ∀ (t : Nat) (kept : KeptChannel) (point : ChannelWatch), m.what = .turn t →
    m.before.tasks[t]? = some (.channelWatch i kept point) →
    (m.after.publisherAt i).slot = (m.before.publisherAt i).slot ∨
      (m.before.publisherAt i).slot = some kept ∧ (m.after.publisherAt i).slot = none ∧
        m.before.broker.channelClosed kept.channel = true

namespace Run

variable {w₀ w : System} {past : List Moment} {i : Nat}

theorem keptBy_increasing (hrun : Run w₀ past w) (hfresh : w₀.Fresh)
    (hi : i < w₀.publishers.length) : (keptBy i past).Pairwise fun earlier later =>
      earlier.id < later.id ∧ earlier.channel < later.channel := by
  have hids : ((keptBy i past).map (·.id)).Pairwise (· < ·) := by
    rw [hrun.numbersInOrder hfresh hi]
    exact List.pairwise_lt_range'
  have hchannels : ((keptBy i past).map (·.channel)).Pairwise (· < ·) := by
    have horder := (hrun.openedInOrder hi).increasing
    have hkept := hrun.openedAreKept hfresh hi
    by_cases hopened : ∃ c, w.IsOpened i c
    · obtain ⟨c, hc⟩ := hopened
      rw [hkept.opened c hc] at horder
      exact (List.pairwise_append.mp horder).1
    · rw [hkept.settled (not_exists.mp hopened)] at horder
      exact horder
  exact (List.pairwise_map.mp hids).and (List.pairwise_map.mp hchannels)

/-- A publisher has at most one open channel, which is in its slot; its channels are numbered in the
order of their opening; and a watch empties the slot only of the channel that it is over. -/
theorem channelLifecycle (hrun : Run w₀ past w) (hfresh : w₀.Fresh) (hi : i < w₀.publishers.length)
    (hgrants : w₀.broker.Grants .closeChannel)
    (hcloses : ∀ m ∈ past, m.what.fails .closeChannel = false) : ChannelLifecycle w i past where
  open_in_slot := by
    intro hrest c hc hopen
    rcases hrun.holdsChannel hfresh hi hgrants hcloses hc hopen with hslot | ⟨t, task, htask, hhand⟩
    · exact hslot
    · -- a task of another publisher has nothing in hand, and one of this goes on at once
      by_cases hmine : task.publisher? = some i
      · rw [Task.channelInHand_of_rests (hrest t task htask hmine)] at hhand
        cases hhand
      · rw [Task.channelInHand_of_other hmine] at hhand
        cases hhand
  numbered := by
    intro hrest
    refine (hrun.openedAreKept hfresh hi).settled ?_
    rintro c ⟨t, event, attempt, htask⟩
    cases hrest t _ htask rfl
  increasing := hrun.keptBy_increasing hfresh hi
  watch := by
    intro m hmem t kept point hwhat htask
    obtain ⟨earlier, later, _, hearlier, hafter, _⟩ := hrun.exists_of_mem hmem
    have hchange := hearlier.publisherChange_of_snoc hi hafter
    rw [hwhat] at hchange
    obtain ⟨point', hadvance⟩ := hchange.watch_turn htask
    exact System.watch_leaves (hearlier.numbersFit hfresh hi)
      (hearlier.watchesInformed hfresh hi) htask hadvance

/-- A channel closes, and another one is opened before the watch over the first gets the lock. -/
def lateWatch : List Happening :=
  [.call .connect] ++ List.replicate 4 (.turn 0) ++
  [.call (.publish 0 bareEvent)] ++ List.replicate 8 (.turn 1) ++
  [.incident (.dropChannel 0 .graceful), .call (.publish 0 bareEvent)] ++
  List.replicate 8 (.turn 3) ++ List.replicate 3 (.turn 2)

theorem lateWatch_leaves_open :
    ((System.single.played lateWatch).2.publisherAt 0).channel? = some 1 :=
  ((System.single.run_played lateWatch).channelLifecycle System.single_fresh (i := 0) (by decide)
    (by simp [Broker.Grants, System.single]) (by decide)).open_in_slot
      (System.AtRest.publisherRests (by decide)) 1 (by decide) (by decide)

end Run

end BrokerClient
