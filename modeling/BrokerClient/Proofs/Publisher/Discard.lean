import BrokerClient.Proofs.Publisher.Lock

/-!
# Which channels a publisher discards

A publish whose channel has gone gives the lock back before it takes it again for the discard.
Publishes that have queued meanwhile come first, so that the discard can meet a channel that one of
them has opened and that nobody has failed on.  Unlike the watch over a channel it does not look
whether the slot still holds the channel that it is about.

Such a healthy channel is all that a discard can close wrongly: what the slot holds was there when
the publish failed, and then it is the channel that it failed on, or has been put there since.
-/

namespace BrokerClient

/-! ## Failures and openings -/

/-- The channel on which the next turn of a publish finds that the channel has gone. -/
def Publishing.failsOn? (b : Broker) : Publishing → Option Nat
  | ready _ channel =>
    match b.beginPublish channel with
    | (_, .error e) => if e.isChannelClosed then some channel else none
    | (_, .ok _) => none
  | _ => none

/-- The channel that the next turn of a publish puts into the slot. -/
def Publishing.puts? : Publishing → Option Nat
  | opened _ channel => some channel
  | _ => none

/-- Has an attempt found that its channel has gone? -/
def Task.hasFailed : Task → Bool
  | publish _ _ (.failed _ e) => e.isChannelClosed
  | _ => false

/-- Is it a call to close the channel of the publisher `i`? -/
def Happening.closesPublisher (i : Nat) : Happening → Bool
  | call (.closePublisher j) => j = i
  | _ => false

namespace Moment

/-- The point of the publish of the publisher `i` that takes a turn. -/
def publishing? (i : Nat) (m : Moment) : Option Publishing :=
  match m.what with
  | .turn t =>
    match m.before.tasks[t]? with
    | some (.publish j _ point) => if j = i then some point else none
    | _ => none
  | _ => none

/-- Does an attempt of the publisher `i` to publish on the channel find that it has gone? -/
def failsOn (i channel : Nat) (m : Moment) : Bool :=
  (m.publishing? i).any fun point => point.failsOn? m.before.broker = some channel

/-- Does a publish of the publisher `i` put the channel, which it has opened, into the slot? -/
def puts (i channel : Nat) (m : Moment) : Bool :=
  (m.publishing? i).any fun point => point.puts? = some channel

/-- Does the attempt of the publish `t` end with its channel gone? -/
def isFailureOf (t : Nat) (m : Moment) : Bool :=
  m.isTurnOf t && (m.after.tasks[t]?).any Task.hasFailed

theorem publishing?_turn {w w' : System} {i t : Nat} {event : Event} {point : Publishing}
    (htask : w.tasks[t]? = some (.publish i event point)) :
    (⟨w, .turn t, w'⟩ : Moment).publishing? i = some point := by
  simp [publishing?, htask]

theorem exists_of_publishing? {i : Nat} {m : Moment} {point : Publishing}
    (hpoint : m.publishing? i = some point) : ∃ (t : Nat) (event : Event), m.what = .turn t ∧
      m.before.tasks[t]? = some (.publish i event point) := by
  unfold publishing? at hpoint
  split at hpoint
  · rename_i t hwhat
    split at hpoint
    · rename_i j event found htask
      split at hpoint
      · rename_i hj
        cases hpoint
        exact ⟨t, event, hwhat, hj ▸ htask⟩
      · cases hpoint
    · cases hpoint
  · cases hpoint

theorem exists_of_failsOn {i channel : Nat} {m : Moment} (hfails : m.failsOn i channel = true) :
    ∃ (t : Nat) (event : Event) (attempt : Attempt), m.what = .turn t ∧
      m.before.tasks[t]? = some (.publish i event (.ready attempt channel)) := by
  obtain ⟨point, hpoint, hfailed⟩ := (Option.any_eq_true _ _).mp hfails
  obtain ⟨t, event, hwhat, htask⟩ := exists_of_publishing? hpoint
  have hchannel : point.failsOn? m.before.broker = some channel := of_decide_eq_true hfailed
  cases point with
  | ready attempt found =>
      have heq : found = channel := by
        simp only [Publishing.failsOn?] at hchannel
        split at hchannel
        · simpa using (Option.ite_none_right_eq_some.mp hchannel).2
        · cases hchannel
      exact ⟨t, event, attempt, hwhat, heq ▸ htask⟩
  | _ => cases hchannel

theorem exists_of_puts {i channel : Nat} {m : Moment} (hputs : m.puts i channel = true) :
    ∃ (t : Nat) (event : Event) (attempt : Attempt), m.what = .turn t ∧
      m.before.tasks[t]? = some (.publish i event (.opened attempt channel)) := by
  obtain ⟨point, hpoint, hput⟩ := (Option.any_eq_true _ _).mp hputs
  obtain ⟨t, event, hwhat, htask⟩ := exists_of_publishing? hpoint
  cases point with
  | opened attempt found =>
      obtain rfl := Option.some.inj (of_decide_eq_true hput)
      exact ⟨t, event, attempt, hwhat, htask⟩
  | _ => cases of_decide_eq_true hput

end Moment

/-- Has an attempt of the publisher `i` to publish on the channel found that it has gone? -/
def FailedOn (i channel : Nat) (past : List Moment) : Prop :=
  ∃ m ∈ past, m.failsOn i channel = true

/-- Has a publish of the publisher `i` other than `t` put the channel, which it has opened, into the
slot? -/
def OpenedByOther (i t channel : Nat) (past : List Moment) : Prop :=
  ∃ m ∈ past, m.isTurnOf t = false ∧ m.puts i channel = true

instance (i channel : Nat) (past : List Moment) : Decidable (FailedOn i channel past) :=
  inferInstanceAs (Decidable (∃ m ∈ past, _))

instance (i t channel : Nat) (past : List Moment) : Decidable (OpenedByOther i t channel past) :=
  inferInstanceAs (Decidable (∃ m ∈ past, _ ∧ _))

/-- What has happened since the attempt of the publish `t` has failed. -/
def sinceFailure (t : Nat) (past : List Moment) : List Moment :=
  past.rtakeWhile fun m => !m.isFailureOf t

/-- Is the channel one that another publish has opened since the publish `t` has failed, and that
nobody has failed on? -/
def Healthy (i t channel : Nat) (past : List Moment) : Prop :=
  OpenedByOther i t channel (sinceFailure t past) ∧ ¬ FailedOn i channel (sinceFailure t past)

instance (i t channel : Nat) (past : List Moment) : Decidable (Healthy i t channel past) :=
  inferInstanceAs (Decidable (_ ∧ _))

theorem failedOn_concat {i channel : Nat} {past : List Moment} {m : Moment} :
    FailedOn i channel (past ++ [m]) ↔ FailedOn i channel past ∨ m.failsOn i channel = true := by
  simp [FailedOn, or_and_right, exists_or]

theorem openedByOther_concat {i t channel : Nat} {past : List Moment} {m : Moment} :
    OpenedByOther i t channel (past ++ [m]) ↔
      OpenedByOther i t channel past ∨ m.isTurnOf t = false ∧ m.puts i channel = true := by
  simp [OpenedByOther, or_and_right, exists_or]

theorem sinceFailure_concat {t : Nat} {past : List Moment} {m : Moment}
    (hgoesOn : m.isFailureOf t = false) :
    sinceFailure t (past ++ [m]) = sinceFailure t past ++ [m] := by
  unfold sinceFailure
  rw [List.rtakeWhile_concat, if_pos (by simp [hgoesOn])]

/-- Has the channel failed a publish, or has another one opened it since the publish `t` has
failed? -/
def Explained (i t channel : Nat) (past : List Moment) : Prop :=
  FailedOn i channel past ∨ OpenedByOther i t channel (sinceFailure t past)

theorem Explained.concat {i t channel : Nat} {past : List Moment} {m : Moment}
    (hexplained : Explained i t channel past) (hgoesOn : m.isFailureOf t = false) :
    Explained i t channel (past ++ [m]) := by
  unfold Explained at *
  rw [failedOn_concat, sinceFailure_concat hgoesOn, openedByOther_concat]
  exact hexplained.imp .inl .inl

theorem Moment.isFailureOf_of_task {w w' : System} {what : Happening} {t : Nat} {task : Task}
    (htask : w'.tasks[t]? = some task) (hgoesOn : task.hasFailed = false) :
    (⟨w, what, w'⟩ : Moment).isFailureOf t = false := by
  simp [isFailureOf, htask, hgoesOn]

theorem Moment.isFailureOf_of_ne {t : Nat} {m : Moment} (hother : m.what ≠ .turn t) :
    m.isFailureOf t = false := by
  rw [isFailureOf, isTurnOf_of_ne hother, Bool.false_and]

/-! ## Channels that are in use -/

/-- The channel that a publish is about to put into the slot or to send on. -/
def Publishing.channel? : Publishing → Option Nat
  | opened _ channel | ready _ channel => some channel
  | _ => none

namespace System

/-- The broker knows the channels that the publisher `i` works with. -/
structure KnowsChannels (w : System) (i : Nat) : Prop where
  slot : ∀ kept, (w.publisherAt i).slot = some kept → kept.channel < w.broker.channels.length
  task : ∀ (t : Nat) (event : Event) (point : Publishing) (channel : Nat),
    w.tasks[t]? = some (.publish i event point) → point.channel? = some channel →
    channel < w.broker.channels.length

theorem KnowsChannels.change {w w' : System} {what : Happening} {i : Nat}
    (hknows : w.KnowsChannels i) (hchange : w.PublisherChange i what w')
    (hkeeps : w.broker.channels.length ≤ w'.broker.channels.length) : w'.KnowsChannels i := by
  constructor
  · intro kept hslot
    rcases hchange.slot_cases with hsame | hnone | ⟨t, event, attempt, id, channel, _, htask, hput⟩
    · exact (hknows.slot kept (hsame ▸ hslot)).trans_le hkeeps
    · cases hnone.symm.trans hslot
    · cases hput.symm.trans hslot
      exact (hknows.task t event _ channel htask rfl).trans_le hkeeps
  · intro t event point' channel htask' hchannel
    rcases hchange.publish_cases htask' with ⟨_, _, hkept⟩ |
      ⟨rfl, point, p', b', htask, _, hbroker, hadvance⟩ | rfl
    · exact (hknows.task t event point' channel hkept hchannel).trans_le hkeeps
    · cases hadvance with
      | reuse hslot hopen =>
          cases hchannel
          exact (hknows.slot _ hslot).trans_le hkeeps
      | endOpen hwait =>
          cases hchannel
          rw [hbroker]
          simp [Broker.endOpen]
      | install =>
          cases hchannel
          exact (hknows.task t event _ _ htask rfl).trans_le hkeeps
      | _ => cases hchannel
    · cases hchannel

/-- A publish that is ready to send finds its channel in the slot. -/
def ReadyInSlot (w : System) (i : Nat) : Prop :=
  ∀ (t : Nat) (event : Event) (attempt : Attempt) (channel : Nat),
    w.tasks[t]? = some (.publish i event (.ready attempt channel)) →
    (w.publisherAt i).slot.map (·.channel) = some channel

theorem ReadyInSlot.change {w w' : System} {what : Happening} {i : Nat} (hready : w.ReadyInSlot i)
    (hheld : w.LockHeld i) (hchange : w.PublisherChange i what w') : w'.ReadyInSlot i := by
  intro t event attempt channel htask'
  rcases hchange.publish_cases htask' with ⟨hturn, habort, hkept⟩ |
    ⟨rfl, point, p', b', htask, hpublisher, _, hadvance⟩ | hstart
  · have hholder := hheld t event _ hkept rfl
    rw [(hchange.spares hheld hturn habort).slot hholder]
    exact hready t event attempt channel hkept
  · rw [hpublisher]
    cases hadvance with
    | reuse hslot hopen => rw [hslot, Option.map_some]
    | install => rfl
  · cases hstart

end System

namespace Run

variable {w₀ w : System} {past : List Moment} {i : Nat}

theorem publisherChange_of_snoc (hrun : Run w₀ past w) (hi : i < w₀.publishers.length)
    {what : Happening} {w' : System} (hafter : w.after? what = some w') :
    w.PublisherChange i what w' :=
  System.after_publisherChange (hrun.publishers_length ▸ hi) hafter

theorem knowsChannels (hrun : Run w₀ past w) (hfresh : w₀.Fresh) (hi : i < w₀.publishers.length) :
    w.KnowsChannels i := by
  induction hrun with
  | refl =>
      refine ⟨fun kept hslot => ?_, fun t event point channel htask => ?_⟩
      · rw [hfresh.publisherAt_slot] at hslot
        cases hslot
      · exact absurd htask hfresh.not_task
  | snoc hpast hafter ih =>
      exact ih.change (hpast.publisherChange_of_snoc hi hafter)
        (System.after_supervisionChange hafter).keepsClosed.channels.length_le

theorem readyInSlot (hrun : Run w₀ past w) (hfresh : w₀.Fresh) (hi : i < w₀.publishers.length) :
    w.ReadyInSlot i := by
  induction hrun with
  | refl => exact fun t event attempt channel htask => absurd htask hfresh.not_task
  | snoc hpast hafter ih =>
      exact ih.change (hpast.lockHeld hfresh hi) (hpast.publisherChange_of_snoc hi hafter)

/-- Only a channel that has been there before can have failed a publish. -/
theorem lt_length_of_failedOn (hrun : Run w₀ past w) (hfresh : w₀.Fresh)
    (hi : i < w₀.publishers.length) {channel : Nat} (hfailed : FailedOn i channel past) :
    channel < w.broker.channels.length := by
  obtain ⟨m, hmem, hfails⟩ := hfailed
  obtain ⟨earlier, later, _, hearlier, hwhat, hlater⟩ := hrun.exists_of_mem hmem
  obtain ⟨t, event, attempt, _, htask⟩ := Moment.exists_of_failsOn hfails
  have hlt := (hearlier.knowsChannels hfresh hi).task t event _ channel htask rfl
  exact hlt.trans_le ((System.after_supervisionChange hwhat).keepsClosed.trans
    hlater.keepsClosed).channels.length_le

/-- Nobody has failed on a channel that is yet to be put into the slot. -/
theorem not_failedOn_opened (hrun : Run w₀ past w) (hfresh : w₀.Fresh)
    (hi : i < w₀.publishers.length) {t channel : Nat} {event : Event} {attempt : Attempt}
    (htask : w.tasks[t]? = some (.publish i event (.opened attempt channel))) :
    ¬ FailedOn i channel past := by
  induction hrun with
  | refl => exact fun ⟨m, hmem, _⟩ => absurd hmem List.not_mem_nil
  | @snoc past w w' what hpast hafter ih =>
      rw [failedOn_concat]
      rcases (hpast.publisherChange_of_snoc hi hafter).publish_cases htask with ⟨hturn, _, hkept⟩ |
        ⟨rfl, point, p', b', hbefore, _, _, hadvance⟩ | hstart
      · rintro (hfailed | hfails)
        · exact ih hkept hfailed
        · -- whoever fails holds the lock, as does the publish that has opened the channel
          obtain ⟨u, event', attempt', hwhat, hready⟩ := Moment.exists_of_failsOn hfails
          have hholder := hpast.lockHeld hfresh hi t event _ hkept rfl
          have hholder' := hpast.lockHeld hfresh hi u event' _ hready rfl
          obtain rfl := Option.some.inj (hholder.symm.trans hholder')
          exact hturn hwhat
      · cases hadvance with
        | endOpen hwait =>
            -- the channel is new to the broker
            rintro (hfailed | hfails)
            · exact absurd (hpast.lt_length_of_failedOn hfresh hi hfailed) (lt_irrefl _)
            · obtain ⟨u, event', attempt', hwhat, hready⟩ := Moment.exists_of_failsOn hfails
              cases hwhat
              cases hbefore.symm.trans hready
      · cases hstart

end Run

/-! ## What a discard meets -/

/-- Has the attempt found its channel gone, and is the slot yet to be emptied? -/
def Publishing.isToDiscard : Publishing → Bool
  | failed _ e => e.isChannelClosed
  | discardAsking | discardQueued => true
  | _ => false

theorem Publishing.failsOn?_of_refused {b b' : Broker} {attempt : Attempt} {channel : Nat}
    {e : BrokerError} (hbegin : b.beginPublish channel = (b', .error e))
    (hclosed : e.isChannelClosed = true) : (ready attempt channel).failsOn? b = some channel := by
  simp [failsOn?, hbegin, hclosed]

namespace System

/-- What the publishes of the publisher `i` discard, or would discard, has failed a publish or has
been opened by another one since. -/
structure DiscardsExplained (w : System) (i : Nat) (past : List Moment) : Prop where
  slot : ∀ (t : Nat) (event : Event) (point : Publishing) (kept : KeptChannel),
    w.tasks[t]? = some (.publish i event point) → point.isToDiscard = true →
    (w.publisherAt i).slot = some kept → Explained i t kept.channel past
  channel : ∀ (t : Nat) (event : Event) (channel : Nat),
    w.tasks[t]? = some (.publish i event (.discarding channel)) → Explained i t channel past

/-- A publish that fails on a channel finds that one in the slot; from then on the slot is filled
only by those who have opened a channel. -/
theorem DiscardsExplained.change_slot {w w' : System} {what : Happening} {i : Nat}
    {past : List Moment} (hexplained : w.DiscardsExplained i past) (hready : w.ReadyInSlot i)
    (hchange : w.PublisherChange i what w') {t : Nat} {event : Event} {point' : Publishing}
    {kept : KeptChannel} (htask' : w'.tasks[t]? = some (.publish i event point'))
    (hto : point'.isToDiscard = true) (hslot' : (w'.publisherAt i).slot = some kept) :
    Explained i t kept.channel (past ++ [⟨w, what, w'⟩]) := by
  rcases hchange.publish_cases htask' with ⟨hturn, _, hkept⟩ |
    ⟨rfl, point, p', b', htask, hpublisher, _, hadvance⟩ | rfl
  · -- the others fill the slot only with what they have opened
    have hother : (⟨w, what, w'⟩ : Moment).isFailureOf t = false := Moment.isFailureOf_of_ne hturn
    rcases hchange.slot_cases with hsame | hnone | ⟨u, event', attempt, id, channel, rfl, hu, hput⟩
    · exact (hexplained.slot t event point' kept hkept hto (hsame ▸ hslot')).concat hother
    · cases hnone.symm.trans hslot'
    · cases hput.symm.trans hslot'
      refine .inr ?_
      rw [sinceFailure_concat hother, openedByOther_concat]
      have hne : u ≠ t := fun heq => hturn (by rw [heq])
      have hputs : (⟨w, .turn u, w'⟩ : Moment).puts i channel = true := by
        simp [Moment.puts, Moment.publishing?_turn hu, Publishing.puts?]
      exact .inr ⟨by simp [Moment.isTurnOf, hne], hputs⟩
  · rw [hpublisher] at hslot'
    cases hadvance with
    | refusePublish hbegin =>
        -- what is in the slot is what the publish has just failed on
        have hchannel := hready t event _ _ htask
        rw [show (w.publisherAt i).slot = some kept from hslot'] at hchannel
        obtain rfl := Option.some.inj hchannel
        refine .inl (failedOn_concat.mpr (.inr ?_))
        simp [Moment.failsOn, Moment.publishing?_turn htask,
          Publishing.failsOn?_of_refused hbegin hto]
    | retry hclosed =>
        exact (hexplained.slot t event _ kept htask hclosed hslot').concat
          (Moment.isFailureOf_of_task htask' rfl)
    | askDiscard =>
        exact (hexplained.slot t event _ kept htask rfl hslot').concat
          (Moment.isFailureOf_of_task htask' rfl)
    | notReady | refuseOpen => cases hslot'
    | openElapsed | publishElapsed => cases hto
    | _ => cases hto
  · cases hto

theorem DiscardsExplained.change {w w' : System} {what : Happening} {i : Nat} {past : List Moment}
    (hexplained : w.DiscardsExplained i past) (hready : w.ReadyInSlot i)
    (hchange : w.PublisherChange i what w') :
    w'.DiscardsExplained i (past ++ [⟨w, what, w'⟩]) := by
  refine ⟨fun t event point' kept => hexplained.change_slot hready hchange, ?_⟩
  intro t event channel htask'
  rcases hchange.publish_cases htask' with ⟨hturn, _, hkept⟩ |
    ⟨rfl, point, p', b', htask, _, _, hadvance⟩ | hstart
  · exact (hexplained.channel t event channel hkept).concat (Moment.isFailureOf_of_ne hturn)
  · cases hadvance with
    | discard hheld hslot =>
        exact (hexplained.slot t event _ _ htask rfl hslot).concat
          (Moment.isFailureOf_of_task htask' rfl)
  · cases hstart

end System

namespace Run

variable {w₀ w : System} {past : List Moment} {i : Nat}

theorem discardsExplained (hrun : Run w₀ past w) (hfresh : w₀.Fresh)
    (hi : i < w₀.publishers.length) : w.DiscardsExplained i past := by
  induction hrun with
  | refl =>
      exact ⟨fun t event point kept htask => absurd htask hfresh.not_task,
        fun t event channel htask => absurd htask hfresh.not_task⟩
  | snoc hpast hafter ih =>
      exact ih.change (hpast.readyInSlot hfresh hi) (hpast.publisherChange_of_snoc hi hafter)

/-- Nobody closes the channel of a publisher if nobody is told to. -/
theorem no_closePublisher (hrun : Run w₀ past w) (hfresh : w₀.Fresh)
    (hi : i < w₀.publishers.length) (hcalls : ∀ m ∈ past, m.what.closesPublisher i = false)
    (t : Nat) (point : ClosePublisher) : w.tasks[t]? ≠ some (.closePublisher i point) := by
  induction hrun generalizing t point with
  | refl => exact hfresh.not_task
  | snoc hpast hafter ih =>
      have hearlier := ih fun m hmem => hcalls m (List.mem_append_left _ hmem)
      have hlast := hcalls _ (List.mem_append_right _ (List.mem_singleton_self _))
      intro htask
      rcases (hpast.publisherChange_of_snoc hi hafter).task_cases htask rfl with
        ⟨_, _, hkept⟩ | ⟨_, before, hbefore, hmoved⟩ | ⟨call, rfl, hcall⟩ | ⟨kept, _, hwatch⟩
      · exact hearlier t point hkept
      · cases hmoved with
        | closePublisher => exact hearlier t _ hbefore
      · cases call <;> cases hcall
        simp [Happening.closesPublisher] at hlast
      · cases hwatch

/-- A channel that has been opened since the publish `t` has failed cannot have failed anybody
before. -/
theorem failedOn_iff_not_healthy (hrun : Run w₀ past w) (hfresh : w₀.Fresh)
    (hi : i < w₀.publishers.length) {t channel : Nat} (hexplained : Explained i t channel past) :
    FailedOn i channel past ↔ ¬ Healthy i t channel past := by
  have hsuffix : sinceFailure t past <:+ past := List.rtakeWhile_suffix _ _
  constructor
  · rintro ⟨m', hmem', hfails⟩ ⟨⟨m, hmem, _, hputs⟩, hnone⟩
    -- nobody had failed on the channel when it was put into the slot
    obtain ⟨earlier, hearlier⟩ := hsuffix
    obtain ⟨before, later, hsplit⟩ := List.append_of_mem hmem
    have hpast : past = (earlier ++ before) ++ m :: later := by
      rw [← hearlier, hsplit, List.append_assoc]
    obtain ⟨u, event, attempt, _, hopened⟩ := Moment.exists_of_puts hputs
    have hfirst := (hrun.split hpast).1.not_failedOn_opened hfresh hi hopened
    rw [hpast, List.mem_append] at hmem'
    rcases hmem' with hmem' | hmem'
    · exact hfirst ⟨m', hmem', hfails⟩
    · exact hnone ⟨m', hsplit ▸ List.mem_append_right _ hmem', hfails⟩
  · intro hill
    rcases hexplained with hfailed | hopened
    · exact hfailed
    · by_contra hnone
      exact hill ⟨hopened, fun ⟨m, hmem, hfails⟩ => hnone ⟨m, hsuffix.subset hmem, hfails⟩⟩

/-- As long as nobody asks for it a publisher closes open channels only in discards.  The channel
then has failed an attempt to publish on it, unless another publish has opened it since the one that
discards it has failed, and nobody has failed on it. -/
theorem discarded_channel_failed_iff (hrun : Run w₀ past w) (hfresh : w₀.Fresh)
    (hi : i < w₀.publishers.length) (hcalls : ∀ m ∈ past, m.what.closesPublisher i = false)
    {w' : System} {t : Nat} {task : Task} (htask : w.tasks[t]? = some task)
    (hkind : task.publisher? = some i) (hafter : w.after? (.turn t) = some w') :
    w'.broker.closeLog = w.broker.closeLog ∨
      ∃ (event : Event) (channel : Nat), task = .publish i event (.discarding channel) ∧
        w.broker.channelClosed channel = false ∧
        w'.broker = (w.broker.closeChannel channel).1 ∧
        (FailedOn i channel past ↔ ¬ Healthy i t channel past) := by
  cases hrun.publisherChange_of_snoc hi hafter with
  | turn hturn =>
      cases hturn with
      | publish hpublish hadvance hpublisher hbroker htasks hspawned =>
          cases htask.symm.trans hpublish
          rcases hadvance.closeLog with hsame | ⟨channel, rfl, hopen, hclose⟩
          · exact .inl (by rw [hbroker, hsame])
          · have hexplained := (hrun.discardsExplained hfresh hi).channel t _ channel hpublish
            exact .inr ⟨_, channel, rfl, hopen, hbroker.trans hclose,
              hrun.failedOn_iff_not_healthy hfresh hi hexplained⟩
      | closePublisher hclose =>
          exact absurd hclose (hrun.no_closePublisher hfresh hi hcalls t _)
      | channelWatch hwatch hadvance hpublisher hbroker htasks => exact .inl (by rw [hbroker])
      | other hother hbefore =>
          cases htask.symm.trans hother
          exact absurd hkind hbefore
  | quiet hwhat => rcases hwhat with ⟨_, hwhat⟩ | ⟨_, hwhat⟩ | ⟨_, hwhat⟩ <;> cases hwhat

/-- An event without a body. -/
def bareEvent : Event where
  exchange := "x"
  routingKey := "k"
  messageId := "m"
  contentType := "c"
  body := []
  timestamp := ⟨0, 0⟩

/-- Two publishes, the second of which queues while the first waits for its channel.  The first one
fails on that channel; the second opens another one, sends on it and ends before the discard. -/
def queuedPublishes : List Happening :=
  [.call .connect] ++ List.replicate 4 (.turn 0) ++
  [.incident (.setPace .opening ⟨true, 0⟩), .call (.publish 0 bareEvent),
    .call (.publish 0 bareEvent)] ++ List.replicate 3 (.turn 1) ++ [.turn 2] ++
  [.incident (.setPace .opening ⟨false, 0⟩),
    .incident (.queueFailure .publish (.channelClosed "x"))] ++
  List.replicate 6 (.turn 1) ++ List.replicate 7 (.turn 2) ++ [.turn 1]

theorem queuedPublishes_close_healthy :
    ∃ w', (System.single.played queuedPublishes).2.after? (.turn 1) = some w' ∧
      w'.broker = ((System.single.played queuedPublishes).2.broker.closeChannel 1).1 ∧
      ¬ FailedOn 0 1 (System.single.played queuedPublishes).1 := by
  obtain ⟨w', hafter⟩ : ∃ w', (System.single.played queuedPublishes).2.after? (.turn 1) = some w' :=
    Option.isSome_iff_exists.mp (by decide)
  have htask : (System.single.played queuedPublishes).2.tasks[1]? =
      some (.publish 0 bareEvent (.discarding 1)) := rfl
  have hlog : w'.broker.closeLog ≠ (System.single.played queuedPublishes).2.broker.closeLog := by
    rw [← Option.get_of_eq_some (by decide) hafter]
    decide
  rcases (System.single.run_played queuedPublishes).discarded_channel_failed_iff System.single_fresh
    (i := 0) (by decide) (by decide) htask rfl hafter with hsame |
    ⟨event, channel, heq, _, hclose, hiff⟩
  · exact absurd hsame hlog
  · cases heq
    exact ⟨w', hafter, hclose, fun hfailed => hiff.mp hfailed (by decide)⟩

/-- Even when tasks are switched only where they rest, a discard can close an open channel that no
publish has failed on. -/
theorem not_forall_discarded_channel_failed :
    ¬ ∀ (w₀ w w' : System) (past : List Moment) (i t channel : Nat) (event : Event), w₀.Fresh →
      Run w₀ past w → Cooperative past → w.AtRestBut t → i < w₀.publishers.length →
      (∀ m ∈ past, m.what.closesPublisher i = false) →
      w.tasks[t]? = some (.publish i event (.discarding channel)) →
      w.after? (.turn t) = some w' → w.broker.channelClosed channel = false →
      w'.broker.closeLog = w.broker.closeLog ++ [channel] → FailedOn i channel past := by
  intro hclaim
  have hfailed := hclaim _ _ _ _ 0 1 1 bareEvent System.single_fresh
    (System.single.run_played queuedPublishes) (by decide) (by decide) (by decide) (by decide) rfl
    (Option.some_get (by decide)).symm (by decide) (by decide)
  exact absurd hfailed (by decide)

end Run

end BrokerClient
