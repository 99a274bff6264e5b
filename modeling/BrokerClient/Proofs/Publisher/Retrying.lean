import BrokerClient.Proofs.Publisher.AttemptLog
import BrokerClient.Proofs.Publisher.CachedChannel
import Mathlib.Data.List.Nodup

/-!
# A publish is retried once

A publish makes a second attempt if the first has found that its channel or its connection has gone,
and then only.  Between the two it empties the slot, closes what the slot has held and rests once.
Whatever the other publishes do meanwhile, a channel that has been in the slot and is out of it
never comes back, so that the second attempt has another channel than the first.

A publish whose attempt fails in any other way leaves an open channel in the slot, where the next
publish finds it.
-/

namespace BrokerClient

/-! ## Where the task has been -/

namespace System

variable {w w' : System} {what : Happening} {i t : Nat} {event : Event}

/-- A publish has stayed where it was, has taken a turn, or is new. -/
theorem PublisherChange.publish_history (hchange : w.PublisherChange i what w')
    (hafter : w.after? what = some w') {point' : Publishing}
    (htask' : w'.tasks[t]? = some (.publish i event point')) :
    (what ≠ .turn t ∧ w.tasks[t]? = some (.publish i event point')) ∨
      (what = .turn t ∧ ∃ point, w.tasks[t]? = some (.publish i event point) ∧
        Publishing.Advance w.supervisor w.broker (w.publisherAt i) t event point
          (w'.publisherAt i) w'.broker point') ∨
      (w.tasks.length ≤ t ∧ point' = .start) := by
  rcases after_task_cases hafter htask' with hkept | ⟨rfl, task, htask, hbegun⟩ | hdropped |
    ⟨hle, hnew⟩
  · exact .inl hkept
  · obtain ⟨point, rfl⟩ := Task.begun_eq_publish hbegun.symm
    obtain ⟨point'', htask'', hadvance⟩ := hchange.publish_turn htask
    cases htask'.symm.trans htask''
    exact .inr (.inl ⟨rfl, point, htask, hadvance⟩)
  · cases hdropped
  · cases hnew
    exact .inr (.inr ⟨hle, rfl⟩)

theorem PublisherChange.retryDelay (hchange : w.PublisherChange i what w') :
    (w'.publisherAt i).retryDelay = (w.publisherAt i).retryDelay := by
  cases hchange with
  | turn hturn =>
      cases hturn with
      | publish htask hadvance hpublisher =>
          rw [hpublisher]
          cases hadvance <;> rfl
      | closePublisher htask hadvance hpublisher =>
          rw [hpublisher]
          cases hadvance <;> rfl
      | channelWatch htask hadvance hpublisher =>
          rw [hpublisher]
          cases hadvance <;> rfl
      | other htask hother hother' hspawned hpublisher => rw [hpublisher]
  | call hpublisher => rw [hpublisher]
  | abort htask hrests hpublisher =>
      rcases hpublisher with hpublisher | hpublisher <;> rw [hpublisher]
      rfl
  | quiet hwhat hpublisher => rw [hpublisher]

end System

namespace Run

variable {w₀ w w' : System} {past more : List Moment} {i t : Nat} {event : Event}

/-- A publish that is new has done nothing. -/
theorem publishLog_of_new (hrun : Run w₀ past w) (hle : w.tasks.length ≤ t) {what : Happening} :
    publishLog t (past ++ [⟨w, what, w'⟩]) = [] := by
  have hearlier : publishLog t past = [] := by
    refine List.flatMap_eq_nil_iff.mpr fun m hmem => ?_
    simp [Moment.publishEvents, hrun.isTurnOf_eq_false hle hmem]
  rw [publishLog_concat, hearlier]
  simp [Moment.publishEvents, List.getElem?_eq_none hle]

/-- What the points of a publish say of what it has done is so. -/
theorem hasDone (hrun : Run w₀ past w) (hfresh : w₀.Fresh) (hi : i < w₀.publishers.length)
    {point : Publishing} (htask : w.tasks[t]? = some (.publish i event point)) :
    point.HasDone (w.publisherAt i).retryDelay.millis (publishLog t past) := by
  induction hrun generalizing point with
  | refl => exact absurd htask hfresh.not_task
  | @snoc past w w' what hpast hafter ih =>
      have hchange := hpast.publisherChange_of_snoc hi hafter
      rw [hchange.retryDelay]
      rcases hchange.publish_history hafter htask with ⟨hother, hkept⟩ |
        ⟨rfl, before, hbefore, hadvance⟩ | ⟨hle, rfl⟩
      · rw [publishLog_concat, Moment.publishEvents_of_ne hother, List.append_nil]
        exact ih hkept
      · rw [publishLog_concat, Moment.publishEvents_turn hbefore htask]
        exact hadvance.hasDone (ih hbefore)
      · rw [hpast.publishLog_of_new hle]
        exact .first

end Run

/-! ## No channel is used twice -/

/-- Has the publish emptied the slot for its second attempt, and is this yet to settle on a
channel? -/
def Publishing.isBetween : Publishing → Bool
  | discarding _ | resting _ => true
  | asking attempt | queued attempt | preparing attempt => attempt = .second
  | opening attempt _ _ _ | opened attempt _ => attempt = .second
  | _ => false

section Turns

variable {s : Supervisor} {b b' : Broker} {p p' : Publisher} {me : Nat} {event : Event}
  {point point' : Publishing}

/-- What a publish is between its attempts it has been before, or it has just emptied the slot. -/
theorem Publishing.Advance.isBetween (hadvance : Advance s b p me event point p' b' point')
    (hbetween : point'.isBetween = true) : point.isBetween = true ∨ p'.channel? = none := by
  cases hadvance with
  | discard | discardNothing => exact .inr rfl
  | leave | close | again => exact .inl rfl
  | ask | enter | beginOpen | waitOpen | endOpen => exact .inl hbetween
  | _ => cases hbetween

/-- A publish settles on the channel in the slot or on the one that it has opened. -/
theorem Publishing.Advance.used (hadvance : Advance s b p me event point p' b' point') :
    (point.events b point').filterMap PublishEvent.used? = [] ∨
      ∃ attempt channel, point' = ready attempt channel ∧
        (point.events b point').filterMap PublishEvent.used? = [channel] ∧
        (point = preparing attempt ∧ p.channel? = some channel ∨
          point = opened attempt channel) := by
  cases hadvance with
  | @reuse attempt kept hslot =>
      exact .inr ⟨attempt, kept.channel, rfl, rfl, .inl ⟨rfl, by simp [Publisher.channel?, hslot]⟩⟩
  | @install attempt channel => exact .inr ⟨attempt, channel, rfl, rfl, .inr rfl⟩
  | leave hclosed => exact .inl (by simp [events, hclosed, PublishEvent.used?])
  | close hopen => exact .inl (by simp [events, hopen, PublishEvent.used?])
  | _ => exact .inl rfl

end Turns

namespace System

variable {w w' : System} {what : Happening} {i t c : Nat} {event : Event} {past : List Moment}

/-- The broker knows the channel, and nobody is about to put it into the slot. -/
def IsPut (w : System) (i c : Nat) : Prop :=
  c < w.broker.channels.length ∧ ¬ w.IsOpened i c

theorem IsPut.change (hput : w.IsPut i c) (hchange : w.PublisherChange i what w')
    (hheld : w.LockHeld i) (hkeeps : w.broker.channels.length ≤ w'.broker.channels.length) :
    w'.IsPut i c := by
  refine ⟨hput.1.trans_le hkeeps, fun hopened => ?_⟩
  rcases hchange.isOpened_cases hheld hopened with ⟨_, hbefore⟩ | hopens
  · exact hput.2 hbefore
  · -- what is opened is new to the broker
    have hnew := (hchange.of_opens? hopens).1
    have hlt := hput.1
    omega

/-- A publish that is ready has the lock, so that nobody else is about to put anything there. -/
theorem isPut_of_ready (hheld : w.LockHeld i) (hknows : w.KnowsChannels i) {attempt : Attempt}
    (htask : w.tasks[t]? = some (.publish i event (.ready attempt c))) : w.IsPut i c := by
  refine ⟨hknows.task t event _ c htask rfl, ?_⟩
  rintro ⟨u, event', attempt', hopened⟩
  obtain rfl := hheld.eq htask rfl hopened rfl
  cases htask.symm.trans hopened

/-- Only what has been opened comes into the slot. -/
theorem PublisherChange.channel?_cases (hchange : w.PublisherChange i what w')
    (hchannel : (w'.publisherAt i).channel? = some c) :
    (w.publisherAt i).channel? = some c ∨ w.IsOpened i c := by
  obtain ⟨kept, hkept, rfl⟩ := Option.map_eq_some_iff.mp hchannel
  rcases hchange.slot_cases with hsame | hnone | ⟨t, event, attempt, id, channel, _, htask, hput⟩
  · exact .inl (by rw [← hchannel, Publisher.channel?_of_slot hsame])
  · cases hnone.symm.trans hkept
  · cases hput.symm.trans hkept
    exact .inr ⟨t, event, attempt, htask⟩

/-- The publish `t` has used no channel twice, and will not do so. -/
structure UsesOnce (w : System) (i t : Nat) (point : Publishing) (past : List Moment) : Prop where
  nodup : (channelsUsed t past).Nodup
  put : ∀ c ∈ channelsUsed t past, w.IsPut i c
  out : point.isBetween = true → ∀ c ∈ channelsUsed t past, (w.publisherAt i).channel? ≠ some c

theorem UsesOnce.change_of_none {point point' : Publishing} (huses : w.UsesOnce i t point past)
    (hchange : w.PublisherChange i what w') (hheld : w.LockHeld i)
    (hkeeps : w.broker.channels.length ≤ w'.broker.channels.length)
    (hnone : (Moment.publishEvents t ⟨w, what, w'⟩).filterMap PublishEvent.used? = [])
    (hbetween : point'.isBetween = true →
      point.isBetween = true ∨ (w'.publisherAt i).channel? = none) :
    w'.UsesOnce i t point' (past ++ [⟨w, what, w'⟩]) := by
  have hsame : channelsUsed t (past ++ [⟨w, what, w'⟩]) = channelsUsed t past := by
    rw [channelsUsed_concat, hnone, List.append_nil]
  refine ⟨hsame ▸ huses.nodup, fun c hc => ?_, fun hbetween' c hc hchannel => ?_⟩
  · exact (huses.put c (hsame ▸ hc)).change hchange hheld hkeeps
  · rw [hsame] at hc
    rcases hbetween hbetween' with hstill | hemptied
    · -- what has left the slot stays out of it
      rcases hchange.channel?_cases hchannel with hbefore | hopened
      · exact huses.out hstill c hc hbefore
      · exact (huses.put c hc).2 hopened
    · cases hemptied.symm.trans hchannel

/-- A channel that an attempt settles on is none that the publish has used. -/
theorem UsesOnce.not_mem {point : Publishing} {attempt : Attempt}
    (huses : w.UsesOnce i t point past) {delay : Nat}
    (hdone : point.HasDone delay (publishLog t past))
    (htask : w.tasks[t]? = some (.publish i event point))
    (hfound : point = .preparing attempt ∧ (w.publisherAt i).channel? = some c ∨
      point = .opened attempt c) : c ∉ channelsUsed t past := by
  intro hc
  rcases hfound with ⟨rfl, hslot⟩ | rfl
  · cases attempt with
    | first =>
        rw [channelsUsed, hdone.used_eq_nil] at hc
        cases hc
    | second => exact huses.out rfl c hc hslot
  · exact (huses.put c hc).2 ⟨t, event, attempt, htask⟩

end System

namespace Run

variable {w₀ w w' : System} {past more : List Moment} {i t : Nat} {event : Event}

theorem usesOnce (hrun : Run w₀ past w) (hfresh : w₀.Fresh) (hi : i < w₀.publishers.length)
    {point : Publishing} (htask : w.tasks[t]? = some (.publish i event point)) :
    w.UsesOnce i t point past := by
  induction hrun generalizing point with
  | refl => exact absurd htask hfresh.not_task
  | @snoc past w w' what hpast hafter ih =>
      have hchange := hpast.publisherChange_of_snoc hi hafter
      have hheld := hpast.lockHeld hfresh hi
      have hkeeps := (System.after_supervisionChange hafter).keepsClosed.channels.length_le
      rcases hchange.publish_history hafter htask with ⟨hother, hkept⟩ |
        ⟨rfl, before, hbefore, hadvance⟩ | ⟨hle, rfl⟩
      · refine (ih hkept).change_of_none hchange hheld hkeeps ?_ .inl
        rw [Moment.publishEvents_of_ne hother, List.filterMap_nil]
      · have huses := ih hbefore
        have hevents := Moment.publishEvents_turn hbefore htask
        rcases hadvance.used with hnone | ⟨attempt, c, rfl, hone, hfound⟩
        · exact huses.change_of_none hchange hheld hkeeps (hevents ▸ hnone) hadvance.isBetween
        · have hnew : c ∉ channelsUsed t past :=
            huses.not_mem (hpast.hasDone hfresh hi hbefore) hbefore hfound
          have hmore : channelsUsed t (past ++ [⟨w, .turn t, w'⟩]) =
              channelsUsed t past ++ [c] := by
            rw [channelsUsed_concat, hevents, hone]
          have hlast := hpast.snoc hafter
          refine ⟨?_, fun d hd => ?_, nofun⟩
          · rw [hmore]
            exact List.nodup_append_comm.mp (List.nodup_cons.mpr ⟨hnew, huses.nodup⟩)
          · rw [hmore, List.mem_append, List.mem_singleton] at hd
            rcases hd with hd | rfl
            · exact (huses.put d hd).change hchange hheld hkeeps
            · exact System.isPut_of_ready (hlast.lockHeld hfresh hi) (hlast.knowsChannels hfresh hi)
                htask
      · have hnone : channelsUsed t (past ++ [⟨w, what, w'⟩]) = [] := by
          rw [channelsUsed, hpast.publishLog_of_new hle, List.filterMap_nil]
        exact ⟨by simp [hnone], by simp [hnone], by simp [hnone]⟩

end Run

/-! ## Getting to the end -/

/-- How many turns a publish takes at most after an attempt, but for those in which it waits. -/
def Attempt.turnsAfter : Attempt → Nat
  | first => 12
  | second => 0

/-- How many turns a publish takes at most, but for those in which it waits. -/
def Publishing.turnsLeft : Publishing → Nat
  | asking attempt => attempt.turnsAfter + 8
  | queued attempt => attempt.turnsAfter + 7
  | preparing attempt => attempt.turnsAfter + 6
  | opening attempt _ _ _ => attempt.turnsAfter + 5
  | opened attempt _ => attempt.turnsAfter + 4
  | ready attempt _ => attempt.turnsAfter + 3
  | sending attempt _ _ _ => attempt.turnsAfter + 2
  | failed attempt _ => attempt.turnsAfter + 1
  | discardAsking => 12
  | discardQueued => 11
  | discarding _ => 10
  | resting _ => 9
  | succeeded => 1
  | finished _ => 0

/-- Does the publish `me` wait: for the lock, which another task has; for the broker, as long as it
has time for that; or for the end of its rest? -/
def Publishing.Waits (b : Broker) (lock : FairLock) (me : Nat) : Publishing → Prop
  | queued _ | discardQueued => ∃ u, lock.holder = some u ∧ u ≠ me ∧ me ∈ lock.waiting
  | opening _ _ wait deadline | sending _ _ wait deadline =>
    b.progress wait ≠ .passed ∧ (b.progress wait = .blocked → b.clock < deadline)
  | resting time => b.clock < time
  | _ => False

theorem FairLock.InLine.holds_or_waits {lock : FairLock} {t : Nat} (hline : lock.InLine t) :
    lock.holder = some t ∨ ∃ u, lock.holder = some u ∧ u ≠ t ∧ t ∈ lock.waiting := by
  by_cases hheld : lock.holder = some t
  · exact .inl hheld
  · obtain ⟨hsome, hmem⟩ := hline.resolve_left hheld
    obtain ⟨u, hu⟩ := Option.isSome_iff_exists.mp hsome
    exact .inr ⟨u, hu, fun heq => hheld (heq ▸ hu), hmem⟩

/-- Whoever waits for the broker until a deadline waits on, is there, or has run out of time. -/
theorem Broker.progress_cases (b : Broker) (wait : Broker.Wait) (deadline : Nat) :
    (b.progress wait ≠ .passed ∧ (b.progress wait = .blocked → b.clock < deadline)) ∨
      b.progress wait = .passed ∨ (b.progress wait = .blocked ∧ ¬ b.clock < deadline) := by
  by_cases hpassed : b.progress wait = .passed
  · exact .inr (.inl hpassed)
  · by_cases hlate : b.progress wait = .blocked ∧ ¬ b.clock < deadline
    · exact .inr (.inr hlate)
    · refine .inl ⟨hpassed, fun hblocked => ?_⟩
      by_contra hclock
      exact hlate ⟨hblocked, hclock⟩

/-- A publish is at its end, waits, or comes nearer to its end with its next turn. -/
theorem Publishing.advances (s : Supervisor) (b : Broker) (p : Publisher) (me : Nat) (event : Event)
    (point : Publishing) (hline : point.isQueued = true → p.lock.InLine me) :
    (∃ result, point = finished result) ∨ point.Waits b p.lock me ∨
      ∃ turn, point.step s b p me event = some turn ∧ turn.point.turnsLeft < point.turnsLeft := by
  cases point with
  | finished result => exact .inl ⟨result, rfl⟩
  | asking | opened | discardAsking | succeeded =>
      exact .inr (.inr ⟨_, rfl, by simp [turnsLeft]⟩)
  | queued attempt =>
      rcases (hline rfl).holds_or_waits with hheld | hwaits
      · exact .inr (.inr ⟨_, by simp only [step, FairLock.isHeldBy, hheld]; rfl,
          by simp [turnsLeft]⟩)
      · exact .inr (.inl hwaits)
  | discardQueued =>
      rcases (hline rfl).holds_or_waits with hheld | hwaits
      · refine .inr (.inr ⟨_, by simp only [step, FairLock.isHeldBy, hheld]; rfl, ?_⟩)
        cases p.slot <;> simp [turnsLeft]
      · exact .inr (.inl hwaits)
  | preparing attempt =>
      right; right
      simp only [step]
      split
      · exact ⟨_, rfl, by simp [turnsLeft]⟩
      · split
        · exact ⟨_, rfl, by simp [turnsLeft]⟩
        · split
          · exact ⟨_, rfl, by simp [turnsLeft]⟩
          · exact ⟨_, rfl, by simp [turnsLeft]⟩
  | opening attempt connection wait deadline =>
      right
      rcases b.progress_cases wait deadline with hwaits | hpassed | ⟨hblocked, hlate⟩
      · exact .inl hwaits
      · exact .inr ⟨_, by simp only [step, hpassed]; rfl, by simp [turnsLeft]⟩
      · exact .inr ⟨_, by simp only [step, hblocked, if_neg hlate]; rfl, by simp [turnsLeft]⟩
  | sending attempt channel wait deadline =>
      right
      rcases b.progress_cases wait deadline with hwaits | hpassed | ⟨hblocked, hlate⟩
      · exact .inl hwaits
      · exact .inr ⟨_, by simp only [step, hpassed]; rfl, by simp [turnsLeft]⟩
      · exact .inr ⟨_, by simp only [step, hblocked, if_neg hlate]; rfl, by simp [turnsLeft]⟩
  | ready attempt channel =>
      right; right
      simp only [step]
      split
      · exact ⟨_, rfl, by simp [turnsLeft]⟩
      · exact ⟨_, rfl, by simp [turnsLeft]⟩
  | failed attempt e =>
      right; right
      simp only [step]
      split
      · rename_i hretry
        simp only [Bool.and_eq_true, decide_eq_true_eq] at hretry
        exact ⟨_, rfl, by simp [turnsLeft, hretry.1, Attempt.turnsAfter]⟩
      · exact ⟨_, rfl, by simp [turnsLeft]⟩
  | discarding channel =>
      right; right
      simp only [step]
      split
      · exact ⟨_, rfl, by simp [turnsLeft]⟩
      · exact ⟨_, rfl, by simp [turnsLeft]⟩
  | resting time =>
      right
      by_cases htime : b.clock < time
      · exact .inl htime
      · exact .inr ⟨_, if_neg htime, by simp [turnsLeft, Attempt.turnsAfter]⟩

/-! ## The whole -/

/-- The channel that an attempt publishes on. -/
def Publishing.inUse? : Publishing → Option Nat
  | ready _ channel | sending _ channel _ _ => some channel
  | _ => none

/-- What there is to say of the publish `t` of the publisher `i`, which has come to this point by
`past`. -/
structure RetriesOnce (i t : Nat) (event : Event) (past : List Moment) (w : System)
    (point : Publishing) : Prop where
  /-- It has done what lies behind this point. -/
  done : point.HasDone (w.publisherAt i).retryDelay.millis (publishLog t past)
  /-- At its end it has made one attempt that need not be tried again, or two, and returns the
  outcome of the last. -/
  ends : ∀ result, point = .finished result →
    PublishEnds (w.publisherAt i).retryDelay.millis (publishLog t past) result
  /-- The second attempt begins when the rest is over. -/
  rests : ∀ m ∈ past, m.isTurnOf t = true → ∀ time,
    m.before.tasks[t]? = some (.publish i event (.resting time)) → time ≤ m.before.broker.clock
  /-- No channel is used by both attempts. -/
  used_once : (channelsUsed t past).Nodup
  in_slot : ∀ channel, point.inUse? = some channel →
    (w.publisherAt i).channel? = some channel
  /-- Unless an attempt has found its channel gone, it has asked for no close and has left an open
  channel in the slot. -/
  spares : (∀ e, .outcome (.error e) ∈ publishLog t past → e.isChannelClosed = false) →
    ∀ m ∈ past, m.isTurnOf t = true → m.after.broker.closeLog = m.before.broker.closeLog ∧
      ∀ kept, (m.before.publisherAt i).slot = some kept →
        m.before.broker.channelClosed kept.channel = false →
        (m.after.publisherAt i).slot = some kept
  /-- What is in the slot once it has failed for good is there for the next publish as long as it is
  open, unless another task discards it or is asked to close it. -/
  reused : point.isOver = true → ∀ kept, (w.publisherAt i).slot = some kept →
    ∀ (more : List Moment) (w' : System), Run w more w' →
    w'.broker.channelClosed kept.channel = false →
    (w'.publisherAt i).slot = some kept ∧
        (∀ u event' attempt, w'.tasks[u]? = some (.publish i event' (.preparing attempt)) →
          ∃ w'', w'.after? (.turn u) = some w'' ∧
            w''.tasks[u]? = some (.publish i event' (.ready attempt kept.channel))) ∨
      ∃ m ∈ more, m.empties i = true ∧ m.isTurnOf t = false ∧
        (m.before.publisherAt i).slot = some kept
  /-- Of the failures of the layer below, those that end the channel or the connection make it try
  again. -/
  transport : ∀ (used : Option Nat) (e : Amqp.TransportError),
    Trial.isRetried ⟨used, .error e.toBrokerError⟩ = true ↔
      (∃ number, e = .invalidChannel number) ∨ (∃ state, e = .invalidChannelState state) ∨
        (∃ state, e = .invalidConnectionState state) ∨ e = .missingHeartbeat ∨
        ∃ cause, e = .protocol cause ∧ cause.severity = .hard
  /-- It is at its end, waits, or comes nearer to its end with its next turn. -/
  advances : (∃ result, point = .finished result) ∨
    point.Waits w.broker (w.publisherAt i).lock t ∨
    ∃ w' point', w.after? (.turn t) = some w' ∧
      w'.tasks[t]? = some (.publish i event point') ∧ point'.turnsLeft < point.turnsLeft

namespace Run

variable {w₀ w w' : System} {past more : List Moment} {i t : Nat} {event : Event}

theorem inUse_in_slot (hrun : Run w₀ past w) (hfresh : w₀.Fresh) (hi : i < w₀.publishers.length)
    {point : Publishing} (htask : w.tasks[t]? = some (.publish i event point)) {channel : Nat}
    (huse : point.inUse? = some channel) : (w.publisherAt i).channel? = some channel := by
  induction hrun generalizing point with
  | refl => exact absurd htask hfresh.not_task
  | @snoc past w w' what hpast hafter ih =>
      have hchange := hpast.publisherChange_of_snoc hi hafter
      have hheld := hpast.lockHeld hfresh hi
      rcases hchange.publish_cases htask with ⟨hturn, habort, hkept⟩ |
        ⟨rfl, before, p', b', hbefore, hpublisher, _, hadvance⟩ | rfl
      · -- it has the lock, so that the others leave the slot alone
        have hholds : point.holds = true := by
          cases point <;> simp_all [Publishing.inUse?, Publishing.holds]
        have hsame := (hchange.spares hheld hturn habort).slot (hheld t event point hkept hholds)
        rw [Publisher.channel?_of_slot hsame]
        exact ih hkept huse
      · rw [hpublisher]
        cases hadvance with
        | reuse hslot =>
            cases huse
            simp [Publisher.channel?, hslot]
        | install =>
            cases huse
            rfl
        | beginPublish | waitPublish => exact ih hbefore huse
        | _ => cases huse
      · cases huse

/-- A task that is a publish now was this publish when it took its turns. -/
theorem publish_of_turn (hmore : Run w more w') {point' : Publishing}
    (htask' : w'.tasks[t]? = some (.publish i event point')) (hlt : t < w.tasks.length) :
    ∃ point, w.tasks[t]? = some (.publish i event point) := by
  induction hmore generalizing point' with
  | refl => exact ⟨point', htask'⟩
  | snoc hmore hafter ih =>
      rcases System.after_task_cases hafter htask' with ⟨_, hkept⟩ | ⟨_, task, htask, hbegun⟩ |
        hdropped | ⟨hle, _⟩
      · exact ih hkept
      · obtain ⟨point, rfl⟩ := Task.begun_eq_publish hbegun.symm
        exact ih htask
      · cases hdropped
      · have hlength := hmore.tasks_length_le
        omega

/-- What the publish `t` has done in one of its turns. -/
theorem publish_moment (hrun : Run w₀ past w) (hi : i < w₀.publishers.length) {point : Publishing}
    (htask : w.tasks[t]? = some (.publish i event point)) {m : Moment} (hmem : m ∈ past)
    (hturn : m.isTurnOf t = true) :
    ∃ (earlier later : List Moment) (before after : Publishing), past = earlier ++ m :: later ∧
      Run w₀ earlier m.before ∧ m.before.tasks[t]? = some (.publish i event before) ∧
      Publishing.Advance m.before.supervisor m.before.broker (m.before.publisherAt i) t event before
        (m.after.publisherAt i) m.after.broker after := by
  obtain ⟨earlier, later, hpast, hearlier, hafter, hlater⟩ := hrun.exists_of_mem hmem
  have hwhat : m.what = .turn t := Moment.what_of_isTurnOf hturn
  have hchange := hearlier.publisherChange_of_snoc hi hafter
  have hlt := (System.after_supervisionChange (hwhat ▸ hafter)).of_turn.lt_length
  obtain ⟨before, hbefore⟩ := (Run.cons hafter hlater).publish_of_turn htask hlt
  rw [hwhat] at hchange
  obtain ⟨after, _, hadvance⟩ := hchange.publish_turn hbefore
  exact ⟨earlier, later, before, after, hpast, hearlier, hbefore, hadvance⟩

/-- A publish none of whose attempts has found its channel gone closes nothing, and leaves an open
channel in the slot. -/
theorem spares_open (hrun : Run w₀ past w) (hfresh : w₀.Fresh) (hi : i < w₀.publishers.length)
    {point : Publishing} (htask : w.tasks[t]? = some (.publish i event point))
    (hnone : ∀ e, .outcome (.error e) ∈ publishLog t past → e.isChannelClosed = false) {m : Moment}
    (hmem : m ∈ past) (hturn : m.isTurnOf t = true) :
    m.after.broker.closeLog = m.before.broker.closeLog ∧
      ∀ kept, (m.before.publisherAt i).slot = some kept →
        m.before.broker.channelClosed kept.channel = false →
        (m.after.publisherAt i).slot = some kept := by
  obtain ⟨earlier, later, before, after, rfl, hearlier, hbefore, hadvance⟩ :=
    hrun.publish_moment hi htask hmem hturn
  have hspares : before.discards = false := by
    by_contra hdiscards
    obtain ⟨e, hfailed, hclosed⟩ :=
      (hearlier.hasDone hfresh hi hbefore).exists_of_discards (by simpa using hdiscards)
    have hopen := hnone e (by simp [publishLog] at hfailed ⊢; exact .inl hfailed)
    cases hopen.symm.trans hclosed
  constructor
  · rcases hadvance.closeLog with hsame | ⟨channel, rfl, _⟩
    · exact hsame
    · cases hspares
  · intro kept hslot hopen
    refine hadvance.slot_of_open (fun attempt channel heq => ?_) (fun heq => ?_) hslot hopen
    · exact hearlier.emptyWhileOpening hfresh hi t event before hbefore (.inr ⟨_, _, heq⟩)
    · rw [heq] at hspares
      cases hspares

end Run

/-- Whatever else happens: a publish is tried again if its first attempt finds the channel or the
connection gone, and then only, once, after one rest and on another channel. -/
theorem Run.publish_retries_once {w₀ w : System} {past : List Moment} {i t : Nat} {event : Event}
    {point : Publishing} (hrun : Run w₀ past w) (hfresh : w₀.Fresh)
    (hi : i < w₀.publishers.length) (htask : w.tasks[t]? = some (.publish i event point)) :
    RetriesOnce i t event past w point where
  done := hrun.hasDone hfresh hi htask
  ends := by
    rintro result rfl
    exact (hrun.hasDone hfresh hi htask).ends (hrun.usesOnce hfresh hi htask).nodup
  rests := by
    intro m hmem hturn time hresting
    obtain ⟨_, _, before, after, _, _, hbefore, hadvance⟩ :=
      hrun.publish_moment hi htask hmem hturn
    cases hresting.symm.trans hbefore
    generalize m.after.publisherAt i = p', m.after.broker = b' at hadvance
    cases hadvance with
    | again htime => exact Nat.le_of_not_lt htime
  used_once := (hrun.usesOnce hfresh hi htask).nodup
  in_slot channel := hrun.inUse_in_slot hfresh hi htask
  spares hnone m hmem := hrun.spares_open hfresh hi htask hnone hmem
  reused := by
    intro hover kept hslot more w' hmore hopen
    rcases hrun.slot_of_open hmore hfresh hi hslot hopen with hstill | ⟨m, hmem, hempties, hheld⟩
    · exact .inl ⟨hstill, fun u event' attempt hlooks => System.reuses_open hlooks hstill hopen⟩
    · exact .inr ⟨m, hmem, hempties, hmore.isTurnOf_of_empties htask hover hmem hempties, hheld⟩
  transport := Trial.isRetried_toBrokerError
  advances := by
    rcases point.advances w.supervisor w.broker (w.publisherAt i) t event
      (hrun.queuedInLine hfresh hi t event point htask) with hended | hwaits |
      ⟨turn, hstep, hnearer⟩
    · exact .inl hended
    · exact .inr (.inl hwaits)
    · obtain ⟨w', hafter, htask'⟩ := System.step_of_publish htask hstep
      exact .inr (.inr ⟨w', turn.point, hafter, htask', hnearer⟩)

/-- Of two publishes the first fails on its channel and discards the one that the second has opened
meanwhile; its second attempt opens a third one. -/
def retriedBesideAnother : List Happening :=
  Run.queuedPublishes ++ [.turn 1, .incident (.passTime 200)] ++ List.replicate 10 (.turn 1)

theorem retriedBesideAnother_ends :
    PublishEnds ((System.single.played retriedBesideAnother).2.publisherAt 0).retryDelay.millis
        (publishLog 1 (System.single.played retriedBesideAnother).1) (.ok ()) ∧
      channelsUsed 1 (System.single.played retriedBesideAnother).1 = [0, 2] := by
  have htask : (System.single.played retriedBesideAnother).2.tasks[1]? =
      some (.publish 0 Run.bareEvent (.finished (.ok ()))) := rfl
  have hretries := (System.single.run_played retriedBesideAnother).publish_retries_once
    System.single_fresh (i := 0) (by decide) htask
  exact ⟨hretries.ends _ rfl, by decide⟩

end BrokerClient
