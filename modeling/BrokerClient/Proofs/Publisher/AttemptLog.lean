import BrokerClient.Proofs.Publisher.OneChannel

/-!
# The attempts of a publish, as a list

What a publish does is written as a list of events: the begin of an attempt, the channel that it has
settled on and what has come of it, and between two attempts the discard and the rest.  A `Trial`
says what an attempt has come to, and so determines its events; `Publishing.HasDone` says for each
point which trials lie behind a publish that has got there.
-/

namespace BrokerClient

/-! ## What a publish does, as a list -/

/-- What a publish does in its turns, as far as it can be seen from outside. -/
inductive PublishEvent
  /-- An attempt begins. -/
  | attempt
  /-- It has a channel to publish on. -/
  | use (channel : Nat)
  /-- It has ended. -/
  | outcome (result : Except BrokerError Unit)
  /-- The slot is emptied of what it has held. -/
  | discard (channel : Option Nat)
  /-- The broker is asked to close a channel. -/
  | close (channel : Nat)
  | rest (millis : Nat)

def PublishEvent.used? : PublishEvent → Option Nat
  | use channel => some channel
  | _ => none

/-- What a publish does when it goes from one point to another. -/
def Publishing.events (b : Broker) : Publishing → Publishing → List PublishEvent
  | asking _, _ => [.attempt]
  | discardQueued, resting time => [.discard none, .rest (time - b.clock)]
  | discardQueued, discarding channel => [.discard (some channel)]
  | discarding channel, resting time =>
    if b.channelClosed channel then [.rest (time - b.clock)]
    else [.close channel, .rest (time - b.clock)]
  | _, ready _ channel => [.use channel]
  | _, failed _ e => [.outcome (.error e)]
  | _, succeeded => [.outcome (.ok ())]
  | _, _ => []

/-- What the publish `t` does at a moment. -/
def Moment.publishEvents (t : Nat) (m : Moment) : List PublishEvent :=
  if m.isTurnOf t then
    match m.before.tasks[t]?, m.after.tasks[t]? with
    | some (.publish _ _ point), some (.publish _ _ point') => point.events m.before.broker point'
    | _, _ => []
  else []

/-- What the publish `t` has done. -/
def publishLog (t : Nat) (past : List Moment) : List PublishEvent :=
  past.flatMap (Moment.publishEvents t)

/-- The channels that the publish `t` has got ready to publish on, in order. -/
def channelsUsed (t : Nat) (past : List Moment) : List Nat :=
  (publishLog t past).filterMap PublishEvent.used?

theorem publishLog_concat (t : Nat) (past : List Moment) (m : Moment) :
    publishLog t (past ++ [m]) = publishLog t past ++ m.publishEvents t := by
  simp [publishLog]

theorem channelsUsed_concat (t : Nat) (past : List Moment) (m : Moment) :
    channelsUsed t (past ++ [m]) =
      channelsUsed t past ++ (m.publishEvents t).filterMap PublishEvent.used? := by
  rw [channelsUsed, publishLog_concat, List.filterMap_append, channelsUsed]

theorem Moment.publishEvents_of_ne {t : Nat} {m : Moment} (hother : m.what ≠ .turn t) :
    m.publishEvents t = [] := by
  simp [publishEvents, isTurnOf_of_ne hother]

theorem Moment.publishEvents_turn {w w' : System} {i t : Nat} {event : Event}
    {point point' : Publishing} (htask : w.tasks[t]? = some (.publish i event point))
    (htask' : w'.tasks[t]? = some (.publish i event point')) :
    (⟨w, .turn t, w'⟩ : Moment).publishEvents t = point.events w.broker point' := by
  simp [publishEvents, isTurnOf, htask, htask']

/-! ## One attempt -/

/-- An attempt: the channel that it has settled on, if it has come to that, and its outcome. -/
structure Trial where
  used : Option Nat
  outcome : Except BrokerError Unit

namespace Trial

def events (trial : Trial) : List PublishEvent :=
  [.attempt] ++ (trial.used.map .use).toList ++ [.outcome trial.outcome]

/-- Has it failed because the channel or the connection has closed? -/
def isRetried (trial : Trial) : Bool :=
  match trial.outcome with
  | .error (.channelClosed _) | .error (.connectionClosed _) => true
  | _ => false

theorem used_events (trial : Trial) :
    trial.events.filterMap PublishEvent.used? = trial.used.toList := by
  obtain ⟨used, outcome⟩ := trial
  cases used <;> rfl

theorem isRetried_error (used : Option Nat) (e : BrokerError) :
    (⟨used, .error e⟩ : Trial).isRetried = e.isChannelClosed := by
  cases e <;> rfl

/-- Of the failures of the layer below, those that end the channel or the connection. -/
theorem isRetried_toBrokerError (used : Option Nat) (e : Amqp.TransportError) :
    (⟨used, .error e.toBrokerError⟩ : Trial).isRetried = true ↔
      (∃ number, e = .invalidChannel number) ∨ (∃ state, e = .invalidChannelState state) ∨
        (∃ state, e = .invalidConnectionState state) ∨ e = .missingHeartbeat ∨
        ∃ cause, e = .protocol cause ∧ cause.severity = .hard := by
  rw [isRetried_error]
  cases e with
  | protocol cause =>
      cases hseverity : cause.severity <;>
        simp [Amqp.TransportError.toBrokerError, hseverity, BrokerError.isChannelClosed]
  | _ => simp [Amqp.TransportError.toBrokerError, BrokerError.isChannelClosed]

end Trial

/-- What is done between two attempts: the slot is emptied, what it has held is closed if it is
open, and there is one rest. -/
inductive Recovers (delay : Nat) : List PublishEvent → Prop
  | nothing : Recovers delay [.discard none, .rest delay]
  | leave (channel : Nat) : Recovers delay [.discard (some channel), .rest delay]
  | close (channel : Nat) : Recovers delay [.discard (some channel), .close channel, .rest delay]

theorem Recovers.used_eq_nil {delay : Nat} {recovery : List PublishEvent}
    (hrecovers : Recovers delay recovery) : recovery.filterMap PublishEvent.used? = [] := by
  cases hrecovers <;> rfl

/-- What has been done before an attempt begins. -/
inductive Attempt.Follows (delay : Nat) : Attempt → List PublishEvent → Prop
  | first : Follows delay .first []
  | second {trial : Trial} {recovery : List PublishEvent} (hretried : trial.isRetried = true)
      (hrecovers : Recovers delay recovery) : Follows delay .second (trial.events ++ recovery)

/-! ## What lies behind a publish -/

/-- What a publish that has come to this point has done. -/
def Publishing.HasDone (delay : Nat) (log : List PublishEvent) : Publishing → Prop
  | asking attempt => attempt.Follows delay log
  | queued attempt | preparing attempt | opening attempt _ _ _ | opened attempt _ =>
    ∃ before, attempt.Follows delay before ∧ log = before ++ [.attempt]
  | ready attempt channel | sending attempt channel _ _ =>
    ∃ before, attempt.Follows delay before ∧ log = before ++ [.attempt, .use channel]
  | failed attempt e =>
    ∃ before used, attempt.Follows delay before ∧ log = before ++ Trial.events ⟨used, .error e⟩
  | discardAsking | discardQueued => ∃ trial : Trial, trial.isRetried = true ∧ log = trial.events
  | discarding channel =>
    ∃ trial : Trial, trial.isRetried = true ∧ log = trial.events ++ [.discard (some channel)]
  | resting _ => Attempt.Follows delay .second log
  | succeeded =>
    ∃ attempt before used, Attempt.Follows delay attempt before ∧
      log = before ++ Trial.events ⟨used, .ok ()⟩
  | finished result =>
    ∃ attempt before used, Attempt.Follows delay attempt before ∧
      log = before ++ Trial.events ⟨used, result⟩ ∧
      (attempt = .first → Trial.isRetried ⟨used, result⟩ = false)

namespace Publishing

variable {s : Supervisor} {b b' : Broker} {p p' : Publisher} {me : Nat} {event : Event}
  {point point' : Publishing} {log : List PublishEvent}

/-- Each turn of a publish adds to the list what belongs there. -/
theorem Advance.hasDone (hadvance : Advance s b p me event point p' b' point')
    (hdone : point.HasDone p.retryDelay.millis log) :
    point'.HasDone p.retryDelay.millis (log ++ point.events b point') := by
  -- a rest that begins now is as long as it should be
  have hrest : b.clock + p.retryDelay.millis - b.clock = p.retryDelay.millis := by omega
  cases hadvance with
  | ask => exact ⟨log, hdone, rfl⟩
  | enter | beginOpen | waitOpen | endOpen | beginPublish | waitPublish | askDiscard | again =>
      simpa [events, HasDone] using hdone
  | reuse | install =>
      obtain ⟨before, hfollows, rfl⟩ := hdone
      exact ⟨before, hfollows, List.append_assoc ..⟩
  | notReady | refuseOpen | openElapsed =>
      obtain ⟨before, hfollows, rfl⟩ := hdone
      exact ⟨before, none, hfollows, List.append_assoc ..⟩
  | @refusePublish _ channel | @publishElapsed _ channel =>
      obtain ⟨before, hfollows, rfl⟩ := hdone
      exact ⟨before, some channel, hfollows, List.append_assoc ..⟩
  | @endPublish attempt channel =>
      obtain ⟨before, hfollows, rfl⟩ := hdone
      exact ⟨attempt, before, some channel, hfollows, List.append_assoc ..⟩
  | @retry e hclosed =>
      obtain ⟨before, used, hfollows, rfl⟩ := hdone
      cases hfollows
      exact ⟨⟨used, .error e⟩, (Trial.isRetried_error used e).trans hclosed, List.append_nil _⟩
  | @giveUp attempt e hlast =>
      obtain ⟨before, used, hfollows, rfl⟩ := hdone
      refine ⟨attempt, before, used, hfollows, List.append_nil _, fun hfirst => ?_⟩
      rw [Trial.isRetried_error]
      simpa [hfirst] using hlast
  | @discard kept =>
      obtain ⟨trial, hretried, rfl⟩ := hdone
      exact ⟨trial, hretried, rfl⟩
  | discardNothing =>
      obtain ⟨trial, hretried, rfl⟩ := hdone
      rw [events, hrest]
      exact .second hretried .nothing
  | @leave channel hclosed =>
      obtain ⟨trial, hretried, rfl⟩ := hdone
      rw [events, if_pos hclosed, hrest, List.append_assoc]
      exact .second hretried (.leave channel)
  | @close channel hopen =>
      obtain ⟨trial, hretried, rfl⟩ := hdone
      rw [events, if_neg (by simp [hopen]), hrest, List.append_assoc]
      exact .second hretried (.close channel)
  | succeed =>
      obtain ⟨attempt, before, used, hfollows, rfl⟩ := hdone
      exact ⟨attempt, before, used, hfollows, List.append_nil _, fun _ => rfl⟩

end Publishing

/-- Is the publish about to empty the slot, or to close what it has taken from there? -/
def Publishing.discards : Publishing → Bool
  | discardQueued | discarding _ => true
  | _ => false

/-- Only a publish whose first attempt has found its channel gone discards anything. -/
theorem Publishing.HasDone.exists_of_discards {delay : Nat} {log : List PublishEvent}
    {point : Publishing} (hdone : point.HasDone delay log) (hdiscards : point.discards = true) :
    ∃ e, .outcome (.error e) ∈ log ∧ e.isChannelClosed = true := by
  have hretried : ∃ (trial : Trial) (rest : List PublishEvent),
      trial.isRetried = true ∧ log = trial.events ++ rest := by
    cases point with
    | discardQueued =>
        obtain ⟨trial, hretried, rfl⟩ := hdone
        exact ⟨trial, [], hretried, (List.append_nil _).symm⟩
    | discarding channel =>
        obtain ⟨trial, hretried, rfl⟩ := hdone
        exact ⟨trial, _, hretried, rfl⟩
    | _ => cases hdiscards
  obtain ⟨⟨used, outcome⟩, rest, hretried, rfl⟩ := hretried
  cases outcome with
  | ok _ => cases hretried
  | error e => exact ⟨e, by simp [Trial.events], (Trial.isRetried_error used e).symm.trans hretried⟩

/-- Before it looks for a channel a first attempt has used none. -/
theorem Publishing.HasDone.used_eq_nil {delay : Nat} {log : List PublishEvent}
    (hdone : (preparing .first).HasDone delay log) : log.filterMap PublishEvent.used? = [] := by
  obtain ⟨before, hfollows, rfl⟩ := hdone
  cases hfollows
  rfl

/-! ## The end of a publish -/

/-- What a publish that has ended with this result has done: it has made one attempt, which need
not be tried again, or two, and its result is that of the last. -/
inductive PublishEnds (delay : Nat) : List PublishEvent → Except BrokerError Unit → Prop
  | once (trial : Trial) (hlast : trial.isRetried = false) :
      PublishEnds delay trial.events trial.outcome
  | twice (first second : Trial) {recovery : List PublishEvent}
      (hretried : first.isRetried = true) (hrecovers : Recovers delay recovery)
      (hother : ∀ c, first.used = some c → second.used ≠ some c) :
      PublishEnds delay (first.events ++ recovery ++ second.events) second.outcome

/-- The two attempts of a publish that has used no channel twice have used different ones. -/
theorem Publishing.HasDone.ends {delay : Nat} {log : List PublishEvent}
    {result : Except BrokerError Unit} (hdone : (finished result).HasDone delay log)
    (hnodup : (log.filterMap PublishEvent.used?).Nodup) : PublishEnds delay log result := by
  obtain ⟨attempt, before, used, hfollows, rfl, hlast⟩ := hdone
  cases hfollows with
  | first => exact .once ⟨used, result⟩ (hlast rfl)
  | @second first recovery hretried hrecovers =>
      refine .twice first ⟨used, result⟩ hretried hrecovers fun c hfirst hsecond => ?_
      rw [List.filterMap_append, List.filterMap_append, Trial.used_events, Trial.used_events,
        hrecovers.used_eq_nil, hfirst, hsecond] at hnodup
      simp at hnodup

end BrokerClient
