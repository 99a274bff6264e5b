import BrokerClient.Proofs.Broker.Connections
import BrokerClient.Proofs.Broker.Record

/-!
# Turns of the tasks around a publisher

As for supervisors, a relation lists for each kind of task what one turn can do to the publisher and
to the broker, and `step_advance` says that every turn is listed.
-/

namespace BrokerClient

/-! ## Publishing -/

namespace Publishing

/-- Is there no open channel in the slot? -/
def NoChannel (b : Broker) (p : Publisher) : Prop :=
  ∀ kept, p.slot = some kept → b.channelClosed kept.channel = true

/-- `Advance s b p me event point p' b' point'`: a turn of a publish by the task `me`. -/
inductive Advance (s : Supervisor) (b : Broker) (p : Publisher) (me : Nat) (event : Event) :
    Publishing → Publisher → Broker → Publishing → Prop
  | ask {attempt : Attempt} :
      Advance s b p me event (asking attempt) (p.requested me) b (queued attempt)
  | enter {attempt : Attempt} (hheld : p.lock.holder = some me) :
      Advance s b p me event (queued attempt) p b (preparing attempt)
  | reuse {attempt : Attempt} {kept : KeptChannel} (hslot : p.slot = some kept)
      (hopen : b.channelClosed kept.channel = false) :
      Advance s b p me event (preparing attempt) p b (ready attempt kept.channel)
  | notReady {attempt : Attempt} (hnone : NoChannel b p) (hconnection : s.open? b = none) :
      Advance s b p me event (preparing attempt) p.emptied b (failed attempt .notReady)
  | refuseOpen {attempt : Attempt} {connection : Nat} {e : BrokerError} {b' : Broker}
      (hnone : NoChannel b p) (hconnection : s.open? b = some connection)
      (hbegin : b.beginOpen connection = (b', .error e)) :
      Advance s b p me event (preparing attempt) p.emptied b' (failed attempt e)
  | beginOpen {attempt : Attempt} {connection : Nat} {wait : Broker.Wait} {b' : Broker}
      (hnone : NoChannel b p) (hconnection : s.open? b = some connection)
      (hbegin : b.beginOpen connection = (b', .ok wait)) :
      Advance s b p me event (preparing attempt) { p with slot := none } b'
        (opening attempt connection wait (b'.clock + p.timeout.millis))
  | waitOpen {attempt : Attempt} {connection deadline : Nat} {wait wait' : Broker.Wait}
      (hwait : b.progress wait = .goesOn wait') :
      Advance s b p me event (opening attempt connection wait deadline) p b
        (opening attempt connection wait' deadline)
  | endOpen {attempt : Attempt} {connection deadline : Nat} {wait : Broker.Wait}
      (hwait : b.progress wait = .passed) :
      Advance s b p me event (opening attempt connection wait deadline) p (b.endOpen connection).1
        (opened attempt (b.endOpen connection).2)
  | openElapsed {attempt : Attempt} {connection deadline : Nat} {wait : Broker.Wait}
      (hwait : b.progress wait = .blocked) (hdeadline : ¬ b.clock < deadline) :
      Advance s b p me event (opening attempt connection wait deadline) p.released b
        (failed attempt .elapsed)
  | install {attempt : Attempt} {channel : Nat} :
      Advance s b p me event (opened attempt channel)
        { p with slot := some ⟨p.opened + 1, channel⟩, opened := p.opened + 1 } b
        (ready attempt channel)
  | refusePublish {attempt : Attempt} {channel : Nat} {e : BrokerError} {b' : Broker}
      (hbegin : b.beginPublish channel = (b', .error e)) :
      Advance s b p me event (ready attempt channel) p.released b' (failed attempt e)
  | beginPublish {attempt : Attempt} {channel : Nat} {wait : Broker.Wait} {b' : Broker}
      (hbegin : b.beginPublish channel = (b', .ok wait)) :
      Advance s b p me event (ready attempt channel) p b'
        (sending attempt channel wait (b'.clock + p.timeout.millis))
  | waitPublish {attempt : Attempt} {channel deadline : Nat} {wait wait' : Broker.Wait}
      (hwait : b.progress wait = .goesOn wait') :
      Advance s b p me event (sending attempt channel wait deadline) p b
        (sending attempt channel wait' deadline)
  | endPublish {attempt : Attempt} {channel deadline : Nat} {wait : Broker.Wait}
      (hwait : b.progress wait = .passed) :
      Advance s b p me event (sending attempt channel wait deadline) p.released
        (b.endPublish (publication event channel)) succeeded
  | publishElapsed {attempt : Attempt} {channel deadline : Nat} {wait : Broker.Wait}
      (hwait : b.progress wait = .blocked) (hdeadline : ¬ b.clock < deadline) :
      Advance s b p me event (sending attempt channel wait deadline) p.released b
        (failed attempt .elapsed)
  | retry {e : BrokerError} (hclosed : e.isChannelClosed = true) :
      Advance s b p me event (failed .first e) p b discardAsking
  | giveUp {attempt : Attempt} {e : BrokerError}
      (hlast : (decide (attempt = .first) && e.isChannelClosed) = false) :
      Advance s b p me event (failed attempt e) p b (finished (.error e))
  | askDiscard : Advance s b p me event discardAsking (p.requested me) b discardQueued
  | discard {kept : KeptChannel} (hheld : p.lock.holder = some me) (hslot : p.slot = some kept) :
      Advance s b p me event discardQueued p.emptied b (discarding kept.channel)
  | discardNothing (hheld : p.lock.holder = some me) (hslot : p.slot = none) :
      Advance s b p me event discardQueued p.emptied b (resting (b.clock + p.retryDelay.millis))
  | leave {channel : Nat} (hclosed : b.channelClosed channel = true) :
      Advance s b p me event (discarding channel) p b (resting (b.clock + p.retryDelay.millis))
  | close {channel : Nat} (hopen : b.channelClosed channel = false) :
      Advance s b p me event (discarding channel) p (b.closeChannel channel).1
        (resting (b.clock + p.retryDelay.millis))
  | again {time : Nat} (htime : ¬ b.clock < time) :
      Advance s b p me event (resting time) p b (asking .second)
  | succeed : Advance s b p me event succeeded p b (finished (.ok ()))

theorem step_advance {s : Supervisor} {b : Broker} {p : Publisher} {me : Nat} {event : Event}
    {point : Publishing} {turn : Turn (Publisher × Broker) Publishing}
    (hstep : point.step s b p me event = some turn) :
    Advance s b p me event point turn.state.1 turn.state.2 turn.point := by
  cases point with
  | asking attempt =>
      cases hstep
      exact .ask
  | queued attempt =>
      simp only [step, FairLock.isHeldBy, decide_eq_true_eq] at hstep
      split at hstep
      · rename_i hheld
        cases hstep
        exact .enter hheld
      · cases hstep
  | preparing attempt =>
      simp only [step] at hstep
      -- the slot counts as empty when the channel in it has closed
      split at hstep
      · rename_i kept hkept
        obtain ⟨hslot, hopen⟩ := Option.filter_eq_some_iff.mp hkept
        cases hstep
        exact .reuse hslot (by simpa using hopen)
      · rename_i hkept
        have hnone : NoChannel b p := by
          intro kept hslot
          simpa [hslot] using hkept
        split at hstep
        · rename_i hconnection
          cases hstep
          exact .notReady hnone hconnection
        · rename_i connection hconnection
          split at hstep
          · rename_i hbegin
            cases hstep
            exact .refuseOpen hnone hconnection hbegin
          · rename_i hbegin
            cases hstep
            exact .beginOpen hnone hconnection hbegin
  | opening attempt connection wait deadline =>
      simp only [step] at hstep
      split at hstep
      · rename_i hwait
        cases hstep
        exact .waitOpen hwait
      · rename_i hwait
        cases hstep
        exact .endOpen hwait
      · rename_i hwait
        split at hstep
        · cases hstep
        · rename_i hdeadline
          cases hstep
          exact .openElapsed hwait hdeadline
  | opened attempt channel =>
      cases hstep
      exact .install
  | ready attempt channel =>
      simp only [step] at hstep
      split at hstep
      · rename_i hbegin
        cases hstep
        exact .refusePublish hbegin
      · rename_i hbegin
        cases hstep
        exact .beginPublish hbegin
  | sending attempt channel wait deadline =>
      simp only [step] at hstep
      split at hstep
      · rename_i hwait
        cases hstep
        exact .waitPublish hwait
      · rename_i hwait
        cases hstep
        exact .endPublish hwait
      · rename_i hwait
        split at hstep
        · cases hstep
        · rename_i hdeadline
          cases hstep
          exact .publishElapsed hwait hdeadline
  | failed attempt e =>
      simp only [step] at hstep
      split at hstep
      · rename_i hretry
        simp only [Bool.and_eq_true, decide_eq_true_eq] at hretry
        obtain ⟨rfl, hclosed⟩ := hretry
        cases hstep
        exact .retry hclosed
      · rename_i hlast
        cases hstep
        exact .giveUp (by simpa using hlast)
  | discardAsking =>
      cases hstep
      exact .askDiscard
  | discardQueued =>
      simp only [step, FairLock.isHeldBy, decide_eq_true_eq] at hstep
      split at hstep
      · rename_i hheld
        cases hslot : p.slot with
        | some kept =>
            simp only [hslot] at hstep
            cases hstep
            exact .discard hheld hslot
        | none =>
            simp only [hslot] at hstep
            cases hstep
            exact .discardNothing hheld hslot
      · cases hstep
  | discarding channel =>
      simp only [step] at hstep
      split at hstep
      · rename_i hclosed
        cases hstep
        exact .leave hclosed
      · rename_i hopen
        cases hstep
        exact .close (by simpa using hopen)
  | resting time =>
      simp only [step] at hstep
      split at hstep
      · cases hstep
      · rename_i htime
        cases hstep
        exact .again htime
  | succeeded =>
      cases hstep
      exact .succeed
  | finished result => cases hstep

theorem Advance.keepsConnections {s : Supervisor} {b b' : Broker} {p p' : Publisher} {me : Nat}
    {event : Event} {point point' : Publishing}
    (hadvance : Advance s b p me event point p' b' point') : b.KeepsConnections b' := by
  cases hadvance with
  | @refuseOpen _ connection _ _ _ _ hbegin | @beginOpen _ connection _ _ _ _ hbegin =>
      have hkeeps := b.beginOpen_keepsConnections connection
      rwa [hbegin] at hkeeps
  | endOpen hwait => exact b.endOpen_keepsConnections _
  | @refusePublish _ channel _ _ hbegin | @beginPublish _ channel _ _ hbegin =>
      have hkeeps := b.beginPublish_keepsConnections channel
      rwa [hbegin] at hkeeps
  | endPublish hwait => exact b.endPublish_keepsConnections _
  | close hopen => exact b.closeChannel_keepsConnections _
  | _ => exact .refl b

/-- What a turn at this point may write into the record. -/
def mayWrite : Publishing → Broker.Entry → Bool
  | preparing _, .openChannel _ => true
  | ready _ _, .publish _ => true
  | sending _ _ _ _, .published _ => true
  | discarding _, .closeChannel _ => true
  | _, _ => false

theorem Advance.writes {s : Supervisor} {b b' : Broker} {p p' : Publisher} {me : Nat}
    {event : Event} {point point' : Publishing}
    (hadvance : Advance s b p me event point p' b' point') : b.Writes b' point.mayWrite := by
  cases hadvance with
  | @refuseOpen _ connection _ _ _ _ hbegin | @beginOpen _ connection _ _ _ _ hbegin =>
      have hentries := b.beginOpen_entries connection
      rw [hbegin] at hentries
      exact .of_entry hentries rfl
  | @refusePublish _ channel _ _ hbegin | @beginPublish _ channel _ _ hbegin =>
      have hentries := b.beginPublish_entries channel
      rw [hbegin] at hentries
      exact .of_entry hentries rfl
  | endPublish hwait => exact .of_entry (b.endPublish_entries _) rfl
  | close hopen => exact .of_entry (b.closeChannel_entries _) rfl
  | _ => exact .of_eq rfl

/-- A publish asks for a channel to be closed only when it discards it. -/
theorem Advance.closeLog {s : Supervisor} {b b' : Broker} {p p' : Publisher} {me : Nat}
    {event : Event} {point point' : Publishing}
    (hadvance : Advance s b p me event point p' b' point') :
    b'.closeLog = b.closeLog ∨ ∃ channel, point = discarding channel ∧
      b.channelClosed channel = false ∧ b' = (b.closeChannel channel).1 := by
  cases point with
  | discarding channel =>
      cases hadvance with
      | leave hclosed => exact .inl rfl
      | close hopen => exact .inr ⟨channel, rfl, hopen, rfl⟩
  | _ => exact .inl (hadvance.writes.closeLog_eq fun _ => rfl)

end Publishing

/-! ## The channel of a publisher -/

/-- `ChannelWatch.Advance b p me kept point p' point'`: a turn of a watch by the task `me`. -/
inductive ChannelWatch.Advance (b : Broker) (p : Publisher) (me : Nat) (kept : KeptChannel) :
    ChannelWatch → Publisher → ChannelWatch → Prop
  | notice {reason : CloseReason} (hreason : b.channelReason? kept.channel = some reason) :
      Advance b p me kept .waiting p (.asking reason)
  | ask {reason : CloseReason} :
      Advance b p me kept (.asking reason) (p.requested me) (.queued reason)
  | clear {reason : CloseReason} {current : KeptChannel} (hheld : p.lock.holder = some me)
      (hslot : p.slot = some current) (hid : current.id = kept.id) :
      Advance b p me kept (.queued reason) p.emptied .finished
  | leave {reason : CloseReason} (hheld : p.lock.holder = some me)
      (hslot : ∀ current, p.slot = some current → current.id ≠ kept.id) :
      Advance b p me kept (.queued reason) p.released .finished

theorem ChannelWatch.step_advance {b : Broker} {p : Publisher} {me : Nat} {kept : KeptChannel}
    {point : ChannelWatch} {turn : Turn Publisher ChannelWatch}
    (hstep : point.step b p me kept = some turn) :
    ChannelWatch.Advance b p me kept point turn.state turn.point := by
  cases point with
  | waiting =>
      obtain ⟨reason, hreason, rfl⟩ := Option.map_eq_some_iff.mp hstep
      exact .notice hreason
  | asking reason =>
      cases hstep
      exact .ask
  | queued reason =>
      simp only [step, FairLock.isHeldBy, decide_eq_true_eq] at hstep
      split at hstep
      · rename_i hheld
        split at hstep
        · rename_i hkept
          obtain ⟨current, hslot, hid⟩ := (Option.any_eq_true _ _).mp hkept
          cases hstep
          exact .clear hheld hslot (of_decide_eq_true hid)
        · rename_i hkept
          cases hstep
          refine .leave hheld fun current hslot hid => hkept ?_
          simp [hslot, hid]
      · cases hstep
  | finished => cases hstep

/-- `ClosePublisher.Advance b p me point p' b' point'`: a turn of a request by the task `me`. -/
inductive ClosePublisher.Advance (b : Broker) (p : Publisher) (me : Nat) :
    ClosePublisher → Publisher → Broker → ClosePublisher → Prop
  | ask : Advance b p me .asking (p.requested me) b .queued
  | take {kept : KeptChannel} (hheld : p.lock.holder = some me) (hslot : p.slot = some kept) :
      Advance b p me .queued p.emptied b (.closing kept.channel)
  | takeNothing (hheld : p.lock.holder = some me) (hslot : p.slot = none) :
      Advance b p me .queued p.emptied b (.finished (.ok ()))
  | leave {channel : Nat} (hclosed : b.channelClosed channel = true) :
      Advance b p me (.closing channel) p b (.finished (.ok ()))
  | close {channel : Nat} (hopen : b.channelClosed channel = false) :
      Advance b p me (.closing channel) p (b.closeChannel channel).1
        (.finished (b.closeChannel channel).2)

theorem ClosePublisher.step_advance {b : Broker} {p : Publisher} {me : Nat}
    {point : ClosePublisher} {turn : Turn (Publisher × Broker) ClosePublisher}
    (hstep : point.step b p me = some turn) :
    ClosePublisher.Advance b p me point turn.state.1 turn.state.2 turn.point := by
  cases point with
  | asking =>
      cases hstep
      exact .ask
  | queued =>
      simp only [step, FairLock.isHeldBy, decide_eq_true_eq] at hstep
      split at hstep
      · rename_i hheld
        cases hslot : p.slot with
        | some kept =>
            simp only [hslot] at hstep
            cases hstep
            exact .take hheld hslot
        | none =>
            simp only [hslot] at hstep
            cases hstep
            exact .takeNothing hheld hslot
      · cases hstep
  | closing channel =>
      rw [step] at hstep
      split at hstep
      · rename_i hclosed
        cases hstep
        exact .leave hclosed
      · rename_i hopen
        cases hstep
        exact .close (by simpa using hopen)
  | finished result => cases hstep

theorem ClosePublisher.Advance.keepsConnections {b b' : Broker} {p p' : Publisher} {me : Nat}
    {point point' : ClosePublisher} (hadvance : Advance b p me point p' b' point') :
    b.KeepsConnections b' := by
  cases hadvance with
  | close hopen => exact b.closeChannel_keepsConnections _
  | _ => exact .refl b

/-- What a turn at this point may write into the record. -/
def ClosePublisher.mayWrite : ClosePublisher → Broker.Entry → Bool
  | closing _, .closeChannel _ => true
  | _, _ => false

theorem ClosePublisher.Advance.writes {b b' : Broker} {p p' : Publisher} {me : Nat}
    {point point' : ClosePublisher} (hadvance : Advance b p me point p' b' point') :
    b.Writes b' point.mayWrite := by
  cases hadvance with
  | close hopen => exact .of_entry (b.closeChannel_entries _) rfl
  | _ => exact .of_eq rfl

end BrokerClient
