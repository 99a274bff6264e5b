import BrokerClient.Proofs.Broker.Connections
import BrokerClient.Proofs.Broker.Record

/-!
# Turns of a consumption loop

As for supervisors and publishers, `Consuming.Advance` lists what one turn of a consumption loop can
do, and `step_advance` says that every turn is listed.  What a turn writes into the record of the
broker depends on the point alone.
-/

namespace BrokerClient

/-- The back-off once a session has ended: an accepted subscription ends the row of failures. -/
def Backoff.afterSession (backoff : Backoff Float) : Except BrokerError Nat → Backoff Float
  | .ok _ => backoff.reset
  | .error _ => backoff

/-- How a delivery is settled whose handler has ended in this way. -/
def Settlement.ofOutcome : Except Report Unit → Settlement
  | .ok () => .ack
  | .error _ => .nack true

namespace Consuming

/-- `Advance s config queue handler state point state' point'`: a turn of a consumption loop. -/
inductive Advance (s : Supervisor) (config : ConsumerConfig) (queue : String) (handler : Handler)
    (state : ConsumeState) : Consuming → ConsumeState → Consuming → Prop
  | start : Advance s config queue handler state starting state (looking (.new config.backoff))
  | cancelLooking {backoff : Backoff Float} (hcancelled : state.cancelled = true) :
      Advance s config queue handler state (looking backoff) state stopping
  | notReady {backoff : Backoff Float} (hgoesOn : state.cancelled = false)
      (hconnection : s.open? state.broker = none) :
      Advance s config queue handler state (looking backoff) state
        (ended backoff (.error .notReady))
  | refuseOpen {backoff : Backoff Float} {connection : Nat} {broker : Broker} {e : BrokerError}
      (hgoesOn : state.cancelled = false) (hconnection : s.open? state.broker = some connection)
      (hbegin : state.broker.beginOpen connection = (broker, .error e)) :
      Advance s config queue handler state (looking backoff) { state with broker }
        (ended backoff (.error e))
  | beginOpen {backoff : Backoff Float} {connection : Nat} {broker : Broker} {wait : Broker.Wait}
      (hgoesOn : state.cancelled = false) (hconnection : s.open? state.broker = some connection)
      (hbegin : state.broker.beginOpen connection = (broker, .ok wait)) :
      Advance s config queue handler state (looking backoff) { state with broker }
        (opening backoff connection wait)
  | waitOpen {backoff : Backoff Float} {connection : Nat} {wait wait' : Broker.Wait}
      (hwait : state.broker.progress wait = .goesOn wait') :
      Advance s config queue handler state (opening backoff connection wait) state
        (opening backoff connection wait')
  | endOpen {backoff : Backoff Float} {connection : Nat} {wait : Broker.Wait}
      (hwait : state.broker.progress wait = .passed) :
      Advance s config queue handler state (opening backoff connection wait)
        { state with broker := (state.broker.endOpen connection).1 }
        (limiting backoff (state.broker.endOpen connection).2)
  | refuseLimits {backoff : Backoff Float} {channel : Nat} {broker : Broker} {e : BrokerError}
      (hqos : state.broker.qos channel config.prefetch = (broker, .error e)) :
      Advance s config queue handler state (limiting backoff channel) { state with broker }
        (closing backoff channel (.error e))
  | limit {backoff : Backoff Float} {channel : Nat} {broker : Broker}
      (hqos : state.broker.qos channel config.prefetch = (broker, .ok ())) :
      Advance s config queue handler state (limiting backoff channel) { state with broker }
        (subscribing backoff channel)
  | refuseSubscribe {backoff : Backoff Float} {channel : Nat} {broker : Broker} {e : BrokerError}
      (hconsume : state.broker.consume
        (request config queue channel (nextTag config state.ids).1) = (broker, .error e)) :
      Advance s config queue handler state (subscribing backoff channel)
        { state with broker, ids := (nextTag config state.ids).2 }
        (closing backoff channel (.error e))
  | subscribe {backoff : Backoff Float} {channel subscription : Nat} {broker : Broker}
      (hconsume : state.broker.consume
        (request config queue channel (nextTag config state.ids).1) = (broker, .ok subscription)) :
      Advance s config queue handler state (subscribing backoff channel)
        { state with broker, ids := (nextTag config state.ids).2 }
        (listening backoff ⟨channel, subscription, 0⟩)
  | cancelListening {backoff : Backoff Float} {session : Session}
      (hcancelled : state.cancelled = true) :
      Advance s config queue handler state (listening backoff session)
        { state with broker := state.broker.hangUp session.subscription }
        (closing backoff session.channel (.ok session.handled))
  | take {backoff : Backoff Float} {session : Session} {broker : Broker} {delivery : Delivery}
      (hgoesOn : state.cancelled = false)
      (hreceive : state.broker.receive session.subscription =
        some (broker, .item (.delivery delivery))) :
      Advance s config queue handler state (listening backoff session) { state with broker }
        (received backoff session delivery)
  | fault {backoff : Backoff Float} {session : Session} {broker : Broker} {e : BrokerError}
      (hgoesOn : state.cancelled = false)
      (hreceive : state.broker.receive session.subscription = some (broker, .item (.fault e))) :
      Advance s config queue handler state (listening backoff session)
        { state with broker := broker.hangUp session.subscription }
        (closing backoff session.channel (.ok session.handled))
  | endOfStream {backoff : Backoff Float} {session : Session} {broker : Broker}
      (hgoesOn : state.cancelled = false)
      (hreceive : state.broker.receive session.subscription = some (broker, .ended)) :
      Advance s config queue handler state (listening backoff session)
        { state with broker := broker.hangUp session.subscription }
        (closing backoff session.channel (.ok session.handled))
  | call {backoff : Backoff Float} {session : Session} {delivery : Delivery} :
      Advance s config queue handler state (received backoff session delivery) state
        (handling backoff session delivery state.broker.clock (handler delivery))
  | finish {backoff : Backoff Float} {session : Session} {delivery : Delivery} {time : Nat}
      {outcome : Except Report Unit} (htime : ¬ state.broker.clock < time) :
      Advance s config queue handler state (handling backoff session delivery time (.done outcome))
        state (handled backoff session delivery outcome)
  | sleep {backoff : Backoff Float} {session : Session} {delivery : Delivery} {time millis : Nat}
      {after : Work} (htime : ¬ state.broker.clock < time) :
      Advance s config queue handler state
        (handling backoff session delivery time (.sleep millis after)) state
        (handling backoff session delivery (state.broker.clock + millis) after)
  | askToStop {backoff : Backoff Float} {session : Session} {delivery : Delivery} {time : Nat}
      {after : Work} (htime : ¬ state.broker.clock < time) :
      Advance s config queue handler state
        (handling backoff session delivery time (.cancel after)) { state with cancelled := true }
        (handling backoff session delivery state.broker.clock after)
  | settle {backoff : Backoff Float} {session : Session} {delivery : Delivery} {time : Nat}
      {settlement : Settlement} {after : Except BrokerError Unit → Work}
      (htime : ¬ state.broker.clock < time) :
      Advance s config queue handler state
        (handling backoff session delivery time (.settle settlement after))
        { state with broker := (state.broker.settle delivery.tag settlement).1 }
        (handling backoff session delivery state.broker.clock
          (after (state.broker.settle delivery.tag settlement).2))
  | conclude {backoff : Backoff Float} {session : Session} {delivery : Delivery}
      {outcome : Except Report Unit} :
      Advance s config queue handler state (handled backoff session delivery outcome)
        { state with broker := (Consuming.conclude config state.broker delivery outcome).1 }
        (listening backoff { session with handled := session.handled + 1 })
  | leaveChannel {backoff : Backoff Float} {channel : Nat} {outcome : Except BrokerError Nat}
      (hclosed : state.broker.channelClosed channel = true) :
      Advance s config queue handler state (closing backoff channel outcome) state
        (ended backoff outcome)
  | closeChannel {backoff : Backoff Float} {channel : Nat} {outcome : Except BrokerError Nat}
      (hopen : state.broker.channelClosed channel = false) :
      Advance s config queue handler state (closing backoff channel outcome)
        { state with broker := (state.broker.closeChannel channel).1 } (ended backoff outcome)
  | cancelEnded {backoff : Backoff Float} {outcome : Except BrokerError Nat}
      (hcancelled : state.cancelled = true) :
      Advance s config queue handler state (ended backoff outcome) state stopping
  | rest {backoff : Backoff Float} {outcome : Except BrokerError Nat}
      (hgoesOn : state.cancelled = false) :
      Advance s config queue handler state (ended backoff outcome)
        { state with ids := state.ids.draw.2 }
        (resting ((backoff.afterSession outcome).next state.ids.draw.1).2
          (state.broker.clock + ((backoff.afterSession outcome).next state.ids.draw.1).1))
  | cancelResting {backoff : Backoff Float} {time : Nat} (hcancelled : state.cancelled = true) :
      Advance s config queue handler state (resting backoff time) state stopping
  | again {backoff : Backoff Float} {time : Nat} (hgoesOn : state.cancelled = false)
      (htime : ¬ state.broker.clock < time) :
      Advance s config queue handler state (resting backoff time) state (looking backoff)
  | stop : Advance s config queue handler state stopping state finished

theorem step_advance {s : Supervisor} {config : ConsumerConfig} {queue : String}
    {handler : Handler} {state : ConsumeState} {point : Consuming}
    {turn : Turn ConsumeState Consuming}
    (hstep : point.step s config queue handler state = some turn) :
    Advance s config queue handler state point turn.state turn.point := by
  cases point with
  | starting =>
      cases hstep
      exact .start
  | looking backoff =>
      simp only [step] at hstep
      split at hstep
      · rename_i hcancelled
        cases hstep
        exact .cancelLooking hcancelled
      · rename_i hgoesOn
        have hgoesOn : state.cancelled = false := by simpa using hgoesOn
        split at hstep
        · rename_i hconnection
          cases hstep
          exact .notReady hgoesOn hconnection
        · rename_i connection hconnection
          split at hstep
          · rename_i hbegin
            cases hstep
            exact .refuseOpen hgoesOn hconnection hbegin
          · rename_i hbegin
            cases hstep
            exact .beginOpen hgoesOn hconnection hbegin
  | opening backoff connection wait =>
      simp only [step] at hstep
      split at hstep
      · cases hstep
      · rename_i hwait
        cases hstep
        exact .waitOpen hwait
      · rename_i hwait
        cases hstep
        exact .endOpen hwait
  | limiting backoff channel =>
      simp only [step] at hstep
      split at hstep
      · rename_i hqos
        cases hstep
        exact .refuseLimits hqos
      · rename_i hqos
        cases hstep
        exact .limit hqos
  | subscribing backoff channel =>
      simp only [step] at hstep
      split at hstep
      · rename_i hconsume
        cases hstep
        exact .refuseSubscribe hconsume
      · rename_i hconsume
        cases hstep
        exact .subscribe hconsume
  | listening backoff session =>
      simp only [step] at hstep
      split at hstep
      · rename_i hcancelled
        cases hstep
        exact .cancelListening hcancelled
      · rename_i hgoesOn
        have hgoesOn : state.cancelled = false := by simpa using hgoesOn
        split at hstep
        · cases hstep
        · rename_i received next hreceive
          cases next with
          | item item =>
              cases item with
              | delivery delivery =>
                  cases hstep
                  exact .take hgoesOn hreceive
              | fault e =>
                  cases hstep
                  exact .fault hgoesOn hreceive
          | ended =>
              cases hstep
              exact .endOfStream hgoesOn hreceive
  | received backoff session delivery =>
      cases hstep
      exact .call
  | handling backoff session delivery time work =>
      simp only [step] at hstep
      split at hstep
      · cases hstep
      · rename_i htime
        cases work with
        | done outcome =>
            cases hstep
            exact .finish htime
        | sleep millis after =>
            cases hstep
            exact .sleep htime
        | cancel after =>
            cases hstep
            exact .askToStop htime
        | settle settlement after =>
            cases hstep
            exact .settle htime
  | handled backoff session delivery outcome =>
      cases hstep
      exact .conclude
  | closing backoff channel outcome =>
      simp only [step] at hstep
      split at hstep
      · rename_i hclosed
        cases hstep
        exact .leaveChannel hclosed
      · rename_i hopen
        cases hstep
        exact .closeChannel (by simpa using hopen)
  | ended backoff outcome =>
      simp only [step] at hstep
      split at hstep
      · rename_i hcancelled
        cases hstep
        exact .cancelEnded hcancelled
      · rename_i hgoesOn
        have hgoesOn : state.cancelled = false := by simpa using hgoesOn
        cases outcome with
        | ok count =>
            cases hstep
            exact .rest hgoesOn
        | error e =>
            cases hstep
            exact .rest hgoesOn
  | resting backoff time =>
      simp only [step] at hstep
      split at hstep
      · rename_i hcancelled
        cases hstep
        exact .cancelResting hcancelled
      · rename_i hgoesOn
        have hgoesOn : state.cancelled = false := by simpa using hgoesOn
        split at hstep
        · cases hstep
        · rename_i htime
          cases hstep
          exact .again hgoesOn htime
  | stopping =>
      cases hstep
      exact .stop
  | finished => cases hstep

/-! ## Settling -/

theorem conclude_broker (config : ConsumerConfig) (b : Broker) (delivery : Delivery)
    (outcome : Except Report Unit) :
    (Consuming.conclude config b delivery outcome).1 =
      if config.options.autoAck then b
      else (b.settle delivery.tag (.ofOutcome outcome)).1 := by
  unfold Consuming.conclude
  split <;> rename_i hauto
  · simp [hauto]
  · simp [hauto]
  · simp only [hauto, Settlement.ofOutcome]
    split <;> rename_i hsettle <;> simp [hsettle]
  · simp only [hauto, Settlement.ofOutcome]
    split <;> rename_i hsettle <;> simp [hsettle]

theorem conclude_entries (config : ConsumerConfig) (b : Broker) (delivery : Delivery)
    (outcome : Except Report Unit) :
    (Consuming.conclude config b delivery outcome).1.entries = b.entries ++
      if config.options.autoAck then []
      else [.settle delivery.tag (.ofOutcome outcome)] := by
  rw [conclude_broker]
  split
  · rw [List.append_nil]
  · exact b.settle_entries _ _

/-! ## What a turn leaves alone and what it writes down -/

section Turns

variable {s : Supervisor} {config : ConsumerConfig} {queue : String} {handler : Handler}
  {state state' : ConsumeState} {point point' : Consuming}

theorem Advance.keepsConnections
    (hadvance : Advance s config queue handler state point state' point') :
    state.broker.KeepsConnections state'.broker := by
  cases hadvance with
  | @refuseOpen _ connection _ _ _ _ hbegin | @beginOpen _ connection _ _ _ _ hbegin =>
      have hkeeps := state.broker.beginOpen_keepsConnections connection
      rwa [hbegin] at hkeeps
  | endOpen hwait => exact state.broker.endOpen_keepsConnections _
  | @refuseLimits _ channel _ _ hqos | @limit _ channel _ hqos =>
      have hkeeps := state.broker.qos_keepsConnections channel config.prefetch
      rwa [hqos] at hkeeps
  | @refuseSubscribe _ channel _ _ hconsume | @subscribe _ channel _ _ hconsume =>
      have hkeeps := state.broker.consume_keepsConnections
        (request config queue channel (nextTag config state.ids).1)
      rwa [hconsume] at hkeeps
  | cancelListening hcancelled => exact state.broker.hangUp_keepsConnections _
  | take hgoesOn hreceive => exact state.broker.receive_keepsConnections hreceive
  | fault hgoesOn hreceive =>
      exact (state.broker.receive_keepsConnections hreceive).trans
        (Broker.hangUp_keepsConnections _ _)
  | endOfStream hgoesOn hreceive =>
      exact (state.broker.receive_keepsConnections hreceive).trans
        (Broker.hangUp_keepsConnections _ _)
  | settle htime => exact state.broker.settle_keepsConnections _ _
  | conclude =>
      rw [conclude_broker]
      split
      · exact .refl _
      · exact state.broker.settle_keepsConnections _ _
  | closeChannel hopen => exact state.broker.closeChannel_keepsConnections _
  | _ => exact .refl _

/-- What a turn at this point may write into the record. -/
def mayWrite : Consuming → Broker.Entry → Bool
  | looking _, .openChannel _ => true
  | limiting _ _, .qos _ _ | limiting _ _, .qosGranted _ _ => true
  | subscribing _ _, .consume _ | subscribing _ _, .consumeGranted _ => true
  | handling _ _ _ _ _, .settle _ _ | handled _ _ _ _, .settle _ _ => true
  | closing _ _ _, .closeChannel _ => true
  | _, _ => false

theorem Advance.writes (hadvance : Advance s config queue handler state point state' point') :
    state.broker.Writes state'.broker point.mayWrite := by
  cases hadvance with
  | @refuseOpen _ connection _ _ _ _ hbegin | @beginOpen _ connection _ _ _ _ hbegin =>
      have hentries := state.broker.beginOpen_entries connection
      rw [hbegin] at hentries
      exact .of_entry hentries rfl
  | refuseLimits hqos => exact .of_entry (Broker.qos_entries_of_error _ hqos) rfl
  | limit hqos => exact .of_entries (Broker.qos_entries_of_ok _ hqos) rfl rfl
  | refuseSubscribe hconsume => exact .of_entry (Broker.consume_entries_of_error _ hconsume) rfl
  | subscribe hconsume => exact .of_entries (Broker.consume_entries_of_ok _ hconsume) rfl rfl
  | take hgoesOn hreceive => exact .of_eq (Broker.receive_entries _ hreceive)
  | fault hgoesOn hreceive =>
      exact .of_eq ((Broker.hangUp_entries _ _).trans (Broker.receive_entries _ hreceive))
  | endOfStream hgoesOn hreceive =>
      exact .of_eq ((Broker.hangUp_entries _ _).trans (Broker.receive_entries _ hreceive))
  | settle htime => exact .of_entry (state.broker.settle_entries _ _) rfl
  | @conclude _ _ delivery outcome =>
      have hentries := conclude_entries config state.broker delivery outcome
      split at hentries
      · exact .of_eq (by rw [hentries, List.append_nil])
      · exact .of_entry hentries rfl
  | closeChannel hopen => exact .of_entry (state.broker.closeChannel_entries _) rfl
  | _ => exact .of_eq rfl

end Turns

end Consuming

end BrokerClient
