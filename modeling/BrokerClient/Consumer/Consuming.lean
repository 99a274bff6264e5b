import BrokerClient.Consumer.Handler
import BrokerClient.Supervisor.Basic
import BrokerClient.Uuid

/-!
# Consuming a queue

A consumption loop goes from session to session until it is told to stop.  A session opens a channel
on the connection in use, sets its limits, subscribes, and hands the deliveries one after the other
to the handler; at its end the channel is closed.  Between sessions the loop rests, longer and
longer while no subscription is accepted.
-/

namespace BrokerClient

/-- A session with an accepted subscription, and how many deliveries it has handled. -/
structure Session where
  channel : Nat
  subscription : Nat
  handled : Nat
  deriving Repr, DecidableEq

/-- What a consumption loop works on. -/
structure ConsumeState where
  broker : Broker
  /-- Has the loop been told to stop? -/
  cancelled : Bool
  ids : IdSource

/-- The points of a consumption loop. -/
inductive Consuming
  | starting
  /-- About to begin a session. -/
  | looking (backoff : Backoff Float)
  | opening (backoff : Backoff Float) (connection : Nat) (wait : Broker.Wait)
  /-- The channel is there; its limits are yet to be set. -/
  | limiting (backoff : Backoff Float) (channel : Nat)
  | subscribing (backoff : Backoff Float) (channel : Nat)
  | listening (backoff : Backoff Float) (session : Session)
  /-- A delivery has been taken; the handler is yet to be called. -/
  | received (backoff : Backoff Float) (session : Session) (delivery : Delivery)
  /-- The handler is at work, but not before a time. -/
  | handling (backoff : Backoff Float) (session : Session) (delivery : Delivery) (time : Nat)
      (work : Work)
  | handled (backoff : Backoff Float) (session : Session) (delivery : Delivery)
      (outcome : Except Report Unit)
  /-- The session is over; the channel is yet to be closed. -/
  | closing (backoff : Backoff Float) (channel : Nat) (outcome : Except BrokerError Nat)
  /-- The session is over: the number of deliveries, or why there was no subscription. -/
  | ended (backoff : Backoff Float) (outcome : Except BrokerError Nat)
  | resting (backoff : Backoff Float) (time : Nat)
  | stopping
  | finished

namespace Consuming

/-- The values that name a delivery in log lines. -/
private def deliveryValues (delivery : Delivery) : List (String × String) := [
  ("delivery_tag", toString delivery.tag.toNat),
  ("message_id", Text.quotedOption delivery.messageId)]

/-- The request for the messages of a queue. -/
def request (config : ConsumerConfig) (queue : String) (channel : Nat) (tag : String) :
    Broker.SubscribeRequest :=
  { channel, queue, tag, options := config.options, arguments := config.arguments }

/-- The tag of the next subscription. -/
def nextTag (config : ConsumerConfig) (ids : IdSource) : String × IdSource :=
  match config.tag with
  | some tag => (tag, ids)
  | none =>
    let (id, ids) := ids.next
    ("consumer-" ++ id, ids)

/-- Settles a delivery as its handler ended, if the broker does not take it as settled anyway. -/
def conclude (config : ConsumerConfig) (b : Broker) (delivery : Delivery)
    (outcome : Except Report Unit) : Broker × List Log.Line :=
  match config.options.autoAck, outcome with
  | true, .ok () => (b, [])
  | true, .error report =>
    (b, [Log.warn ("Handler failed on auto-acked message: " ++ report.line)
      (deliveryValues delivery)])
  | false, .ok () =>
    match b.settle delivery.tag .ack with
    | (b, .ok ()) => (b, [])
    | (b, .error e) =>
      (b, [Log.error ("Failed to acknowledge message: " ++ e.message)
        ((deliveryValues delivery).take 1)])
  | false, .error report =>
    let line := Log.error ("Error processing message: " ++ report.line) (deliveryValues delivery)
    match b.settle delivery.tag (.nack true) with
    | (b, .ok ()) => (b, [line])
    | (b, .error e) =>
      (b, [line, Log.error ("Failed to negatively acknowledge message: " ++ e.message)
        ((deliveryValues delivery).take 1)])

/-- The rest after a session, and how it is announced. -/
def rest (backoff : Backoff Float) (draw : Float) : Nat × Backoff Float × Log.Line :=
  let (delay, backoff) := backoff.next draw
  let shown := (Duration.ofMillis delay).text
  let count := [("failures", toString backoff.failures)]
  (delay, backoff,
    if backoff.isCircuitOpen && backoff.failures = backoff.policy.threshold.toNat then
      Log.error ("Consumer keeps failing, backing off for " ++ shown ++ " between attempts") count
    else Log.debug ("Reopening consumer in " ++ shown) count)

/-- The end of listening: the subscription is given up and the channel is to be closed. -/
def leave (state : ConsumeState) (backoff : Backoff Float) (session : Session)
    (log : List Log.Line) : Option (Turn ConsumeState Consuming) :=
  some ⟨{ state with broker := state.broker.hangUp session.subscription },
    closing backoff session.channel (.ok session.handled), log⟩

/-- A turn of a consumption loop; `none` while it waits and after its end. -/
def step (s : Supervisor) (config : ConsumerConfig) (queue : String) (handler : Handler)
    (state : ConsumeState) : Consuming → Option (Turn ConsumeState Consuming)
  | starting =>
    some ⟨state, looking (.new config.backoff), [Log.info "Consumer started" []]⟩
  | looking backoff =>
    if state.cancelled then some ⟨state, stopping, []⟩
    else
      match s.open? state.broker with
      | none => some ⟨state, ended backoff (.error .notReady), []⟩
      | some connection =>
        match state.broker.beginOpen connection with
        | (broker, .error e) => some ⟨{ state with broker }, ended backoff (.error e), []⟩
        | (broker, .ok wait) => some ⟨{ state with broker }, opening backoff connection wait, []⟩
  | opening backoff connection wait =>
    match state.broker.progress wait with
    | .blocked => none
    | .goesOn wait => some ⟨state, opening backoff connection wait, []⟩
    | .passed =>
      let (broker, channel) := state.broker.endOpen connection
      some ⟨{ state with broker }, limiting backoff channel, []⟩
  | limiting backoff channel =>
    match state.broker.qos channel config.prefetch with
    | (broker, .error e) => some ⟨{ state with broker }, closing backoff channel (.error e), []⟩
    | (broker, .ok ()) => some ⟨{ state with broker }, subscribing backoff channel, []⟩
  | subscribing backoff channel =>
    let (tag, ids) := nextTag config state.ids
    match state.broker.consume (request config queue channel tag) with
    | (broker, .error e) =>
      some ⟨{ state with broker, ids }, closing backoff channel (.error e), []⟩
    | (broker, .ok subscription) =>
      some ⟨{ state with broker, ids }, listening backoff ⟨channel, subscription, 0⟩,
        [Log.info "Started consuming from queue" [("consumer_tag", tag)]]⟩
  | listening backoff session =>
    if state.cancelled then leave state backoff session []
    else
      match state.broker.receive session.subscription with
      | none => none
      | some (broker, next) =>
        let state := { state with broker }
        match next with
        | .item (.delivery delivery) => some ⟨state, received backoff session delivery, []⟩
        | .item (.fault e) =>
          leave state backoff session [Log.error "Error receiving message" [("error", e.message)]]
        | .ended =>
          leave state backoff session [Log.warn "Delivery stream closed, reopening channel" []]
  | received backoff session delivery =>
    some ⟨state, handling backoff session delivery state.broker.clock (handler delivery), []⟩
  | handling backoff session delivery time work =>
    if state.broker.clock < time then none
    else
      match work with
      | .done outcome => some ⟨state, handled backoff session delivery outcome, []⟩
      | .sleep millis after =>
        some ⟨state, handling backoff session delivery (state.broker.clock + millis) after, []⟩
      | .cancel after =>
        some ⟨{ state with cancelled := true },
          handling backoff session delivery state.broker.clock after, []⟩
      | .settle settlement after =>
        let (broker, result) := state.broker.settle delivery.tag settlement
        some ⟨{ state with broker },
          handling backoff session delivery state.broker.clock (after result), []⟩
  | handled backoff session delivery outcome =>
    let (broker, log) := conclude config state.broker delivery outcome
    some ⟨{ state with broker },
      listening backoff { session with handled := session.handled + 1 }, log⟩
  | closing backoff channel outcome =>
    if state.broker.channelClosed channel then some ⟨state, ended backoff outcome, []⟩
    else
      let (broker, result) := state.broker.closeChannel channel
      some ⟨{ state with broker }, ended backoff outcome,
        match result with
        | .ok () => []
        | .error e => [Log.debug "Failed to close consumer channel" [("error", e.message)]]⟩
  | ended backoff outcome =>
    let (backoff, line) :=
      match outcome with
      | .ok count =>
        (backoff.reset, Log.debug "Consumer session ended" [("handled", toString count)])
      | .error e => (backoff, Log.warn "Consumer session failed" [("error", e.message)])
    if state.cancelled then some ⟨state, stopping, [line]⟩
    else
      let (draw, ids) := state.ids.draw
      let (delay, backoff, announcement) := rest backoff draw
      some ⟨{ state with ids }, resting backoff (state.broker.clock + delay),
        [line, announcement]⟩
  | resting backoff time =>
    if state.cancelled then some ⟨state, stopping, []⟩
    else if state.broker.clock < time then none
    else some ⟨state, looking backoff, []⟩
  | stopping => some ⟨state, finished, [Log.info "Consumer stopped" []]⟩
  | finished => none

/-- When a loop that waits is to be looked at again. -/
def deadline? : Consuming → Option Nat
  | opening _ _ wait => wait.deadline?
  | handling _ _ _ time _ => some time
  | resting _ time => some time
  | _ => none

end Consuming

end BrokerClient
