import BrokerClient.Broker.Basic

/-!
# What a broker is asked for

The operations of a client on connections, channels and subscriptions.  An operation whose time has
not come has been begun and not ended; if it is given up then, its end never happens.
-/

namespace BrokerClient.Broker

/-! ## Connections -/

def beginDial (b : Broker) (endpoint : String) : Broker × Wait :=
  (b.note (.dial endpoint), b.beginWait .dialing)

/-- The end of a dial: a new connection, unless a failure is queued or nobody is there. -/
def endDial (b : Broker) (endpoint : String) : Broker × Except BrokerError Nat :=
  match b.takeFailure .dial with
  | (some error, b) => (b, .error error)
  | (none, b) =>
    if endpoint ∈ b.reachable then
      ({ b with connections := b.connections ++ [⟨endpoint, .new⟩] }, .ok b.connections.length)
    else (b, .error (.connection ("connection refused: " ++ endpoint)))

def closeConnection (b : Broker) (connection : Nat) : Broker × Except BrokerError Unit :=
  match (b.note (.closeConnection connection)).takeFailure .closeConnection with
  | (some error, b) => (b, .error error)
  | (none, b) => (b.dropConnection connection .graceful, .ok ())

/-! ## Channels -/

/-- The error of an operation on a channel that is closed. -/
def channelClosedError (channel : Nat) : BrokerError :=
  .channelClosed ("channel " ++ toString channel)

def beginOpen (b : Broker) (connection : Nat) : Broker × Except BrokerError Wait :=
  let b := b.note (.openChannel connection)
  if b.connectionClosed connection then
    (b, .error (.connectionClosed (b.endpointOf connection)))
  else
    match b.takeFailure .openChannel with
    | (some error, b) => (b, .error error)
    | (none, b) =>
      if b.refusesChannels then (b, .error (.channel "channel open refused"))
      else (b, .ok (b.beginWait .opening))

/-- The end of an opening: a new channel, which is open even if its connection has gone
meanwhile. -/
def endOpen (b : Broker) (connection : Nat) : Broker × Nat :=
  ({ b with channels := b.channels ++ [⟨connection, .new⟩] }, b.channels.length)

def closeChannel (b : Broker) (channel : Nat) : Broker × Except BrokerError Unit :=
  match (b.note (.closeChannel channel)).takeFailure .closeChannel with
  | (some error, b) => (b, .error error)
  | (none, b) => (b.dropChannel channel .graceful, .ok ())

def qos (b : Broker) (channel : Nat) (prefetch : Prefetch) : Broker × Except BrokerError Unit :=
  let b := b.note (.qos channel prefetch)
  if b.channelClosed channel then (b, .error (channelClosedError channel))
  else
    match b.takeFailure .qos with
    | (some error, b) => (b, .error error)
    | (none, b) => (b.note (.qosGranted channel prefetch), .ok ())

/-! ## Publishing -/

/-- The begin of a publish.  A failure that says that the channel is gone closes it. -/
def beginPublish (b : Broker) (channel : Nat) : Broker × Except BrokerError Wait :=
  let b := b.note (.publish channel)
  if b.channelClosed channel then (b, .error (channelClosedError channel))
  else
    match b.takeFailure .publish with
    | (some error, b) =>
      let b := if error.isChannelClosed then b.dropChannel channel (.error error.message) else b
      (b, .error error)
    | (none, b) =>
      match b.takeFailure .refusePublish with
      | (some error, b) => (b, .error error)
      | (none, b) => (b, .ok (b.beginWait .publishing))

/-- The end of a publish: the broker has taken the message. -/
def endPublish (b : Broker) (publication : Publication) : Broker :=
  b.note (.published publication)

/-! ## Subscriptions -/

/-- Subscribes to a queue, which from now on feeds this subscription and no other. -/
def consume (b : Broker) (request : SubscribeRequest) : Broker × Except BrokerError Nat :=
  let b := b.note (.consume request)
  if b.channelClosed request.channel then (b, .error (channelClosedError request.channel))
  else
    match b.takeFailure .consume with
    | (some error, b) => (b, .error error)
    | (none, b) =>
      let b := b.note (.consumeGranted request)
      ({ b with
          subscriptions := b.subscriptions ++ [⟨request.queue, request.channel, [], true⟩]
          feeds := Fields.insert request.queue b.subscriptions.length b.feeds },
        .ok b.subscriptions.length)

/-- Does a queue feed the subscription? -/
def isFed (b : Broker) (subscription : Nat) : Bool :=
  b.feeds.any fun (_, fed) => fed = subscription

/-- What comes next from a subscription. -/
inductive Next
  | item (item : Item)
  /-- Nothing comes any more. -/
  | ended

/-- Takes what comes next; `none` while it is to be waited for.  On a closed channel nothing comes,
whatever has been sent. -/
def receive (b : Broker) (i : Nat) : Option (Broker × Next) :=
  match b.subscriptions[i]? with
  | none => some (b, .ended)
  | some subscription =>
    if b.channelClosed subscription.channel then some (b, .ended)
    else
      match subscription.items with
      | item :: items =>
        some ({ b with subscriptions := b.subscriptions.set i { subscription with items } },
          .item item)
      | [] => if b.isFed i then none else some (b, .ended)

/-- Stops listening to a subscription. -/
def hangUp (b : Broker) (i : Nat) : Broker :=
  { b with
    subscriptions := b.subscriptions.modify i fun subscription =>
      { subscription with items := [], heard := false } }

/-- Does the subscription that a queue feeds still listen? -/
def isHeard (b : Broker) (queue : String) : Bool :=
  match (Fields.find? queue b.feeds).bind fun i => b.subscriptions[i]? with
  | some subscription => subscription.heard
  | none => false

/-- Sends something to the subscription that a queue feeds; tells whether it listens. -/
def send (b : Broker) (queue : String) (item : Item) : Bool × Broker :=
  if b.isHeard queue then
    match Fields.find? queue b.feeds with
    | some i =>
      (true,
        { b with
          subscriptions := b.subscriptions.modify i fun subscription =>
            { subscription with items := subscription.items ++ [item] } })
    | none => (false, b)
  else (false, b)

/-- Ends what a queue feeds; tells whether it fed anything. -/
def endFeed (b : Broker) (queue : String) : Bool × Broker :=
  ((Fields.find? queue b.feeds).isSome, { b with feeds := Fields.erase queue b.feeds })

/-- Settles a delivery. -/
def settle (b : Broker) (tag : UInt64) (settlement : Settlement) :
    Broker × Except BrokerError Unit :=
  let operation : Operation :=
    match settlement with
    | .ack => .ack
    | .nack _ => .nack
  match (b.note (.settle tag settlement)).takeFailure operation with
  | (some error, b) => (b, .error error)
  | (none, b) => (b, .ok ())

/-! ## Endpoints -/

/-- Makes an endpoint reachable or not; tells whether that is a change. -/
def setReachable (b : Broker) (endpoint : String) (on : Bool) : Bool × Broker :=
  let there := decide (endpoint ∈ b.reachable)
  if on then
    (!there, if there then b else { b with reachable := b.reachable ++ [endpoint] })
  else (there, { b with reachable := b.reachable.filter (· != endpoint) })

end BrokerClient.Broker
