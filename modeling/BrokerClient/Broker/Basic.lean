import BrokerClient.CloseNotice
import BrokerClient.Consumer.Config
import BrokerClient.Delivery
import BrokerClient.Event
import BrokerClient.Fields

/-!
# An in-memory broker

The broker that a client is tried out on: connections, channels and subscriptions, endpoints that
can be reached or not, failures that are queued for operations to come, and a record of all that was
asked of it.  It keeps the clock, which counts milliseconds.

An operation that takes time has a begin and an end.  In between it waits as `Wait` says: behind a
gate, and then for the latency of its kind.
-/

namespace BrokerClient

namespace Broker

/-- A connection: where it leads and whether it has been closed. -/
structure Connection where
  endpoint : String
  notice : CloseNotice
  deriving Repr, DecidableEq

/-- A channel of a connection. -/
structure Channel where
  connection : Nat
  notice : CloseNotice
  deriving Repr, DecidableEq

/-- What a subscription hands out. -/
inductive Item
  | delivery (delivery : Delivery)
  | fault (error : BrokerError)

/-- A subscription to a queue: what has been sent to it and not been taken, and whether anybody
still listens. -/
structure Subscription where
  queue : String
  channel : Nat
  items : List Item
  heard : Bool

/-- The operations that failures can be queued for.  A refused publish leaves its channel open
whatever the error says. -/
inductive Operation
  | dial
  | openChannel
  | publish
  | refusePublish
  | qos
  | consume
  | ack
  | nack
  | closeChannel
  | closeConnection
  deriving Repr, DecidableEq

/-- The operations that take time. -/
inductive Phase
  | dialing
  | opening
  | publishing
  deriving Repr, DecidableEq

/-- How fast operations of a kind go: not at all while the gate is shut, else with a latency. -/
structure Pace where
  shut : Bool := false
  latency : Nat := 0
  deriving Repr, DecidableEq

/-- A message that the broker has taken. -/
structure Publication where
  channel : Nat
  exchange : String
  routingKey : String
  mandatory : Bool
  immediate : Bool
  message : OutboundMessage
  deriving Repr, DecidableEq

/-- A request to be sent the messages of a queue. -/
structure SubscribeRequest where
  channel : Nat
  queue : String
  tag : String
  options : ConsumeOptions
  arguments : Amqp.Table

/-- What the broker has been asked and what it has granted. -/
inductive Entry
  | dial (endpoint : String)
  | openChannel (connection : Nat)
  | closeConnection (connection : Nat)
  | closeChannel (channel : Nat)
  | qos (channel : Nat) (prefetch : Prefetch)
  | qosGranted (channel : Nat) (prefetch : Prefetch)
  | publish (channel : Nat)
  | published (publication : Publication)
  | consume (request : SubscribeRequest)
  | consumeGranted (request : SubscribeRequest)
  | settle (tag : UInt64) (settlement : Settlement)

end Broker

/-- An in-memory broker. -/
structure Broker where
  /-- The time in milliseconds. -/
  clock : Nat := 0
  reachable : List String := []
  dialing : Broker.Pace := {}
  opening : Broker.Pace := {}
  publishing : Broker.Pace := {}
  /-- How often those who wait at a gate look whether it is open; `none` when they are told. -/
  lookEvery : Option Nat := none
  /-- Does every request for a channel fail? -/
  refusesChannels : Bool := false
  failures : List (Broker.Operation × BrokerError) := []
  connections : List Broker.Connection := []
  channels : List Broker.Channel := []
  subscriptions : List Broker.Subscription := []
  /-- The subscription that each queue is sent to. -/
  feeds : List (String × Nat) := []
  record : List (Nat × Broker.Entry) := []

namespace Broker

/-- Writes down what happens now. -/
def note (b : Broker) (entry : Entry) : Broker :=
  { b with record := b.record ++ [(b.clock, entry)] }

/-! ## What is open -/

/-- Is the connection closed?  One that never was counts as closed. -/
def connectionClosed (b : Broker) (i : Nat) : Bool :=
  ((b.connections[i]?).map (·.notice.isFired)).getD true

/-- Is the channel closed?  One that never was counts as closed. -/
def channelClosed (b : Broker) (i : Nat) : Bool :=
  ((b.channels[i]?).map (·.notice.isFired)).getD true

/-- Where a connection leads. -/
def endpointOf (b : Broker) (i : Nat) : String :=
  ((b.connections[i]?).map (·.endpoint)).getD ""

/-- Why a connection was closed, if it was. -/
def connectionReason? (b : Broker) (i : Nat) : Option CloseReason :=
  (b.connections[i]?).bind (·.notice.closed?)

/-- Why a channel was closed, if it was. -/
def channelReason? (b : Broker) (i : Nat) : Option CloseReason :=
  (b.channels[i]?).bind (·.notice.closed?)

/-- Closes a channel. -/
def dropChannel (b : Broker) (i : Nat) (reason : CloseReason) : Broker :=
  { b with
    channels := b.channels.modify i fun channel =>
      { channel with notice := channel.notice.fired reason } }

/-- Closes a connection and with it all its channels. -/
def dropConnection (b : Broker) (i : Nat) (reason : CloseReason) : Broker :=
  { b with
    connections := b.connections.modify i fun connection =>
      { connection with notice := connection.notice.fired reason }
    channels := b.channels.map fun channel =>
      if channel.connection = i then { channel with notice := channel.notice.fired reason }
      else channel }

/-! ## Failures -/

/-- Queues a failure for the next operation of a kind. -/
def queueFailure (b : Broker) (operation : Operation) (error : BrokerError) : Broker :=
  { b with failures := b.failures ++ [(operation, error)] }

/-- The first entry for an operation and the list without it. -/
def takeFirst (operation : Operation) :
    List (Operation × BrokerError) → Option (BrokerError × List (Operation × BrokerError))
  | [] => none
  | (kind, error) :: rest =>
    if kind = operation then some (error, rest)
    else (takeFirst operation rest).map fun (found, rest) => (found, (kind, error) :: rest)

/-- Takes the oldest failure that is queued for an operation. -/
def takeFailure (b : Broker) (operation : Operation) : Option BrokerError × Broker :=
  match takeFirst operation b.failures with
  | some (error, rest) => (some error, { b with failures := rest })
  | none => (none, b)

/-! ## Waiting -/

/-- What an operation on its way waits for. -/
inductive Wait
  /-- For the gate to be opened; the latency comes after. -/
  | gate (phase : Phase) (latency : Nat)
  /-- For the time to look at the gate again. -/
  | look (phase : Phase) (time latency : Nat)
  | moment (time : Nat)
  deriving Repr, DecidableEq

/-- How a wait stands. -/
inductive Progress
  | blocked
  | goesOn (wait : Wait)
  | passed
  deriving Repr, DecidableEq

def pace (b : Broker) : Phase → Pace
  | .dialing => b.dialing
  | .opening => b.opening
  | .publishing => b.publishing

/-- The time at which the wait is to be looked at again, if it ends with time. -/
def Wait.deadline? : Wait → Option Nat
  | gate _ _ => none
  | look _ time _ => some time
  | moment time => some time

/-- The wait at the gate of a phase: the latency that follows is the one of now. -/
def waitAt (b : Broker) (phase : Phase) (latency : Nat) : Wait :=
  if (b.pace phase).shut then
    match b.lookEvery with
    | none => .gate phase latency
    | some interval => .look phase (b.clock + interval) latency
  else .moment (b.clock + latency)

/-- The wait of an operation that begins now. -/
def beginWait (b : Broker) (phase : Phase) : Wait :=
  b.waitAt phase (b.pace phase).latency

/-- How a wait stands now. -/
def progress (b : Broker) : Wait → Progress
  | .gate phase latency =>
    if (b.pace phase).shut then .blocked else .goesOn (.moment (b.clock + latency))
  | .look phase time latency =>
    if b.clock < time then .blocked else .goesOn (b.waitAt phase latency)
  | .moment time => if b.clock < time then .blocked else .passed

end Broker

end BrokerClient
