import BrokerClient.Amqp.Session
import BrokerClient.Consumer.Handler
import BrokerClient.Log
import BrokerClient.Machine
import BrokerClient.Uuid

/-!
# The service

The program at work.  It connects to the first endpoint that answers, consumes a queue, logging and
acknowledging what comes, and publishes heartbeats, until it is told to stop.

Its loops take their turns one after the other here: a loop that has lost its channel has opened
another one before anything else happens.  Each loop is an action that may fail; the service goes on
from where the failure has left it.
-/

namespace BrokerClient

/-- A log line; `queue` names the queue whose consumption it is about. -/
structure LogEntry where
  queue : Option String := none
  line : Log.Line
  deriving Repr, DecidableEq

/-- The entry as a program shows it. -/
def LogEntry.text (program : String) (entry : LogEntry) : String :=
  let place :=
    match entry.queue with
    | none => ""
    | some queue => "consumer:consume\x7bqueue=" ++ queue ++ "\x7d: "
  entry.line.level.name ++ " " ++ place ++ program ++ ": " ++ entry.line.message ++
    entry.line.valuesText

/-- A sign of life. -/
structure Heartbeat where
  sequence : Nat
  host : String

def Heartbeat.toJson (beat : Heartbeat) : Json.Value :=
  .object [("sequence", .ofNat beat.sequence), ("host", .string beat.host)]

/-- A service that is connected. -/
structure Service where
  settings : Settings
  config : ConsumerConfig
  host : String
  session : Amqp.Session
  /-- The connection in use. -/
  connection : Nat
  /-- The stream of the subscription. -/
  stream : Option Nat := none
  /-- The publisher's channel: its connection and its position there. -/
  publisher : Option (Nat × Nat) := none
  beats : Nat := 0
  ids : IdSource := {}
  log : List LogEntry := []

namespace Service

/-! ## Starting -/

/-- Dials the endpoints in order, up to the first that answers; the error is that of the last. -/
def dialAny (session : Amqp.Session) : List String → Amqp.Session × Except BrokerError Nat
  | [] => (session, .error .notReady)
  | [endpoint] => session.dial endpoint
  | endpoint :: rest =>
    match session.dial endpoint with
    | (session, .ok connection) => (session, .ok connection)
    | (session, .error _) => dialAny session rest

/-- What a start leaves behind. -/
structure Startup where
  session : Amqp.Session
  log : List LogEntry
  result : Except Report Service

/-- Loads the settings of a machine and connects.  Arguments that no subscription can carry show
only after that. -/
def start (machine : Machine) (session : Amqp.Session) : Startup :=
  let log : List LogEntry := [{ line := Log.info machine.source.message [] }]
  match machine.settings with
  | .error report => ⟨session, log, .error report⟩
  | .ok settings =>
    match dialAny session settings.endpoints with
    | (session, .error e) =>
      ⟨session, log,
        .error (e.report.context "Failed to connect to any RabbitMQ endpoint")⟩
    | (session, .ok connection) =>
      match settings.consumer.toConfig with
      | .error e => ⟨session, log, .error (.ofMessage e.message)⟩
      | .ok config =>
        ⟨session, log, .ok { settings, config, host := machine.name, session, connection, log }⟩

/-! ## Actions -/

/-- Something that a service does, which may fail. -/
abbrev Action := ExceptT BrokerError (StateM Service)

/-- Talks to the server. -/
def talk {α : Type} (say : Amqp.Session → Amqp.Session × Except BrokerError α) : Action α :=
  ExceptT.mk fun service =>
    let (session, result) := say service.session
    (result, { service with session })

def note (entry : LogEntry) : Action Unit :=
  modify fun service => { service with log := service.log ++ [entry] }

/-- A new identifier. -/
def newId : Action String := do
  let (id, ids) := (← get).ids.next
  modify fun service => { service with ids }
  return id

/-- Does the action, and whether it fails does not matter. -/
def quietly (action : Action Unit) : Action Unit :=
  tryCatch action fun _ => pure ()

/-- Closes a channel unless it has gone. -/
def closeChannel (link channel : Nat) : Action Unit := do
  if !(((← get).session.channel? link channel).all (·.isClosed)) then
    talk (·.closeChannel link channel)

/-- Opens a channel on the connection in use. -/
def openChannel : Action (Nat × Nat) := do
  let service ← get
  let link := service.connection
  if (service.session.links[link]?).all (·.isClosed) then throw .notReady
  let channel ← talk (·.openChannel link)
  return (link, channel)

/-- Dials again if the connection in use has gone. -/
def reconnect : Action Unit := do
  let service ← get
  if (service.session.links[service.connection]?).all (·.isClosed) then
    let connection ← talk (dialAny · service.settings.endpoints)
    modify fun service => { service with connection }

/-! ## Consuming -/

/-- Subscribes to the queue on a new channel, which is closed again if the server does not want
it. -/
def subscribeOnce : Action Unit := do
  let (link, channel) ← openChannel
  try
    let { config, settings, .. } ← get
    talk (·.qos link channel config.prefetch)
    let tag ← match config.tag with
      | some tag => pure tag
      | none => ("consumer-" ++ ·) <$> newId
    let stream ← talk
      (·.consume link channel settings.consumer.queue tag config.options config.arguments)
    modify fun service => { service with stream := some stream }
  catch e =>
    quietly (closeChannel link channel)
    throw e

/-- Subscribes, connecting again where that is needed, in at most `attempts` attempts. -/
def subscribe : Nat → Action Unit
  | 0 => pure ()
  | attempts + 1 =>
    tryCatch subscribeOnce fun _ => do
      quietly reconnect
      subscribe attempts

/-- Enough attempts for a server with that many refusals in store. -/
def attempts (service : Service) : Nat :=
  service.session.plans.length + 1

/-- Logs a delivery, the handler's part of the work. -/
def logDelivery (queue : String) (delivery : Delivery) : LogEntry where
  queue := some queue
  line := Log.info
    ("Received " ++ toString delivery.data.length ++ " bytes: " ++ Bytes.lossy delivery.data)
    [("delivery_tag", toString delivery.tag.toNat),
      ("message_id", Text.quotedOption delivery.messageId),
      ("redelivered", toString delivery.redelivered)]

/-- Takes what comes next from the stream; tells whether it was a delivery.  At the end of a stream
a new one is asked for. -/
def receiveOnce : Action Bool := do
  let service ← get
  match service.stream with
  | none => return false
  | some i =>
    match service.session.next i with
    | none | some (_, .pending) => return false
    | some (session, .delivery delivery) =>
      set { service with session }
      note (logDelivery service.settings.consumer.queue delivery)
      if !service.config.options.autoAck then
        quietly <| talk fun session =>
          (session.settle service.session.inHand.length .ack).getD (session, .ok ())
      return true
    | some (session, _) =>
      set { service with session, stream := none }
      match session.streams[i]? with
      | some stream => quietly (closeChannel stream.link stream.channel)
      | none => pure ()
      quietly reconnect
      subscribe service.attempts
      return false

/-! ## Publishing -/

/-- The publisher's channel, opened when there is none. -/
def publisherChannel : Action (Nat × Nat) := do
  let service ← get
  match service.publisher with
  | some (link, channel) =>
    if (service.session.channel? link channel).all (·.isClosed) then
      modify fun service => { service with publisher := none }
      open?
    else return (link, channel)
  | none => open?
where
  open? : Action (Nat × Nat) := do
    let channel ← openChannel
    modify fun service => { service with publisher := some channel }
    return channel

/-- Closes the publisher's channel; a later publish opens another one. -/
def closePublisher : Action Unit := do
  let service ← get
  match service.publisher with
  | none => pure ()
  | some (link, channel) =>
    set { service with publisher := none }
    closeChannel link channel

def publishOnce (event : Event) : Action Unit := do
  let (link, channel) ← publisherChannel
  talk (·.publish link channel event.exchange event.routingKey false false event.toMessage)

/-- Publishes a message, and once more on a fresh channel if the channel has gone. -/
def publish (event : Event) : Action Unit :=
  tryCatch (publishOnce event) fun e => do
    if !e.isChannelClosed then throw e
    quietly closePublisher
    quietly reconnect
    publishOnce event

/-- Publishes a heartbeat; a failure is logged. -/
def beat (now : Timestamp) : Action Unit := do
  modify fun service => { service with beats := service.beats + 1 }
  let { settings, beats, host, .. } ← get
  let id ← newId
  tryCatch
    (do
      let event ← Event.ofJson settings.publisher.exchange settings.publisher.routingKey
        (Heartbeat.toJson ⟨beats, host⟩) id now
      publish event)
    fun e => note { line := Log.warn ("Heartbeat publish failed: " ++ e.message)
                            [("sequence", toString beats)] }

/-! ## Running and stopping -/

/-- Does an action. -/
def after {α : Type} (service : Service) (action : Action α) : Except BrokerError α × Service :=
  action.run service

/-- The service once its loops have begun: it has subscribed and sent its first heartbeat. -/
def begun (service : Service) (now : Timestamp) : Service :=
  (service.after (do subscribe service.attempts; beat now)).2

/-- Takes what comes next; tells whether it was a delivery. -/
def received (service : Service) : Service × Bool :=
  match service.after receiveOnce with
  | (.ok received, service) => (service, received)
  | (.error _, service) => (service, false)

/-- Is the service subscribed, and has it published? -/
def isUp (service : Service) : Bool :=
  !service.session.subscriptions.isEmpty &&
    service.session.received.any fun (_, _, m) => m matches .publish ..

/-- What is done when the service is told to stop: the loops end, the publisher's channel and the
connection are closed. -/
def stop : Action Unit := do
  note { line := Log.info "Shutdown requested" [] }
  let service ← get
  match service.stream.bind fun i => service.session.streams[i]? with
  | some stream => quietly (closeChannel stream.link stream.channel)
  | none => pure ()
  tryCatch closePublisher fun e =>
    note { line := Log.warn ("Failed to close publisher channel: " ++ e.message) [] }
  if !(((← get).session.links[service.connection]?).all (·.isClosed)) then
    talk (·.closeLink service.connection)
  note { line := Log.info "Stopped" [] }

/-- The service after it has been told to stop, and what it reports. -/
def stopped (service : Service) : Except Report Unit × Service :=
  let (result, service) := service.after stop
  (result.mapError BrokerError.report, service)

end Service

end BrokerClient
