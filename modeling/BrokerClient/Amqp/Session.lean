import BrokerClient.Amqp.Address
import BrokerClient.Amqp.Link
import BrokerClient.Amqp.Method
import BrokerClient.Delivery

/-!
# Sessions with a server

A client and a server that talk over any number of connections.  The server answers every method,
does as it has been told beforehand instead, or acts on its own; what it receives is written down.

Messages are published on channels that do not ask for confirmation: a publish is done as soon as
the message has been sent, and the server never says whether it has taken it.
-/

namespace BrokerClient.Amqp

/-- What the server says to a published message. -/
inductive Confirmation
  /-- The channel has not asked for confirmation. -/
  | notRequested
  | ack
  | nack
  deriving Repr, DecidableEq

/-- How a publish ends once the confirmation is there; a message that was turned down counts,
too. -/
def Confirmation.outcome (_confirmation : Confirmation) : Except BrokerError Unit :=
  .ok ()

/-- The deliveries that come to a subscription. -/
structure Stream where
  /-- The connection, and the position of the channel there. -/
  link : Nat
  channel : Nat
  tag : String
  items : List (Except TransportError Delivery) := []
  /-- Does nothing come any more? -/
  ended : Bool := false
  /-- Has the end been handed out? -/
  told : Bool := false
  /-- Why the channel failed. -/
  failure : Option TransportError := none

/-- A delivery that the client has in hand. -/
structure InHand where
  stream : Nat
  tag : UInt64
  /-- Has it been settled, or has that been tried? -/
  used : Bool := false

/-- A client and a server. -/
structure Session where
  /-- The addresses that the server listens at. -/
  hears : Address → Bool := fun _ => true
  links : List Link := []
  streams : List Stream := []
  inHand : List InHand := []
  /-- What the server does instead of answering the next method of a kind. -/
  plans : List (MethodKind × Refusal) := []
  /-- The subscriptions that the server has been asked for, with the stream where it granted one. -/
  subscriptions : List (Option Nat) := []
  /-- What the server has received: connection, channel and method. -/
  received : List (Nat × Nat × Method) := []

namespace Session

/-! ## What a server does to a client -/

def atLink (s : Session) (link : Nat) (change : Link → Link) : Session :=
  { s with links := s.links.modify link fun l => (change l).forwardAll }

/-- Changes the streams of a connection that still run. -/
private def atStreams (s : Session) (concerns : Stream → Bool) (change : Stream → Stream) :
    Session :=
  { s with
    streams := s.streams.map fun stream =>
      if concerns stream && !stream.ended then change stream else stream }

/-- A stream after a failure: what has come is still there, and the failure comes last. -/
private def broken (e : TransportError) (stream : Stream) : Stream :=
  { stream with items := stream.items ++ [.error e], ended := true, failure := some e }

private def ended (stream : Stream) : Stream :=
  { stream with ended := true }

/-- A connection fails. -/
def failLink (s : Session) (link : Nat) (e : TransportError) : Session :=
  (s.atStreams (fun stream => stream.link = link) (broken e)).atLink link
    (·.failedThroughout e)

/-- A connection ends without an error. -/
def endLink (s : Session) (link : Nat) : Session :=
  (s.atStreams (fun stream => stream.link = link) ended).atLink link (·.endedThroughout)

/-- A channel fails. -/
def failChannel (s : Session) (link channel : Nat) (e : TransportError) : Session :=
  (s.atStreams (fun stream => stream.link = link && stream.channel = channel) (broken e)).atLink
    link (·.atChannel channel (·.failed .closed e))

/-- A channel ends without an error. -/
def endChannel (s : Session) (link channel : Nat) : Session :=
  (s.atStreams (fun stream => stream.link = link && stream.channel = channel) ended).atLink
    link (·.atChannel channel (·.left .closed))

/-- The error that a lost transport shows as. -/
def lostTransport : TransportError :=
  .io "connection aborted"

/-- A server acts on a connection, or on the channel with a number; the error is what a call that
waits there gets. -/
def refuse (s : Session) (link number : Nat) (refusal : Refusal) : Session × TransportError :=
  match refusal with
  | .hangUp => (s.failLink link lostTransport, lostTransport)
  | .closeConnection code text =>
    match ProtocolError.ofCode? code text with
    | some e => (s.failLink link (.protocol e), .protocol e)
    | none => (s.endLink link, .invalidConnectionState LinkState.closed.name)
  | .closeChannel code text =>
    let position := (s.links[link]?).bind (·.position? number)
    match ProtocolError.ofCode? code text with
    | some e =>
      (position.elim s fun channel => s.failChannel link channel (.protocol e), .protocol e)
    | none =>
      (position.elim s fun channel => s.endChannel link channel,
        .invalidChannelState "Closing")

/-! ## What a client sends -/

/-- Takes the plan for the next method of a kind. -/
private def takePlan (kind : MethodKind) :
    List (MethodKind × Refusal) → Option (Refusal × List (MethodKind × Refusal))
  | [] => none
  | (planned, refusal) :: rest =>
    if planned = kind then some (refusal, rest)
    else (takePlan kind rest).map fun (found, rest) => (found, (planned, refusal) :: rest)

/-- Sends a method; an error says that the server has refused it. -/
def send (s : Session) (link number : Nat) (method : Method) :
    Session × Except TransportError Unit :=
  let s := { s with received := s.received ++ [(link, number, method)] }
  match method.kind?.bind fun kind => takePlan kind s.plans with
  | none => (s, .ok ())
  | some (refusal, plans) =>
    let (s, e) := ({ s with plans } : Session).refuse link number refusal
    (s, .error e)

/-! ### Connections -/

/-- The text that proves who the client is. -/
def loginResponse (address : Address) : Bytes :=
  let long (text : String) : Bytes :=
    let bytes := Bytes.ofString text
    [3, 2, 1, 0].map (fun k => UInt8.ofNat (bytes.length / Nat.pow 256 k % 256)) ++ bytes
  let short (text : String) : Bytes :=
    let bytes := Bytes.ofString text
    UInt8.ofNat bytes.length :: bytes
  match address.mechanism with
  | .plain => 0 :: Bytes.ofString address.user ++ 0 :: Bytes.ofString address.password
  | .external => []
  | .rabbitDemo => Bytes.ofString address.user
  | .amqplain =>
    short "LOGIN" ++ Bytes.ofString "S" ++ long address.user ++
      short "PASSWORD" ++ Bytes.ofString "S" ++ long address.password

/-- The greatest channel number: the lesser of both sides' wishes, where zero is no wish. -/
def channelMaxFor (address : Address) : Nat :=
  let offered := 2047
  match address.channelMax with
  | none | some 0 => offered
  | some wanted => min wanted offered

/-- The error of dialing where nobody listens. -/
def refused : TransportError :=
  .io "Connection refused (os error 111)"

/-- Dials an address; gives the connection's number. -/
def dial (s : Session) (endpoint : String) : Session × Except BrokerError Nat :=
  match Address.parse endpoint with
  | .error fault => (s, .error fault.toBrokerError)
  | .ok address =>
    if !s.hears address then (s, .error refused.toBrokerError)
    else
      let link := s.links.length
      let new : Link := { endpoint, channelMax := channelMaxFor address }
      let s := { s with links := s.links ++ [new] }
      match s.send link 0 (.login address.mechanism.name (loginResponse address)) with
      | (s, .error e) => (s, .error e.toBrokerError)
      | (s, .ok ()) =>
        match s.send link 0 (.openHost address.virtualHost) with
        | (s, .error e) => (s, .error e.toBrokerError)
        | (s, .ok ()) => (s, .ok link)

/-- Closes a connection; one that has gone is left alone. -/
def closeLink (s : Session) (link : Nat) : Session × Except BrokerError Unit :=
  match s.links[link]? with
  | none => (s, .ok ())
  | some l =>
    let (s, result) :=
      if l.isConnected then s.send link 0 (.close 200 "Closing connection") else (s, .ok ())
    let s := match result with
      | .ok () => s.endLink link
      | .error _ => s
    (s.atLink link (·.closed), result.mapError TransportError.toBrokerError)

/-! ### Channels -/

/-- Opens a channel; gives its position in the connection. -/
def openChannel (s : Session) (link : Nat) : Session × Except BrokerError Nat :=
  match s.links[link]? with
  | none => (s, .error .notReady)
  | some l =>
    if !l.isConnected then
      (s, .error (TransportError.invalidConnectionState l.state.name).toBrokerError)
    else
      match l.nextNumber? with
      | none => (s, .error TransportError.channelsExhausted.toBrokerError)
      | some number =>
        let s := s.atLink link fun l => { l with lastNumber := number }
        match s.send link number .openChannel with
        | (s, .error e) => (s, .error e.toBrokerError)
        | (s, .ok ()) => (s.atLink link (·.withChannel number), .ok l.channels.length)

/-- A channel of a connection. -/
def channel? (s : Session) (link channel : Nat) : Option LinkChannel :=
  (s.links[link]?).bind fun l => l.channels[channel]?

/-- Calls a method on a channel, which must be connected. -/
def call (s : Session) (link channel : Nat) (method : Method) :
    Session × Except TransportError Unit :=
  match s.channel? link channel with
  | none => (s, .error (.invalidChannel channel))
  | some c =>
    if c.isConnected then s.send link c.number method
    else (s, .error (.invalidChannelState c.state.name))

/-- Closes a channel; one that has gone is left alone. -/
def closeChannel (s : Session) (link channel : Nat) : Session × Except BrokerError Unit :=
  let isConnected := (s.channel? link channel).any (·.isConnected)
  let (s, result) :=
    if isConnected then s.call link channel (.closeChannel 200 "Closing channel") else (s, .ok ())
  let s := match result with
    | .ok () => s.endChannel link channel
    | .error _ => s
  (s.atLink link (·.atChannel channel (·.closed)), result.mapError TransportError.toBrokerError)

/-- Sets the limits of a channel.  Servers turn limits on the size down, so none is sent. -/
def qos (s : Session) (link channel : Nat) (prefetch : Prefetch) :
    Session × Except BrokerError Unit :=
  let (s, result) := s.call link channel (.qos prefetch.count prefetch.everywhere)
  (s, result.mapError TransportError.toBrokerError)

/-- Publishes a message.  The server answers nothing; what it does to the client comes after. -/
def publish (s : Session) (link channel : Nat) (exchange routingKey : String)
    (mandatory immediate : Bool) (message : OutboundMessage) :
    Session × Except BrokerError Unit :=
  let isConnected := (s.channel? link channel).any (·.isConnected)
  let (s, result) :=
    s.call link channel (.publish exchange routingKey mandatory immediate message)
  if isConnected then (s, Confirmation.notRequested.outcome)
  else (s, result.mapError TransportError.toBrokerError)

/-! ### Subscriptions -/

/-- Subscribes to a queue; gives the stream of its deliveries. -/
def consume (s : Session) (link channel : Nat) (queue tag : String) (options : ConsumeOptions)
    (arguments : Table) : Session × Except BrokerError Nat :=
  let wasConnected := (s.channel? link channel).any (·.isConnected)
  match s.call link channel (.consume queue tag options arguments) with
  | (s, .error e) =>
    ({ s with subscriptions := s.subscriptions ++ if wasConnected then [none] else [] },
      .error e.toBrokerError)
  | (s, .ok ()) =>
    ({ s with
        streams := s.streams ++ [{ link, channel, tag }]
        subscriptions := s.subscriptions ++ [some s.streams.length] }, .ok s.streams.length)

/-- What a stream gives. -/
inductive Next
  | delivery (delivery : Delivery)
  | failure (error : BrokerError)
  /-- The end, told once. -/
  | ended
  /-- The end has been told. -/
  | done
  /-- Nothing has come yet. -/
  | pending

/-- Takes what comes next from a stream; a delivery is in hand from then on. -/
def next (s : Session) (i : Nat) : Option (Session × Next) :=
  (s.streams[i]?).map fun stream =>
    match stream.items with
    | .ok delivery :: items =>
      ({ s with
          streams := s.streams.set i { stream with items }
          inHand := s.inHand ++ [{ stream := i, tag := delivery.tag }] }, .delivery delivery)
    | .error e :: items =>
      ({ s with streams := s.streams.set i { stream with items } }, .failure e.toBrokerError)
    | [] =>
      if !stream.ended then (s, .pending)
      else if stream.told then (s, .done)
      else ({ s with streams := s.streams.set i { stream with told := true } }, .ended)

/-- The error of settling a delivery twice. -/
def alreadySettled : TransportError :=
  .protocol ⟨.soft, "PRECONDITION-FAILED", "Attempted to use an already used Acker"⟩

/-- Settles the delivery in hand with an index. -/
def settle (s : Session) (i : Nat) (settlement : Settlement) :
    Option (Session × Except BrokerError Unit) :=
  (s.inHand[i]?).bind fun held =>
    (s.streams[held.stream]?).map fun stream =>
      let used := { s with inHand := s.inHand.set i { held with used := true } }
      let (s, result) :=
        if held.used then (s, .error alreadySettled)
        else
          match stream.failure with
          | some e => (used, .error e)
          | none =>
            used.call stream.link stream.channel
              (match settlement with
              | .ack => .ack held.tag
              | .nack requeue => .nack held.tag requeue)
      (s, result.mapError fun e => .acknowledge e.message)

/-! ## What a server does on its own -/

/-- Plans what the server does instead of answering the next method of a kind. -/
def plan (s : Session) (kind : MethodKind) (refusal : Refusal) : Session :=
  { s with plans := s.plans ++ [(kind, refusal)] }

/-- The server sends a delivery to a subscription; tells whether there is one. -/
def deliver (s : Session) (subscription : Nat) (delivery : Delivery) : Session × Bool :=
  match s.subscriptions[subscription]? with
  | none => (s, false)
  | some none => (s, true)
  | some (some i) =>
    ({ s with
        streams := s.streams.modify i fun stream =>
          if stream.ended then stream else { stream with items := stream.items ++ [.ok delivery] } },
      true)

/-- The server ends a subscription; the client says that it has heard. -/
def cancel (s : Session) (subscription : Nat) : Session :=
  match (s.subscriptions[subscription]?).join with
  | none => s
  | some i =>
    match s.streams[i]? with
    | none => s
    | some stream =>
      match s.channel? stream.link stream.channel with
      | none => s
      | some c =>
        if stream.ended || !c.isConnected then s
        else
          { s with
            streams := s.streams.set i (ended stream)
            received := s.received ++ [(stream.link, c.number, .cancelOk stream.tag)] }

end Session

end BrokerClient.Amqp
