import BrokerClient.Json.Fault
import BrokerClient.Amqp.ReplyCode

/-!
# Errors of the client

`BrokerError` is what an operation on a broker, a publisher or a consumer can fail with.
`BrokerError.isChannelClosed` singles out the failures after which a fresh channel may succeed.

`TransportError` is what the protocol layer below can fail with; `TransportError.toBrokerError` says
what such a failure means for the client.
-/

namespace BrokerClient

/-- Why an operation of the client failed. -/
inductive BrokerError
  | connection (text : String)
  | connectionClosed (text : String)
  | channel (text : String)
  | channelClosed (text : String)
  | notReady
  | serialization (cause : Json.PlacedError)
  | deserialization (text : String)
  | publish (text : String)
  | consume (text : String)
  | acknowledge (text : String)
  | timeout (text : String)
  | terminated
  | unknown (text : String)

namespace BrokerError

/-- The name of the kind of error. -/
def name : BrokerError → String
  | connection _ => "ConnectionError"
  | connectionClosed _ => "ConnectionClosed"
  | channel _ => "ChannelError"
  | channelClosed _ => "ChannelClosed"
  | notReady => "NotReady"
  | serialization _ => "SerializationError"
  | deserialization _ => "DeserializationError"
  | publish _ => "PublishError"
  | consume _ => "ConsumeError"
  | acknowledge _ => "AckError"
  | timeout _ => "TimeoutError"
  | terminated => "Terminated"
  | unknown _ => "Unknown"

/-- The error with a name and a text, for the kinds that hold no more than a text. -/
def ofName? (name text : String) : Option BrokerError :=
  [connection text, connectionClosed text, channel text, channelClosed text, notReady,
    deserialization text, publish text, consume text, acknowledge text, timeout text, terminated,
    unknown text].find? fun e => e.name = name

def message : BrokerError → String
  | connection text => "RabbitMQ connection error: " ++ text
  | connectionClosed text => "RabbitMQ connection closed: " ++ text
  | channel text => "RabbitMQ channel error: " ++ text
  | channelClosed text => "RabbitMQ channel closed: " ++ text
  | notReady => "RabbitMQ broker not ready"
  | serialization cause => "Message serialization error: " ++ cause.message
  | deserialization text => "Message deserialization error: " ++ text
  | publish text => "RabbitMQ publish error: " ++ text
  | consume text => "RabbitMQ consume error: " ++ text
  | acknowledge text => "RabbitMQ acknowledge error: " ++ text
  | timeout text => "Timeout: " ++ text
  | terminated => "Connection supervisor has been shut down"
  | unknown text => "Unknown error: " ++ text

/-- The error as log fields show it: its name, and what it carries in parentheses. -/
def inspect (e : BrokerError) : String :=
  let withText (text : String) := e.name ++ "(" ++ Text.quoted text ++ ")"
  match e with
  | connection text => withText text
  | connectionClosed text => withText text
  | channel text => withText text
  | channelClosed text => withText text
  | notReady => e.name
  | serialization cause => e.name ++ "(" ++ cause.inspect ++ ")"
  | deserialization text => withText text
  | publish text => withText text
  | consume text => withText text
  | acknowledge text => withText text
  | timeout text => withText text
  | terminated => e.name
  | unknown text => withText text

/-- Is the channel in use gone, so that a fresh one may succeed?  A closed connection takes its
channels down with it. -/
def isChannelClosed : BrokerError → Bool
  | channelClosed _ => true
  | connectionClosed _ => true
  | _ => false

/-- The error of an operation that took longer than it was given. -/
def elapsed : BrokerError :=
  timeout "Operation timed out"

end BrokerError

namespace Amqp

/-- Why an operation of the protocol layer failed. -/
inductive TransportError
  | channelsExhausted
  | unsupportedVersion (major minor revision : Nat)
  | invalidChannel (number : Nat)
  | invalidChannelState (state : String)
  | invalidConnectionState (state : String)
  | io (text : String)
  | protocol (cause : ProtocolError)
  | missingHeartbeat
  deriving Repr, DecidableEq

namespace TransportError

def message : TransportError → String
  | channelsExhausted => "the maximum number of channels for this connection has been reached"
  | unsupportedVersion major minor revision =>
    "the server only supports AMQP " ++ toString major ++ "." ++ toString minor ++ "." ++
      toString revision
  | invalidChannel number => "invalid channel: " ++ toString number
  | invalidChannelState state => "invalid channel state: " ++ state
  | invalidConnectionState state => "invalid connection state: " ++ state
  | io text => "IO error: " ++ text
  | protocol cause => "protocol error: " ++ cause.message
  | missingHeartbeat => "no heartbeat received from server for too long"

/-- What the failure means for the client: whether a channel or the whole connection is gone. -/
def toBrokerError (e : TransportError) : BrokerError :=
  match e with
  | invalidChannelState _ | invalidChannel _ => .channelClosed e.message
  | invalidConnectionState _ | missingHeartbeat => .connectionClosed e.message
  | io _ => .connection e.message
  | channelsExhausted => .channel e.message
  | protocol cause =>
    match cause.severity with
    | .soft => .channel e.message
    | .hard => .connectionClosed e.message
  | unsupportedVersion _ _ _ => .unknown e.message

end TransportError

end Amqp

end BrokerClient
