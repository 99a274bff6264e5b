import BrokerClient.Error
import BrokerClient.Json.Print

/-!
# Messages

An `Event` is a message as the application makes it, an `OutboundMessage` what a channel sends of
it, and a `Delivery` a message that came in.
-/

namespace BrokerClient

/-- A moment, as seconds and nanoseconds since 1970. -/
structure Timestamp where
  seconds : Int
  nanos : Nat
  deriving Repr, DecidableEq, Inhabited

/-- The seconds of a moment as an unsigned word, which is how they are sent. -/
def Timestamp.word (t : Timestamp) : UInt64 :=
  UInt64.ofInt t.seconds

/-- The body and the properties of a message to be sent. -/
structure OutboundMessage where
  messageId : String
  contentType : String
  timestamp : Timestamp
  body : Bytes
  deriving Repr, DecidableEq

/-- A message as the application makes it. -/
structure Event where
  exchange : String
  routingKey : String
  messageId : String
  contentType : String
  timestamp : Timestamp
  body : Bytes
  deriving Repr, DecidableEq

namespace Event

def jsonType : String := "application/json"

def binaryType : String := "application/octet-stream"

/-- A message with any body. -/
def ofBytes (exchange routingKey : String) (body : Bytes) (id : String) (now : Timestamp) : Event :=
  ⟨exchange, routingKey, id, binaryType, now, body⟩

def withMessageId (event : Event) (id : String) : Event :=
  { event with messageId := id }

def withContentType (event : Event) (contentType : String) : Event :=
  { event with contentType }

/-- Something that can be written as a JSON text, or a reason why it cannot. -/
abbrev Payload := Except Json.PlacedError String

/-- A JSON value as payload. -/
def Payload.ofValue (value : Json.Value) : Payload :=
  .ok value.compact

/-- A double as payload. -/
def Payload.ofFloat (x : Float) : Payload :=
  .ok (Json.Number.float x).compact

/-- A list of bytes as payload: an array of numbers. -/
def Payload.ofBytes (bytes : Bytes) : Payload :=
  .ofValue (.array (bytes.map fun byte => .ofNat byte.toNat))

/-- A map with a key that is no text. -/
def Payload.badKey : Payload :=
  .error ⟨.keyNotString, 0, 0⟩

/-- A value that refuses to be written and says why. -/
def Payload.refused (text : String) : Payload :=
  .error (.ofText text)

/-- A message whose body is a payload written as JSON. -/
def ofPayload (exchange routingKey : String) (payload : Payload) (id : String) (now : Timestamp) :
    Except BrokerError Event :=
  match payload with
  | .error cause => .error (.serialization cause)
  | .ok text =>
    .ok ((ofBytes exchange routingKey (Bytes.ofString text) id now).withContentType jsonType)

/-- A message whose body is a JSON value. -/
def ofJson (exchange routingKey : String) (value : Json.Value) (id : String) (now : Timestamp) :
    Except BrokerError Event :=
  ofPayload exchange routingKey (.ofValue value) id now

/-- What a channel sends of the message. -/
def toMessage (event : Event) : OutboundMessage :=
  ⟨event.messageId, event.contentType, event.timestamp, event.body⟩

end Event

end BrokerClient
