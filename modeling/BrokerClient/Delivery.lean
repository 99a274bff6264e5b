import BrokerClient.Error
import BrokerClient.Json.Shape

/-!
# Deliveries

A message that came in from the broker, and how it is shown in logs.  Settling it with the broker is
an operation of the channel that it came from.
-/

namespace BrokerClient

/-- A message that came in. -/
structure Delivery where
  tag : UInt64
  exchange : String
  routingKey : String
  redelivered : Bool
  messageId : Option String
  contentType : Option String
  data : Bytes
  deriving Repr, DecidableEq, Inhabited

/-- The answer that settles a delivery. -/
inductive Settlement
  | ack
  | nack (requeue : Bool)
  deriving Repr, DecidableEq

namespace Delivery

/-- A delivery with a tag and a body. -/
def new (tag : UInt64) (data : Bytes) : Delivery where
  tag
  exchange := ""
  routingKey := ""
  redelivered := false
  messageId := none
  contentType := none
  data

def withMessageId (delivery : Delivery) (id : String) : Delivery :=
  { delivery with messageId := some id }

def withContentType (delivery : Delivery) (contentType : String) : Delivery :=
  { delivery with contentType := some contentType }

def withRoute (delivery : Delivery) (exchange routingKey : String) : Delivery :=
  { delivery with exchange, routingKey }

def withRedelivered (delivery : Delivery) (redelivered : Bool) : Delivery :=
  { delivery with redelivered }

/-- The body as a JSON value of a shape. -/
def decode (delivery : Delivery) (shape : Json.Shape) : Except BrokerError Json.Value :=
  (shape.ofBytes? delivery.data).mapError fun e => .deserialization e.message

/-- The body as any JSON value. -/
def json (delivery : Delivery) : Except BrokerError Json.Value :=
  delivery.decode .any

/-! ## In logs -/

/-- The fields that logs show; of the body only the length. -/
def shownFields (delivery : Delivery) : List (String × String) := [
  ("delivery_tag", toString delivery.tag.toNat),
  ("exchange", Text.quoted delivery.exchange),
  ("routing_key", Text.quoted delivery.routingKey),
  ("redelivered", toString delivery.redelivered),
  ("message_id", Text.quotedOption delivery.messageId),
  ("content_type", Text.quotedOption delivery.contentType),
  ("len", toString delivery.data.length)]

/-- The delivery on one line. -/
def inspect (delivery : Delivery) : String :=
  "Delivery \x7b " ++
    Text.join ", " (delivery.shownFields.map fun (name, value) => name ++ ": " ++ value) ++
    ", .. \x7d"

/-- A value shown on lines of its own: an optional text opens to three lines. -/
private def opened (value : Option String) : String :=
  match value with
  | none => "None"
  | some text => "Some(\n        " ++ Text.quoted text ++ ",\n    )"

/-- The delivery with one field on each line. -/
def inspectLines (delivery : Delivery) : String :=
  let line (field : String × String) : String :=
    let value :=
      if field.1 == "message_id" then opened delivery.messageId
      else if field.1 == "content_type" then opened delivery.contentType
      else field.2
    "    " ++ field.1 ++ ": " ++ value ++ ",\n"
  "Delivery \x7b\n" ++ String.join (delivery.shownFields.map line) ++ "    ..\n\x7d"

end Delivery

/-! ## Settling with scripted answers -/

/-- A broker side that answers the settlements of a delivery from a list, where `none` accepts, and
keeps what was asked. -/
structure ScriptedAcker where
  answers : List (Option BrokerError)
  asked : List Settlement

/-- Asks for a settlement; with no answer left it is accepted. -/
def ScriptedAcker.settle (acker : ScriptedAcker) (settlement : Settlement) :
    Except BrokerError Unit × ScriptedAcker :=
  let asked := acker.asked ++ [settlement]
  match acker.answers with
  | some e :: rest => (.error e, ⟨rest, asked⟩)
  | none :: rest => (.ok (), ⟨rest, asked⟩)
  | [] => (.ok (), ⟨[], asked⟩)

end BrokerClient
