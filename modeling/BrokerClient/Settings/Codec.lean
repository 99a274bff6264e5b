import BrokerClient.Settings.Basic
import BrokerClient.Json.Shape

/-!
# Settings as JSON

`Settings.toJson` is the document that is written, with the fields in their order of declaration;
an address or arguments that are not there are left out.  `Settings.shape` is the kind of document
that is read: only the section `connection` is required, and every setting left out has its default.
`Settings.ofJson` takes such a document in normal form.
-/

namespace BrokerClient

open Json (Value Shape)
open Json.Shape (Field)

/-! ## Writing -/

def ConnectionSettings.toJson (settings : ConnectionSettings) : Value :=
  .object <|
    [("endpoints", .array (settings.endpoints.map .string))] ++
    (settings.uri.map fun uri => ("uri", Value.string uri)).toList ++
    [("reconnect_delay_seconds", .ofNat settings.reconnectSeconds.toNat)]

def ConsumerSettings.toJson (settings : ConsumerSettings) : Value :=
  .object <|
    [("queue", .string settings.queue),
     ("auto_ack", .bool settings.autoAck),
     ("exclusive", .bool settings.exclusive),
     ("no_local", .bool settings.noLocal),
     ("prefetch_count", .ofNat settings.prefetchCount.toNat),
     ("prefetch_size", .ofNat settings.prefetchSize.toNat),
     ("prefetch_global", .bool settings.prefetchGlobal)] ++
    if settings.arguments.isEmpty then [] else [("arguments", .object settings.arguments)]

def PublisherSettings.toJson (settings : PublisherSettings) : Value :=
  .object
    [("exchange", .string settings.exchange),
     ("routing_key", .string settings.routingKey)]

def Settings.toJson (settings : Settings) : Value :=
  .object
    [("connection", settings.connection.toJson),
     ("consumer", settings.consumer.toJson),
     ("publisher", settings.publisher.toJson)]

/-! ## Shapes -/

def ConnectionSettings.shape : Shape :=
  .record "ConnectionConfig"
    [⟨"endpoints", .list .string, false⟩,
     ⟨"uri", .option .string, false⟩,
     ⟨"reconnect_delay_seconds", .unsigned 64, false⟩]

def ConsumerSettings.shape : Shape :=
  .record "ConsumerSettings"
    [⟨"queue", .string, false⟩,
     ⟨"auto_ack", .bool, false⟩,
     ⟨"exclusive", .bool, false⟩,
     ⟨"no_local", .bool, false⟩,
     ⟨"prefetch_count", .unsigned 16, false⟩,
     ⟨"prefetch_size", .unsigned 32, false⟩,
     ⟨"prefetch_global", .bool, false⟩,
     ⟨"arguments", .map, false⟩]

def PublisherSettings.shape : Shape :=
  .record "PublisherSettings"
    [⟨"exchange", .string, false⟩,
     ⟨"routing_key", .string, false⟩]

def Settings.shape : Shape :=
  .record "RabbitConfig"
    [⟨"connection", ConnectionSettings.shape, true⟩,
     ⟨"consumer", ConsumerSettings.shape, false⟩,
     ⟨"publisher", PublisherSettings.shape, false⟩]

/-! ## Reading -/

/-- A field's text, or what stands for it when it is left out. -/
def textOr (value : Value) (name otherwise : String) : String :=
  ((value.get name).asString?).getD otherwise

def flagOr (value : Value) (name : String) (otherwise : Bool) : Bool :=
  ((value.get name).asBool?).getD otherwise

def natOr (value : Value) (name : String) (otherwise : Nat) : Nat :=
  ((value.get name).asNat?).getD otherwise

def ConnectionSettings.ofJson (value : Value) : ConnectionSettings :=
  let standard := ConnectionSettings.standard
  { endpoints := (((value.get "endpoints").asArray?).getD []).filterMap Value.asString?
    uri := (value.get "uri").asString?
    reconnectSeconds :=
      .ofNat (natOr value "reconnect_delay_seconds" standard.reconnectSeconds.toNat) }

def ConsumerSettings.ofJson (value : Value) : ConsumerSettings :=
  let standard := ConsumerSettings.standard
  { queue := textOr value "queue" standard.queue
    autoAck := flagOr value "auto_ack" standard.autoAck
    exclusive := flagOr value "exclusive" standard.exclusive
    noLocal := flagOr value "no_local" standard.noLocal
    prefetchCount := .ofNat (natOr value "prefetch_count" standard.prefetchCount.toNat)
    prefetchSize := .ofNat (natOr value "prefetch_size" standard.prefetchSize.toNat)
    prefetchGlobal := flagOr value "prefetch_global" standard.prefetchGlobal
    arguments := ((value.get "arguments").asObject?).getD standard.arguments }

def PublisherSettings.ofJson (value : Value) : PublisherSettings :=
  let standard := PublisherSettings.standard
  { exchange := textOr value "exchange" standard.exchange
    routingKey := textOr value "routing_key" standard.routingKey }

def Settings.ofJson (value : Value) : Settings where
  connection := .ofJson (value.get "connection")
  consumer := .ofJson (value.get "consumer")
  publisher := .ofJson (value.get "publisher")

end BrokerClient
