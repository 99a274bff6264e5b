import BrokerClient.Amqp.Table
import BrokerClient.Consumer.Config
import BrokerClient.Event

/-!
# Methods

What a client says to a server, as far as it matters to what both do.
-/

namespace BrokerClient.Amqp

/-- A method that a client sends. -/
inductive Method
  | login (mechanism : String) (response : Bytes)
  | openHost (virtualHost : String)
  | close (code : Nat) (text : String)
  | openChannel
  | closeChannel (code : Nat) (text : String)
  | qos (count : UInt16) (everywhere : Bool)
  | consume (queue tag : String) (options : ConsumeOptions) (arguments : Table)
  | publish (exchange routingKey : String) (mandatory immediate : Bool)
      (message : OutboundMessage)
  | ack (tag : UInt64)
  | nack (tag : UInt64) (requeue : Bool)
  /-- The answer to a server that has ended a subscription. -/
  | cancelOk (tag : String)

/-- The kinds of methods that a server can be told to refuse. -/
inductive MethodKind
  | login
  | openHost
  | close
  | openChannel
  | closeChannel
  | qos
  | consume
  | publish
  deriving Repr, DecidableEq

/-- The kind of a method, if it can be refused. -/
def Method.kind? : Method → Option MethodKind
  | login _ _ => some .login
  | openHost _ => some .openHost
  | close _ _ => some .close
  | openChannel => some .openChannel
  | closeChannel _ _ => some .closeChannel
  | qos _ _ => some .qos
  | consume _ _ _ _ => some .consume
  | publish _ _ _ _ _ => some .publish
  | ack _ | nack _ _ | cancelOk _ => none

/-- What a server does to a client. -/
inductive Refusal
  | closeChannel (code : Nat) (text : String)
  | closeConnection (code : Nat) (text : String)
  /-- Ends the transport without a word. -/
  | hangUp
  deriving Repr, DecidableEq

end BrokerClient.Amqp
