import BrokerClient.Broker.Operations
import BrokerClient.Endpoint
import BrokerClient.Log

/-!
# The connection supervisor

A supervisor owns the one connection of a client.  It knows the endpoints to try, holds the
connection in use in its slot, and remembers whether it has been told to end.  A watcher task, of
which there is at most one, replaces a connection that has gone.

The lock guards the handle of the watcher: who starts a watcher holds it from the check to the end,
and who takes the handle holds it for that moment.
-/

namespace BrokerClient

/-- The state of a connection supervisor. -/
structure Supervisor where
  endpoints : List String
  reconnectDelay : Duration := .ofSeconds 5
  /-- The connection in use. -/
  slot : Option Nat := none
  terminated : Bool := false
  /-- The task that watches, until someone has taken charge of its end. -/
  watcher : Option Nat := none
  /-- The task that holds the lock on the watcher's handle. -/
  lockedBy : Option Nat := none

namespace Supervisor

/-- Is there a connection in use that is open? -/
def isConnected (s : Supervisor) (b : Broker) : Bool :=
  match s.slot with
  | some connection => !b.connectionClosed connection
  | none => false

/-- The connection in use if it is open. -/
def open? (s : Supervisor) (b : Broker) : Option Nat :=
  s.slot.filter fun connection => !b.connectionClosed connection

/-- The endpoint of the connection in use, open or not. -/
def current? (s : Supervisor) (b : Broker) : Option String :=
  s.slot.map b.endpointOf

end Supervisor

end BrokerClient
