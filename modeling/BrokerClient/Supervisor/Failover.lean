import BrokerClient.Supervisor.Basic

/-!
# Failover

To connect, the endpoints are dialed in order until one answers.  The connection that answers takes
the slot, and the one that was there is closed; after the supervisor has been told to end it is
closed itself instead.
-/

namespace BrokerClient

/-- The points of a failover. -/
inductive Failover
  /-- About to dial the endpoint at an index; the last dial failed so. -/
  | next (index : Nat) (last : Option BrokerError)
  | dialing (index : Nat) (last : Option BrokerError) (wait : Broker.Wait)
  /-- The endpoint has answered; the slot is yet to be filled. -/
  | answered (index connection : Nat)
  /-- The connection has come too late. -/
  | refusing (connection : Nat)
  /-- The slot is filled; the connection before is yet to be closed. -/
  | replaced (index previous : Nat)
  | connected (index : Nat)
  | finished (result : Except BrokerError Unit)

namespace Failover

/-- Where a failover begins. -/
def start : Failover :=
  next 0 none

/-- Can the failover be given up here without anything being left half done? -/
def isSafe : Failover → Bool
  | next _ _ => true
  | dialing _ _ _ => true
  | _ => false

def result? : Failover → Option (Except BrokerError Unit)
  | finished result => some result
  | _ => none

/-- The log of a close whose failure does not matter. -/
private def closeLog (result : Except BrokerError Unit) : List Log.Line :=
  match result with
  | .ok () => []
  | .error e => [Log.warn "Failed to close RabbitMQ connection" [("error", e.message)]]

private def endpointValue (endpoint : String) : String × String :=
  ("endpoint", Endpoint.redact endpoint)

/-- A turn of a failover; `none` while it waits and after its end. -/
def step (s : Supervisor) (b : Broker) :
    Failover → Option (Turn (Supervisor × Broker) Failover)
  | next index last =>
    match s.endpoints[index]? with
    | some endpoint =>
      let (b, wait) := b.beginDial endpoint
      some ⟨(s, b), dialing index last wait,
        [Log.info ("Attempting to connect to RabbitMQ (" ++ toString (index + 1) ++ "/" ++
          toString s.endpoints.length ++ ")") [endpointValue endpoint]]⟩
    | none =>
      match last with
      | some e => some ⟨(s, b), finished (.error e), []⟩
      | none =>
        some ⟨(s, b), finished (.ok ()),
          if s.endpoints.isEmpty then
            [Log.warn "No RabbitMQ endpoints configured, nothing to connect to" []]
          else []⟩
  | dialing index last wait =>
    match b.progress wait with
    | .blocked => none
    | .goesOn wait => some ⟨(s, b), dialing index last wait, []⟩
    | .passed =>
      let endpoint := (s.endpoints[index]?).getD ""
      match b.endDial endpoint with
      | (b, .ok connection) => some ⟨(s, b), answered index connection, []⟩
      | (b, .error e) =>
        some ⟨(s, b), next (index + 1) (some e),
          [Log.warn "Failed to connect to RabbitMQ endpoint"
            [endpointValue endpoint, ("error", e.message)]]⟩
  | answered index connection =>
    if s.terminated then some ⟨(s, b), refusing connection, []⟩
    else
      some ⟨({ s with slot := some connection }, b),
        match s.slot with
        | some previous => replaced index previous
        | none => connected index, []⟩
  | refusing connection =>
    let (b, closing) := b.closeConnection connection
    some ⟨(s, b), finished (.error .terminated), closeLog closing⟩
  | replaced index previous =>
    if b.connectionClosed previous then some ⟨(s, b), connected index, []⟩
    else
      let log := [Log.debug "Closing previous connection"
        [endpointValue (b.endpointOf previous)]]
      let (b, closing) := b.closeConnection previous
      some ⟨(s, b), connected index, log ++ closeLog closing⟩
  | connected index =>
    some ⟨(s, b), finished (.ok ()),
      [Log.info "Successfully connected to RabbitMQ"
        [endpointValue ((s.endpoints[index]?).getD "")]]⟩
  | finished _ => none

/-- When a failover that waits is to be looked at again. -/
def deadline? : Failover → Option Nat
  | dialing _ _ wait => wait.deadline?
  | _ => none

end Failover

end BrokerClient
