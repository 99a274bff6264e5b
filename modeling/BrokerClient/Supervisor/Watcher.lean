import BrokerClient.Supervisor.Failover

/-!
# The watcher

The watcher waits until the connection in use is closed and then goes round after round through the
endpoints, with a rest between the rounds, until there is a connection again.  Being told to end
comes before everything else that it waits for.
-/

namespace BrokerClient

/-- The points of the watcher. -/
inductive Watcher
  | starting
  /-- About to look which connection is in use. -/
  | looking
  /-- There is none; looks again later. -/
  | idle (time : Nat)
  | watching (connection : Nat)
  | lost (connection : Nat) (reason : CloseReason)
  | reconnecting (attempt : Nat) (failover : Failover)
  | resting (attempt : Nat) (time : Nat)
  | stopping
  | stopped

namespace Watcher

/-- The time after the delay between attempts. -/
def afterDelay (s : Supervisor) (b : Broker) : Nat :=
  b.clock + s.reconnectDelay.millis

/-- A turn that only moves on. -/
def goOn (s : Supervisor) (b : Broker) (point : Watcher) :
    Option (Turn (Supervisor × Broker) Watcher) :=
  some ⟨(s, b), point, []⟩

/-- A turn of the watcher; `none` while it waits and after its end. -/
def step (s : Supervisor) (b : Broker) : Watcher → Option (Turn (Supervisor × Broker) Watcher)
  | starting => some ⟨(s, b), looking, [Log.debug "Reconnect watcher started" []]⟩
  | looking =>
    match s.slot with
    | some connection => goOn s b (watching connection)
    | none => goOn s b (idle (afterDelay s b))
  | idle time =>
    if s.terminated then goOn s b stopping
    else if b.clock < time then none
    else goOn s b looking
  | watching connection =>
    if s.terminated then goOn s b stopping
    else (b.connectionReason? connection).bind fun reason => goOn s b (lost connection reason)
  | lost connection reason =>
    if s.isConnected b then
      some ⟨(s, b), looking, [Log.debug "Connection was replaced, resubscribing" []]⟩
    else
      some ⟨(s, b), reconnecting 1 .start,
        [Log.warn "RabbitMQ connection lost, reconnecting"
          [("endpoint", Endpoint.redact (b.endpointOf connection)),
            ("reason", reason.message)]]⟩
  | reconnecting attempt failover =>
    if s.terminated && failover.isSafe then goOn s b stopping
    else
      match failover with
      | .finished (.ok ()) =>
        some ⟨(s, b), looking,
          [Log.info "Reconnected to RabbitMQ" [("attempt", toString attempt)]]⟩
      | .finished (.error .terminated) => goOn s b stopping
      | .finished (.error e) =>
        some ⟨(s, b), resting attempt (afterDelay s b),
          [Log.error ("Reconnect attempt failed, retrying in " ++ s.reconnectDelay.text)
            [("attempt", toString attempt), ("error", e.message)]]⟩
      | _ =>
        (failover.step s b).map fun turn =>
          ⟨turn.state, reconnecting attempt turn.point, turn.log⟩
  | resting attempt time =>
    if s.terminated then goOn s b stopping
    else if b.clock < time then none
    else goOn s b (reconnecting (attempt + 1) .start)
  | stopping => some ⟨(s, b), stopped, [Log.debug "Reconnect watcher stopped" []]⟩
  | stopped => none

/-- When a watcher that waits is to be looked at again. -/
def deadline? : Watcher → Option Nat
  | idle time => some time
  | resting _ time => some time
  | reconnecting _ failover => failover.deadline?
  | _ => none

end Watcher

end BrokerClient
