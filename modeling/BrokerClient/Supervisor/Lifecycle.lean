import BrokerClient.Supervisor.Basic

/-!
# Start and shutdown

To start a supervisor is to set its watcher going, once.  To shut it down is to tell it to end, to
wait for the watcher, and to close the connection in use.
-/

namespace BrokerClient

/-- The points of a start. -/
inductive Start
  | locking
  | checking
  /-- All is clear; the watcher is about to be set going. -/
  | spawning
  | unlocking
  | finished
  deriving Repr, DecidableEq

namespace Start

/-- A turn of a start by the task `me`; the watcher will be the task `fresh`. -/
def step (s : Supervisor) (me fresh : Nat) : Start → Option (Turn Supervisor Start)
  | locking =>
    match s.lockedBy with
    | some _ => none
    | none => some ⟨{ s with lockedBy := some me }, checking, []⟩
  | checking =>
    if s.watcher.isSome || s.terminated then
      some ⟨s, unlocking,
        [Log.warn "Reconnect watcher already started or supervisor shut down" []]⟩
    else some ⟨s, spawning, []⟩
  | spawning => some ⟨{ s with watcher := some fresh }, unlocking, []⟩
  | unlocking => some ⟨{ s with lockedBy := none }, finished, []⟩
  | finished => none

end Start

/-- The points of a shutdown. -/
inductive Shutdown
  | signalling
  | takingWatcher
  | joining (watcher : Nat)
  | takingConnection
  | closing (connection : Nat)
  | finished (result : Except BrokerError Unit)

namespace Shutdown

def result? : Shutdown → Option (Except BrokerError Unit)
  | finished result => some result
  | _ => none

/-- A turn of a shutdown; `hasEnded` tells which tasks have come to their end. -/
def step (s : Supervisor) (b : Broker) (hasEnded : Nat → Bool) :
    Shutdown → Option (Turn (Supervisor × Broker) Shutdown)
  | signalling => some ⟨({ s with terminated := true }, b), takingWatcher, []⟩
  | takingWatcher =>
    match s.lockedBy with
    | some _ => none
    | none =>
      some ⟨({ s with watcher := none }, b),
        match s.watcher with
        | some watcher => joining watcher
        | none => takingConnection, []⟩
  | joining watcher =>
    if hasEnded watcher then some ⟨(s, b), takingConnection, []⟩ else none
  | takingConnection =>
    match s.slot with
    | none => some ⟨(s, b), finished (.ok ()), []⟩
    | some connection =>
      some ⟨({ s with slot := none }, b), closing connection,
        [Log.info "Closing RabbitMQ connection gracefully" []]⟩
  | closing connection =>
    if b.connectionClosed connection then some ⟨(s, b), finished (.ok ()), []⟩
    else
      let (b, result) := b.closeConnection connection
      some ⟨(s, b), finished result, []⟩
  | finished _ => none

end Shutdown

end BrokerClient
