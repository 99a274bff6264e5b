import BrokerClient.FairLock
import BrokerClient.Supervisor.Basic

/-!
# Publishers

A publisher sends messages over one channel, which it opens when it is first needed and again after
it has closed.  The lock guards its slot and serialises the publishes.
-/

namespace BrokerClient

/-- A channel that a publisher keeps, with the number it has there. -/
structure KeptChannel where
  id : Nat
  channel : Nat
  deriving Repr, DecidableEq

/-- The state of a publisher. -/
structure Publisher where
  /-- The rest before the one further attempt. -/
  retryDelay : Duration := .ofMillis 200
  /-- How long the opening of a channel may take, and how long a publish. -/
  timeout : Duration := .ofSeconds 5
  slot : Option KeptChannel := none
  /-- How many channels have been opened. -/
  opened : Nat := 0
  lock : FairLock := {}

namespace Publisher

/-- The publisher once the lock has been given back. -/
def released (p : Publisher) : Publisher :=
  { p with lock := p.lock.release }

/-- The publisher once a task has asked for the lock. -/
def requested (p : Publisher) (task : Nat) : Publisher :=
  { p with lock := p.lock.request task }

/-- The publisher once a task has gone. -/
def abandoned (p : Publisher) (task : Nat) : Publisher :=
  { p with lock := p.lock.abandon task }

/-- The publisher with an empty slot and the lock given back. -/
def emptied (p : Publisher) : Publisher :=
  { p.released with slot := none }

end Publisher

end BrokerClient
