/-!
# Fair locks

A lock that is given to those who ask for it in the order in which they asked.  One who gives it
back hands it to the first who waits.
-/

namespace BrokerClient

/-- A lock: the task that holds it, and those that wait, first come first. -/
structure FairLock where
  holder : Option Nat := none
  waiting : List Nat := []
  deriving Repr, DecidableEq, Inhabited

namespace FairLock

/-- A task asks for the lock; it has it at once if nobody else holds it. -/
def request (lock : FairLock) (task : Nat) : FairLock :=
  match lock.holder with
  | none => { lock with holder := some task }
  | some _ => { lock with waiting := lock.waiting ++ [task] }

/-- The holder gives the lock back. -/
def release (lock : FairLock) : FairLock :=
  ⟨lock.waiting.head?, lock.waiting.tail⟩

/-- A task goes away: it gives the lock back or leaves the queue. -/
def abandon (lock : FairLock) (task : Nat) : FairLock :=
  if lock.holder = some task then lock.release
  else { lock with waiting := lock.waiting.erase task }

/-- Does the task hold the lock? -/
def isHeldBy (lock : FairLock) (task : Nat) : Bool :=
  lock.holder = some task

end FairLock

end BrokerClient
