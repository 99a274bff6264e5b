import BrokerClient.Delivery
import BrokerClient.Report

/-!
# Delivery handlers

A handler says for each delivery what is to be done with it: which waits, settlements and requests
to stop come one after the other, and how it ends.
-/

namespace BrokerClient

/-- The report on an error of the broker; an error of a writer is its own cause. -/
def BrokerError.report (e : BrokerError) : Report :=
  match e with
  | .serialization cause => ⟨e.message, [cause.message]⟩
  | _ => .ofMessage e.message

/-- What is left to be done for a delivery. -/
inductive Work
  | done (outcome : Except Report Unit)
  | sleep (millis : Nat) (after : Work)
  /-- Asks the consumption loop to stop. -/
  | cancel (after : Work)
  /-- Settles the delivery and goes on with what the broker answers. -/
  | settle (settlement : Settlement) (after : Except BrokerError Unit → Work)

/-- What is done for each delivery. -/
abbrev Handler := Delivery → Work

namespace Work

/-- Nothing is left to be done. -/
def succeed : Work :=
  done (.ok ())

/-- It has come to nothing. -/
def fail (report : Report) : Work :=
  done (.error report)

/-- Ends as the settlement ends. -/
def settleOnly (settlement : Settlement) : Work :=
  settle settlement fun result => done (result.mapError BrokerError.report)

end Work

end BrokerClient
