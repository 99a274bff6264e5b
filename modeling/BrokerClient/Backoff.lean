import BrokerClient.Duration

/-!
# Back-off between attempts

After each failure the wait grows by a factor until it reaches a cap; a share of it is added or
taken away at random.  After a number of failures in a row the circuit opens, and the wait is then
the cool-down.

The arithmetic is a parameter: the program computes with doubles, and the growth law reads the same
definitions over the rationals.  The random share comes in as a draw from `[0, 1)`.
-/

namespace BrokerClient

/-- The arithmetic that waits are computed in. -/
class DelayArithmetic (α : Type) extends Add α, Sub α, Mul α where
  /-- The nearest value to a whole number. -/
  ofNat : Nat → α
  /-- The lesser of two values; one that is no number does not count. -/
  least : α → α → α
  /-- The greater of two values; one that is no number does not count. -/
  greatest : α → α → α
  /-- The whole part as an unsigned 64-bit word, with the nearest word for values beyond. -/
  toWord : α → Nat

instance : DelayArithmetic Float where
  ofNat := Float.ofNat
  least a b := if a.isNaN then b else if b.isNaN then a else if a ≤ b then a else b
  greatest a b := if a.isNaN then b else if b.isNaN then a else if a ≤ b then b else a
  toWord x := x.toUInt64.toNat

instance : DelayArithmetic Rat where
  ofNat n := n
  least a b := if a ≤ b then a else b
  greatest a b := if a ≤ b then b else a
  toWord x := min x.floor.toNat (UInt64.size - 1)

/-- How waits grow and when the circuit opens; a threshold of zero never opens it. -/
structure BackoffPolicy (α : Type) where
  initial : Duration
  max : Duration
  multiplier : α
  /-- The share of the wait that is added or taken away at random. -/
  jitter : α
  /-- The number of failures in a row after which the circuit opens. -/
  threshold : UInt32
  /-- The wait while the circuit is open. -/
  cooldown : Duration

/-- The policy that holds where nothing else is asked for. -/
def BackoffPolicy.standard : BackoffPolicy Float where
  initial := .ofMillis 100
  max := .ofSeconds 30
  multiplier := 2.0
  jitter := 0.15
  threshold := 10
  cooldown := .ofSeconds 60

instance : Inhabited (BackoffPolicy Float) := ⟨.standard⟩

/-- A policy with the number of failures in a row. -/
structure Backoff (α : Type) where
  policy : BackoffPolicy α
  failures : Nat

namespace Backoff

variable {α : Type}

/-- No failure yet. -/
def new (policy : BackoffPolicy α) : Backoff α :=
  ⟨policy, 0⟩

/-- The count of failures stays at this number once it is reached. -/
def countLimit : Nat := UInt32.size - 1

def isCircuitOpen (b : Backoff α) : Bool :=
  0 < b.policy.threshold && b.policy.threshold.toNat ≤ b.failures

/-- Ends the row of failures. -/
def reset (b : Backoff α) : Backoff α :=
  { b with failures := 0 }

/-- Counts a failure. -/
def fail (b : Backoff α) : Backoff α :=
  { b with failures := min (b.failures + 1) countLimit }

variable [DelayArithmetic α]

open DelayArithmetic

/-- Goes on with squares: `product · base ^ n`. -/
def powerFrom (product base : α) (n : Nat) : α :=
  let product := if n % 2 = 1 then product * base else product
  if n < 2 then product else powerFrom product (base * base) (n / 2)
termination_by n
decreasing_by omega

/-- A power by repeated squaring. -/
def power (base : α) (n : Nat) : α :=
  powerFrom (ofNat 1) base n

/-- The wait in milliseconds before the random share, once the failure has been counted. -/
def baseMillis (b : Backoff α) : Nat :=
  if b.isCircuitOpen then b.policy.cooldown.millis
  else
    let exponent := min (b.failures - 1) 63
    toWord (least (ofNat b.policy.initial.millis * power b.policy.multiplier exponent)
      (ofNat b.policy.max.millis))

/-- The wait in milliseconds with the random share for a draw from `[0, 1)`. -/
def delayMillis (b : Backoff α) (draw : α) : Nat :=
  let base : α := ofNat b.baseMillis
  let share := (draw * ofNat 2 - ofNat 1) * b.policy.jitter * base
  toWord (greatest (base + share) (ofNat 0))

/-- Counts a failure and tells the milliseconds to wait before the next attempt. -/
def next (b : Backoff α) (draw : α) : Nat × Backoff α :=
  (b.fail.delayMillis draw, b.fail)

end Backoff

end BrokerClient
