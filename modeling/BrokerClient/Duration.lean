/-!
# Durations

A length of time in whole nanoseconds, and its text in log lines: the largest unit that leaves a
whole part, with as many decimals as the value needs.
-/

namespace BrokerClient

/-- A length of time. -/
structure Duration where
  nanos : Nat
  deriving Repr, DecidableEq, Inhabited

namespace Duration

def ofSeconds (n : Nat) : Duration :=
  ⟨n * 1000000000⟩

def ofMillis (n : Nat) : Duration :=
  ⟨n * 1000000⟩

/-- The whole seconds. -/
def seconds (d : Duration) : Nat :=
  d.nanos / 1000000000

/-- The nanoseconds beyond the whole seconds. -/
def subsecNanos (d : Duration) : Nat :=
  d.nanos % 1000000000

/-- The whole milliseconds. -/
def millis (d : Duration) : Nat :=
  d.nanos / 1000000

/-- The duration in a unit of `Nat.pow 10 places` nanoseconds, without trailing zeros. -/
def inUnit (d : Duration) (places : Nat) (unit : String) : String :=
  let fraction := Nat.toDigits 10 (d.nanos % Nat.pow 10 places)
  let padded := List.replicate (places - fraction.length) '0' ++ fraction
  let shown := (padded.reverse.dropWhile (· == '0')).reverse
  toString (d.nanos / Nat.pow 10 places) ++
    (if shown.isEmpty then "" else "." ++ String.ofList shown) ++ unit

/-- The duration as log lines show it. -/
def text (d : Duration) : String :=
  if 1000000000 ≤ d.nanos then d.inUnit 9 "s"
  else if 1000000 ≤ d.nanos then d.inUnit 6 "ms"
  else if 1000 ≤ d.nanos then d.inUnit 3 "µs"
  else toString d.nanos ++ "ns"

end Duration

end BrokerClient
