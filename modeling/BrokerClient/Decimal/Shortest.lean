/-!
# Shortest decimals

A positive binary fraction `m · 2 ^ q` stands for every real that rounds to it.  `shortest` gives
the decimal `c · 10 ^ k` of fewest digits among those reals, and the nearest of them when there are
several; a tie goes to the even coefficient.

The search goes from a coarse decimal grid to finer ones.  If any point of a grid lies in the
rounding interval then so does one of the two grid points around `m · 2 ^ q`, so testing those two
is enough, and the first grid with a hit has the fewest digits.  All arithmetic is exact.
-/

namespace BrokerClient.Decimal

/-- A fraction with a positive denominator. -/
structure Ratio where
  num : Nat
  den : Nat
  deriving Repr

/-- The fraction `n · 2 ^ q`. -/
def Ratio.dyadic (n : Nat) (q : Int) : Ratio :=
  ⟨n * Nat.pow 2 q.toNat, Nat.pow 2 (-q).toNat⟩

/-- The fraction in units of `10 ^ k`. -/
def Ratio.scale (x : Ratio) (k : Int) : Ratio :=
  ⟨x.num * Nat.pow 10 (-k).toNat, x.den * Nat.pow 10 k.toNat⟩

/-- The reals that round to one binary fraction; the ends belong to it iff `closed`. -/
structure Interval where
  low : Ratio
  high : Ratio
  closed : Bool

/-- Does the whole number lie in the interval? -/
def Interval.holds (range : Interval) (n : Nat) : Bool :=
  if range.closed then
    range.low.num ≤ n * range.low.den && n * range.high.den ≤ range.high.num
  else
    range.low.num < n * range.low.den && n * range.high.den < range.high.num

def Interval.scale (range : Interval) (k : Int) : Interval :=
  ⟨range.low.scale k, range.high.scale k, range.closed⟩

/-- The reals that round to `m · 2 ^ q`; below a power of two the next lower value is `halved`. -/
def Interval.around (m : Nat) (q : Int) (halved : Bool) : Interval :=
  ⟨.dyadic (4 * m - if halved then 1 else 2) (q - 2), .dyadic (4 * m + 2) (q - 2), m % 2 == 0⟩

/-- The point of the grid of whole numbers next to `x` that lies in the interval, if one does. -/
def gridPoint? (x : Ratio) (range : Interval) : Option Nat :=
  let below := x.num / x.den
  let twice := 2 * (x.num % x.den)
  match range.holds below && 0 < below, range.holds (below + 1) with
  | true, true =>
    if twice < x.den || (twice == x.den && below % 2 == 0) then some below else some (below + 1)
  | true, false => some below
  | false, true => some (below + 1)
  | false, false => none

/-- Goes through the grids `10 ^ k`, `10 ^ (k - 1)`, … for a first hit. -/
def search (x : Ratio) (range : Interval) : Nat → Int → Nat × Int
  | 0, k => ((x.scale k).num / (x.scale k).den, k)
  | steps + 1, k =>
    match gridPoint? (x.scale k) (range.scale k) with
    | some c => (c, k)
    | none => search x range steps (k - 1)

/-- The shortest decimal that rounds to `m · 2 ^ q`, as coefficient and exponent. -/
def shortest (m : Nat) (q : Int) (halved : Bool) : Nat × Int :=
  let top := (((Nat.log2 m : Int) + q) * 30103).fdiv 100000 + 2
  search (.dyadic m q) (.around m q halved) 22 top

/-! ## Double precision -/

/-- What a double is: not finite, or a sign with a magnitude `m · 2 ^ q`. -/
inductive Double
  | nan
  | infinity (negative : Bool)
  | finite (negative : Bool) (m : Nat) (q : Int) (halved : Bool)

/-- The bound of the 52 bits of a fraction. -/
def Double.fractionLimit : Nat := 0x10000000000000

/-- Reads the 64 bits of a double. -/
def Double.ofBits (bits : UInt64) : Double :=
  let negative := bits.toNat >>> 63 == 1
  let exponent : Nat := (bits.toNat >>> 52) % 2048
  let fraction := bits.toNat % fractionLimit
  if exponent == 2047 then
    if fraction == 0 then .infinity negative else .nan
  else if exponent == 0 then .finite negative fraction (-1074) false
  else
    .finite negative (fractionLimit + fraction) ((exponent : Int) - 1075)
      (fraction == 0 && 1 < exponent)

/-! ## Layout -/

/-- How a decimal is laid out: which decimal exponents are written positionally, what a positive
exponent is marked with, and what stands for the values that are not finite. -/
structure Layout where
  least : Int
  greatest : Int
  plus : String
  nan : String
  infinity : String
  negativeInfinity : String

/-- Writes `c · 10 ^ k`. -/
def Layout.magnitude (layout : Layout) (c : Nat) (k : Int) : String :=
  let digits := Nat.toDigits 10 c
  let point := k + digits.length
  let exponent := point - 1
  let zeros (n : Int) : List Char := List.replicate n.toNat '0'
  String.ofList <|
    if layout.least ≤ exponent && exponent ≤ layout.greatest then
      if 0 ≤ k then digits ++ zeros k ++ ['.', '0']
      else if 0 < point then digits.take point.toNat ++ '.' :: digits.drop point.toNat
      else '0' :: '.' :: zeros (-point) ++ digits
    else
      let fraction := match digits.drop 1 with
        | [] => []
        | rest => '.' :: rest
      let mark := if 0 ≤ exponent then layout.plus.toList else ['-']
      digits.take 1 ++ fraction ++ 'e' :: mark ++ Nat.toDigits 10 exponent.natAbs

/-- Writes a double with the fewest digits that read back as the same value. -/
def Layout.render (layout : Layout) (x : Float) : String :=
  match Double.ofBits x.toBits with
  | .nan => layout.nan
  | .infinity negative => if negative then layout.negativeInfinity else layout.infinity
  | .finite negative m q halved =>
    let sign := if negative then "-" else ""
    if m == 0 then sign ++ "0.0"
    else
      let (c, k) := shortest m q halved
      sign ++ layout.magnitude c k

/-- The layout for log fields: positional from 10⁻⁴ to 10¹⁵. -/
def Layout.plain : Layout where
  least := -4
  greatest := 15
  plus := ""
  nan := "NaN"
  infinity := "inf"
  negativeInfinity := "-inf"

end BrokerClient.Decimal
