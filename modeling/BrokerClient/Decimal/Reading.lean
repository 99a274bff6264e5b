import BrokerClient.Text.Blank

/-!
# Reading doubles

A decimal text, with or without sign, point and exponent, as the nearest double; the words for what
is not finite are taken, too.
-/

namespace BrokerClient.Decimal

/-- A decimal text in its parts: the digits before and after the point, and the exponent. -/
structure Parts where
  whole : List Char
  fraction : List Char
  exponent : Int
  deriving Repr, DecidableEq

/-- A whole number with an optional sign. -/
def signedDigits : List Char → Int
  | '-' :: digits => -(Nat.ofDigitChars 10 digits 0 : Int)
  | '+' :: digits => Nat.ofDigitChars 10 digits 0
  | digits => Nat.ofDigitChars 10 digits 0

/-- Takes a text without sign apart. -/
def Parts.ofChars (chars : List Char) : Parts :=
  let whole := chars.takeWhile Char.isDigit
  let rest := chars.dropWhile Char.isDigit
  let (fraction, rest) :=
    match rest with
    | '.' :: rest => (rest.takeWhile Char.isDigit, rest.dropWhile Char.isDigit)
    | rest => ([], rest)
  ⟨whole, fraction, signedDigits (rest.drop 1)⟩

/-- The nearest double. -/
def Parts.toFloat (parts : Parts) : Float :=
  let shift := parts.exponent - parts.fraction.length
  Float.ofScientific (Nat.ofDigitChars 10 (parts.whole ++ parts.fraction) 0) (shift < 0)
    shift.natAbs

/-- The double that a text without sign stands for. -/
def magnitudeOf (chars : List Char) : Float :=
  let word := Text.lowerAscii (String.ofList chars)
  if word = "nan" then Float.ofBits 0x7FF8000000000000
  else if word ∈ ["inf", "infinity"] then 1.0 / 0.0
  else (Parts.ofChars chars).toFloat

/-- The double that a text stands for. -/
def toFloat (text : String) : Float :=
  match text.toList with
  | '-' :: rest => -magnitudeOf rest
  | '+' :: rest => magnitudeOf rest
  | rest => magnitudeOf rest

end BrokerClient.Decimal
