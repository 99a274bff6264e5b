import BrokerClient.Text.Blank
import BrokerClient.Text.Utf8

/-!
# Bytes in hexadecimal digits

Two lower-case digits for each byte.  Reading takes digits of both cases.
-/

namespace BrokerClient.Bytes

/-- Two digits for each byte. -/
def toHex (bytes : Bytes) : String :=
  String.join (bytes.map fun byte => Text.hex byte.toNat 2)

/-- What a hexadecimal digit stands for. -/
def hexDigit? (c : Char) : Option Nat :=
  if c.isDigit then some (c.toNat - '0'.toNat)
  else if 'a' ≤ c ∧ c ≤ 'f' then some (c.toNat - 'a'.toNat + 10)
  else if 'A' ≤ c ∧ c ≤ 'F' then some (c.toNat - 'A'.toNat + 10)
  else none

/-- The bytes that pairs of digits stand for. -/
def ofHexDigits? : List Char → Option Bytes
  | [] => some []
  | [_] => none
  | high :: low :: rest => do
    let byte := (← hexDigit? high) * 16 + (← hexDigit? low)
    return UInt8.ofNat byte :: (← ofHexDigits? rest)

/-- The bytes that a text of digits stands for. -/
def ofHex? (digits : String) : Option Bytes :=
  ofHexDigits? digits.toList

end BrokerClient.Bytes
