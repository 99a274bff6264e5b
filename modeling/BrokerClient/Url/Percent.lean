import BrokerClient.Text.Blank
import BrokerClient.Text.Utf8

/-!
# Percent encoding

The characters that the parts of an address cannot hold as they stand, and the form in which they
are written: a percent sign and two hexadecimal digits for each byte.
-/

namespace BrokerClient.Url

/-- A set of characters to be encoded. -/
abbrev EncodeSet := Char → Bool

namespace EncodeSet

/-- Control characters and everything beyond ASCII. -/
def controls : EncodeSet := fun c => c.val < 0x20 || 0x7E < c.val

def fragment : EncodeSet := fun c =>
  controls c || c = ' ' || c = '"' || c = '<' || c = '>' || c = '\x60'

def path : EncodeSet := fun c => fragment c || c = '#' || c = '?' || c = '\x7b' || c = '\x7d'

def userinfo : EncodeSet := fun c =>
  path c || c = '/' || c = ':' || c = ';' || c = '=' || c = '@' || c = '[' || c = '\\' ||
  c = ']' || c = '^' || c = '|'

def query : EncodeSet := fun c => controls c || c = ' ' || c = '"' || c = '#' || c = '<' || c = '>'

def specialQuery : EncodeSet := fun c => query c || c = '\''

end EncodeSet

/-- The digit for a number below 16, letters in upper case. -/
def upperHexDigit (n : Nat) : Char :=
  Char.ofNat (if n < 10 then 48 + n else 55 + n)

/-- The encoded form of a byte. -/
def encodeByte (byte : UInt8) : List Char :=
  ['%', upperHexDigit (byte.toNat / 16), upperHexDigit (byte.toNat % 16)]

def encodeChar (set : EncodeSet) (c : Char) : List Char :=
  if set c then (String.utf8EncodeChar c).flatMap encodeByte else [c]

/-- Encodes the characters of a set. -/
def encode (set : EncodeSet) (chars : List Char) : List Char :=
  chars.flatMap (encodeChar set)

/-- The value of a hexadecimal digit. -/
def hexValue? (c : Char) : Option Nat :=
  if c.isDigit then some (c.toNat - 48)
  else if 'a' ≤ c && c ≤ 'f' then some (c.toNat - 87)
  else if 'A' ≤ c && c ≤ 'F' then some (c.toNat - 55)
  else none

/-- The bytes that an encoded text stands for; a percent sign without two digits is itself. -/
def decode : List Char → Bytes
  | '%' :: a :: b :: rest =>
    match hexValue? a, hexValue? b with
    | some high, some low => UInt8.ofNat (high * 16 + low) :: decode rest
    | _, _ => 0x25 :: decode (a :: b :: rest)
  | c :: rest => String.utf8EncodeChar c ++ decode rest
  | [] => []

end BrokerClient.Url
