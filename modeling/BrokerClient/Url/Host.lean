import BrokerClient.Url.Percent
import BrokerClient.Url.Idna

/-!
# Hosts

The host of an address: a name, or an address of version 4 or 6.  The special schemes, those of the
web, read more into a host than others: encoded characters, letters of any script and numeric forms
of an address.
-/

namespace BrokerClient.Url

/-- Why a text is no address. -/
inductive Fault
  | emptyHost
  | badName
  | badPort
  | badIpv4
  | badIpv6
  | badHostCharacter
  | noScheme
  deriving Repr, DecidableEq

def Fault.message : Fault → String
  | emptyHost => "empty host"
  | badName => "invalid international domain name"
  | badPort => "invalid port number"
  | badIpv4 => "invalid IPv4 address"
  | badIpv6 => "invalid IPv6 address"
  | badHostCharacter => "invalid domain character"
  | noScheme => "relative URL without a base"

/-- A host; the empty name stands for none. -/
inductive Host
  | name (text : String)
  | ipv4 (address : Nat)
  | ipv6 (pieces : List Nat)
  deriving Repr, DecidableEq

/-! ## Version 4 -/

/-- A number in an address: decimal, or octal or hexadecimal after `0` or `0x`. -/
def ipv4Number? (chars : List Char) : Option Nat :=
  let digits (base : Nat) (chars : List Char) : Option Nat :=
    chars.foldl (fun n c => do
      let d ← hexValue? c
      guard (d < base)
      return (← n) * base + d) (some 0)
  match chars with
  | [] => none
  | '0' :: 'x' :: rest => digits 16 rest
  | '0' :: 'X' :: rest => digits 16 rest
  | '0' :: c :: rest => digits 8 (c :: rest)
  | _ => digits 10 chars

/-- The parts between the points, without an empty one at the end. -/
private def ipv4Parts (chars : List Char) : List (List Char) :=
  let parts := Text.splitChars '.' chars
  match parts.reverse with
  | [] :: rest => if rest.isEmpty then parts else rest.reverse
  | _ => parts

/-- Has the host to be read as an address of version 4? -/
def endsInNumber (chars : List Char) : Bool :=
  match (ipv4Parts chars).getLast? with
  | none => false
  | some [] => false
  | some last => last.all Char.isDigit || (ipv4Number? last).isSome

/-- Reads an address of version 4. -/
def parseIpv4 (chars : List Char) : Except Fault Nat :=
  let parts := ipv4Parts chars
  if 4 < parts.length then .error .badIpv4
  else
    match parts.mapM ipv4Number? with
    | none => .error .badIpv4
    | some numbers =>
      match numbers.reverse with
      | [] => .error .badIpv4
      | last :: before =>
        if before.any (255 < ·) || Nat.pow 256 (4 - before.length) ≤ last then .error .badIpv4
        else
          let high := before.reverse.foldl (fun n part => n * 256 + part) 0
          .ok (high * Nat.pow 256 (4 - before.length) + last)

def showIpv4 (address : Nat) : String :=
  Text.join "." ([3, 2, 1, 0].map fun k => toString (address / Nat.pow 256 k % 256))

/-! ## Version 6 -/

/-- Reads up to four hexadecimal digits. -/
def hexPiece : Nat → Nat → List Char → Nat × Nat × List Char
  | 0, n, chars => (n, 0, chars)
  | left + 1, n, chars =>
    match chars with
    | [] => (n, left + 1, [])
    | c :: rest =>
      match hexValue? c with
      | some d => hexPiece left (n * 16 + d) rest
      | none => (n, left + 1, chars)

/-- Reads one number of an embedded address of version 4. -/
def ipv4Piece? (chars : List Char) : Option (Nat × List Char) := do
  let digits := chars.takeWhile Char.isDigit
  guard (!digits.isEmpty && digits.length ≤ 3)
  guard (digits.length = 1 || digits.head? != some '0')
  let n := Nat.ofDigitChars 10 digits 0
  guard (n ≤ 255)
  return (n, chars.drop digits.length)

/-- The text after the point that it starts with. -/
def afterPoint? (chars : List Char) : Option (List Char) :=
  if chars.head? = some '.' then some (chars.drop 1) else none

/-- Reads an embedded address of version 4 as two pieces. -/
def embeddedIpv4? (chars : List Char) : Option (List Nat) := do
  let (a, rest) ← ipv4Piece? chars
  let (b, rest) ← ipv4Piece? (← afterPoint? rest)
  let (c, rest) ← ipv4Piece? (← afterPoint? rest)
  let (d, rest) ← ipv4Piece? (← afterPoint? rest)
  guard rest.isEmpty
  return [a * 256 + b, c * 256 + d]

/-- Reads pieces; `gap` is the number of pieces before the double colon once it has been seen. -/
def ipv6Pieces? : Nat → List Nat → Option Nat → List Char → Option (List Nat × Option Nat)
  | _, pieces, gap, [] => some (pieces, gap)
  | 0, _, _, _ :: _ => none
  | turns + 1, pieces, gap, c :: rest =>
    if 8 ≤ pieces.length then none
    else if c = ':' then
      if gap.isSome then none else ipv6Pieces? turns pieces (some pieces.length) rest
    else
      let (n, left, after) := hexPiece 4 0 (c :: rest)
      match after with
      | '.' :: _ =>
        if left = 4 || 6 < pieces.length then none
        else (embeddedIpv4? (c :: rest)).map fun two => (pieces ++ two, gap)
      | ':' :: [] => none
      | ':' :: after => ipv6Pieces? turns (pieces ++ [n]) gap after
      | [] => some (pieces ++ [n], gap)
      | _ => none

/-- Reads an address of version 6. -/
def parseIpv6 (chars : List Char) : Except Fault (List Nat) :=
  let start : Option (Option Nat × List Char) :=
    match chars with
    | ':' :: ':' :: rest => some (some 0, rest)
    | ':' :: _ => none
    | _ => some (none, chars)
  let pieces := start.bind fun (gap, rest) => ipv6Pieces? (rest.length + 1) [] gap rest
  match pieces with
  | some (pieces, some gap) =>
    if 8 ≤ pieces.length then .error .badIpv6
    else
      .ok (pieces.take gap ++ List.replicate (8 - pieces.length) 0 ++ pieces.drop gap)
  | some (pieces, none) => if pieces.length = 8 then .ok pieces else .error .badIpv6
  | none => .error .badIpv6

/-- The length of the row of zeros at the front. -/
private def zeroRun (pieces : List Nat) : Nat :=
  (pieces.takeWhile (· == 0)).length

/-- The start and the length of the first longest row of at least two zeros. -/
private def longestZeros (pieces : List Nat) : Option (Nat × Nat) :=
  (List.range pieces.length).foldl (fun best start =>
    let run := zeroRun (pieces.drop start)
    if 2 ≤ run && (best.map (·.2)).getD 0 < run then some (start, run) else best) none

/-- The pieces in hexadecimal with colons; the longest row of zeros becomes a double colon. -/
def showIpv6 (pieces : List Nat) : String :=
  let part (pieces : List Nat) : String := Text.join ":" (pieces.map fun n => Text.hex n 1)
  match longestZeros pieces with
  | none => part pieces
  | some (start, run) => part (pieces.take start) ++ "::" ++ part (pieces.drop (start + run))

def Host.text : Host → String
  | name text => text
  | ipv4 address => showIpv4 address
  | ipv6 pieces => "[" ++ showIpv6 pieces ++ "]"

/-! ## Reading a host -/

def isForbiddenInHost (c : Char) : Bool :=
  c ∈ ['\x00', '\t', '\n', '\r', ' ', '#', '/', ':', '<', '>', '?', '@', '[', '\\', ']', '^', '|']

/-- What may not stand in a name of a special scheme. -/
def isForbiddenInName (c : Char) : Bool :=
  isForbiddenInHost c || c = '%' || c.val < 0x20 || c.val = 0x7F

/-- An address of version 6 in brackets. -/
def bracketed (chars : List Char) : Except Fault Host :=
  if chars.getLast? = some ']' then (parseIpv6 (chars.drop 1).dropLast).map .ipv6
  else .error .badIpv6

/-- Reads the host of a scheme that is not special. -/
def parsePlainHost (chars : List Char) : Except Fault Host :=
  if chars.head? = some '[' then bracketed chars
  else if chars.any isForbiddenInHost then .error .badHostCharacter
  else .ok (.name (String.ofList (encode .controls chars)))

/-- Reads the host of a special scheme. -/
def parseSpecialHost (chars : List Char) : Except Fault Host :=
  if chars.head? = some '[' then bracketed chars
  else
    match (Bytes.toString? (decode chars)).bind fun text => asciiName? text.toList with
    | none => .error .badName
    | some ascii =>
      if ascii.any isForbiddenInName then .error .badName
      else if ascii.isEmpty then .error .emptyHost
      else if endsInNumber ascii then (parseIpv4 ascii).map .ipv4
      else .ok (.name (String.ofList ascii))

end BrokerClient.Url
