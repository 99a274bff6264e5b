import BrokerClient.Json.Fault

/-!
# Reading the parts of a JSON text

Blanks, literal names, strings and numbers, read from the front of a byte string.  Each reader gives
what it read and the bytes after it, or an error with its place.

Numbers without fraction and exponent that fit 64 bits are integers, all others doubles: the leading
digits that fit an unsigned 64-bit word, multiplied with or divided by a power of ten.  This is not
always the nearest double.
-/

namespace BrokerClient.Json

private def failBefore {α : Type} (rest : Bytes) (fault : Fault) : Except ReadError α :=
  .error (.before rest fault)

private def failAfter {α : Type} (rest : Bytes) (fault : Fault) : Except ReadError α :=
  .error (.after rest fault)

/-- Is the byte one of the four that may stand between the parts of a text? -/
def isGap (byte : UInt8) : Bool :=
  byte == 0x20 || byte == 0x0A || byte == 0x09 || byte == 0x0D

def skipGap (bytes : Bytes) : Bytes :=
  bytes.dropWhile isGap

def isDigit (byte : UInt8) : Bool :=
  0x30 ≤ byte && byte ≤ 0x39

def digitOf (byte : UInt8) : Nat :=
  byte.toNat - 0x30

/-- Reads the given bytes. -/
def scanIdent : Bytes → Bytes → Except ReadError Bytes
  | [], rest => .ok rest
  | _ :: _, [] => failBefore [] .unfinishedValue
  | expected :: more, byte :: rest =>
    if byte = expected then scanIdent more rest else failBefore rest .expectedIdent

/-! ## Strings -/

private def hexDigit? (byte : UInt8) : Option Nat :=
  let c := Char.ofNat byte.toNat
  if c.isDigit then some (c.toNat - 48)
  else if 'a' ≤ c && c ≤ 'f' then some (c.toNat - 87)
  else if 'A' ≤ c && c ≤ 'F' then some (c.toNat - 55)
  else none

/-- Four hexadecimal digits as a number. -/
def scanHex (bytes : Bytes) : Except ReadError Nat :=
  match bytes with
  | a :: b :: c :: d :: rest =>
    match hexDigit? a, hexDigit? b, hexDigit? c, hexDigit? d with
    | some a, some b, some c, some d => .ok (((a * 16 + b) * 16 + c) * 16 + d)
    | _, _, _, _ => failBefore rest .invalidEscape
  | _ => failBefore [] .unfinishedString

private def isHighSurrogate (n : Nat) : Bool :=
  0xD800 ≤ n && n ≤ 0xDBFF

private def isLowSurrogate (n : Nat) : Bool :=
  0xDC00 ≤ n && n ≤ 0xDFFF

private def charBytes (n : Nat) : Bytes :=
  String.utf8EncodeChar (Char.ofNat n)

/-- The one-letter escapes. -/
def plainEscape? (byte : UInt8) : Option UInt8 :=
  if byte == 0x22 || byte == 0x5C || byte == 0x2F then some byte
  else if byte == 0x62 then some 0x08
  else if byte == 0x66 then some 0x0C
  else if byte == 0x6E then some 0x0A
  else if byte == 0x72 then some 0x0D
  else if byte == 0x74 then some 0x09
  else none

/-- Reads an escape by number after its letter: the character's bytes, and how many bytes were
read.  A character beyond the first plane takes two such escapes. -/
def scanCodePoint (bytes : Bytes) : Except ReadError (Bytes × Nat) := do
  let first ← scanHex bytes
  let rest := bytes.drop 4
  if isLowSurrogate first then failBefore rest .loneSurrogate
  else if !isHighSurrogate first then .ok (charBytes first, 4)
  else
    match rest with
    | [] => failBefore [] .unfinishedString
    | 0x5C :: [] => failBefore [] .unfinishedString
    | 0x5C :: 0x75 :: rest =>
      let second ← scanHex rest
      if isLowSurrogate second then
        .ok (charBytes ((first - 0xD800) * 0x400 + (second - 0xDC00) + 0x10000), 10)
      else failBefore (rest.drop 4) .loneSurrogate
    | 0x5C :: _ :: rest => failBefore rest .unfinishedEscape
    | _ :: rest => failBefore rest .unfinishedEscape

/-- Reads an escape after its backslash: the bytes it stands for, and how many bytes were read. -/
def scanEscape : Bytes → Except ReadError (Bytes × Nat)
  | [] => failBefore [] .unfinishedString
  | byte :: rest =>
    match plainEscape? byte with
    | some meant => .ok ([meant], 1)
    | none =>
      if byte = 0x75 then do
        let (bytes, taken) ← scanCodePoint rest
        return (bytes, taken + 1)
      else failBefore rest .invalidEscape

/-- Reads up to the closing mark of a string, the bytes read so far standing in `done` in
reverse. -/
def scanStringFrom (done : Bytes) : Bytes → Except ReadError (Bytes × Bytes)
  | [] => failBefore [] .unfinishedString
  | byte :: rest =>
    if byte = 0x22 then .ok (done.reverse, rest)
    else if byte = 0x5C then
      match scanEscape rest with
      | .error e => .error e
      | .ok (bytes, taken) => scanStringFrom (bytes.reverse ++ done) (rest.drop taken)
    else if byte < 0x20 then failBefore rest .controlCharacter
    else scanStringFrom (byte :: done) rest
termination_by bytes => bytes.length
decreasing_by all_goals simp only [List.length_drop, List.length_cons]; omega

/-- Reads a string after its opening mark.  Bytes that are no text are a fault at the first of
them. -/
def scanString (bytes : Bytes) : Except ReadError (String × Bytes) := do
  let (content, rest) ← scanStringFrom [] bytes
  match Bytes.toString? content with
  | some text => .ok (text, rest)
  | none =>
    match Bytes.fault? (bytes.take (bytes.length - rest.length)) with
    | some (index, _) => failAfter (bytes.drop index) .invalidCodePoint
    | none => failBefore rest .invalidCodePoint

/-- Goes past a string after its opening mark without reading it. -/
def skipString : Bytes → Except ReadError Bytes
  | [] => failBefore [] .unfinishedString
  | byte :: rest =>
    if byte = 0x22 then .ok rest
    else if byte = 0x5C then
      match rest with
      | [] => failBefore [] .unfinishedString
      | escape :: rest =>
        if (plainEscape? escape).isSome then skipString rest
        else if escape = 0x75 then
          match scanHex rest with
          | .error e => .error e
          | .ok _ => skipString (rest.drop 4)
        else failBefore rest .invalidEscape
    else if byte < 0x20 then failBefore (byte :: rest) .controlCharacter
    else skipString rest
termination_by bytes => bytes.length
decreasing_by all_goals simp only [List.length_drop, List.length_cons]; omega

/-! ## Numbers -/

/-- `10 ^ n` as a double, for `n` up to 308. -/
def powerOfTen (n : Nat) : Float :=
  Float.ofScientific 1 false n

/-- Divides by `10 ^ n`, at most 308 places at a time. -/
def divideByPower (x : Float) (n : Nat) : Float :=
  if n ≤ 308 then x / powerOfTen n
  else if x == 0 then x
  else divideByPower (x / powerOfTen 308) (n - 308)
termination_by n

/-- The double made from a significand and a decimal exponent; `none` if it is too large. -/
def floatOfParts? (significand : Nat) (exponent : Int) : Option Float :=
  let x := significand.toUInt64.toFloat
  if exponent < 0 then some (divideByPower x exponent.natAbs)
  else if exponent ≤ 308 then
    let y := x * powerOfTen exponent.natAbs
    if y.isInf then none else some y
  else if x == 0 then some x
  else none

/-- Reads digits as long as the number stays below `2 ^ 64`. -/
def scanSignificand (n : Nat) : Bytes → Nat × Bytes
  | [] => (n, [])
  | byte :: rest =>
    if isDigit byte && n * 10 + digitOf byte < UInt64.size then
      scanSignificand (n * 10 + digitOf byte) rest
    else (n, byte :: rest)

private def finishFloat (significand : Nat) (exponent : Int) (rest : Bytes) :
    Except ReadError (Float × Bytes) :=
  match floatOfParts? significand exponent with
  | some x => .ok (x, rest)
  | none => failBefore rest .numberOutOfRange

/-- Reads the digits of an exponent, which must stay below `2 ^ 31`; beyond it only zero and
fractions that vanish are left. -/
def scanExponentDigits (significand : Nat) (start : Int) (negative : Bool) (n : Nat) :
    Bytes → Except ReadError (Float × Bytes)
  | [] => finishFloat significand (if negative then start - n else start + n) []
  | byte :: rest =>
    if isDigit byte then
      let m := n * 10 + digitOf byte
      if UInt32.size / 2 ≤ m then
        if significand ≠ 0 && !negative then failBefore rest .numberOutOfRange
        else .ok (0, rest.dropWhile isDigit)
      else scanExponentDigits significand start negative m rest
    else finishFloat significand (if negative then start - n else start + n) (byte :: rest)

/-- Reads an exponent after its letter. -/
def scanExponent (significand : Nat) (start : Int) (bytes : Bytes) :
    Except ReadError (Float × Bytes) :=
  let (negative, digits) := match bytes with
    | 0x2B :: rest => (false, rest)
    | 0x2D :: rest => (true, rest)
    | _ => (false, bytes)
  match digits with
  | [] => failBefore [] .unfinishedValue
  | byte :: rest =>
    if isDigit byte then scanExponentDigits significand start negative (digitOf byte) rest
    else failBefore rest .invalidNumber

def isExponentMark (byte : UInt8) : Bool :=
  byte == 0x65 || byte == 0x45

/-- Goes on after the digits: with an exponent, or to the end of the number. -/
private def scanTail (significand : Nat) (exponent : Int) (bytes : Bytes) :
    Except ReadError (Float × Bytes) :=
  match bytes with
  | byte :: rest =>
    if isExponentMark byte then scanExponent significand exponent rest
    else finishFloat significand exponent bytes
  | [] => finishFloat significand exponent []

/-- Reads a fraction after its point. -/
def scanFraction (significand : Nat) (exponent : Int) (bytes : Bytes) :
    Except ReadError (Float × Bytes) :=
  let (significand, rest) := scanSignificand significand bytes
  let exponent := exponent - (bytes.length - rest.length : Nat)
  match rest with
  | byte :: _ =>
    if isDigit byte then scanTail significand exponent (rest.dropWhile isDigit)
    else if rest.length = bytes.length then failAfter rest .invalidNumber
    else scanTail significand exponent rest
  | [] =>
    if bytes.isEmpty then failBefore [] .unfinishedValue else scanTail significand exponent []

/-- Reads a number after its sign. -/
def scanUnsigned (negative : Bool) (bytes : Bytes) : Except ReadError (Number × Bytes) :=
  let signed (x : Float × Bytes) : Number × Bytes := (.float (if negative then -x.1 else x.1), x.2)
  match bytes with
  | [] => failBefore [] .unfinishedValue
  | first :: afterFirst =>
    if !isDigit first then failBefore afterFirst .invalidNumber
    else
      let (significand, rest) :=
        if first = 0x30 then (0, afterFirst) else scanSignificand 0 bytes
      let extra := (rest.takeWhile isDigit).length
      let rest' := rest.dropWhile isDigit
      if first = 0x30 && 0 < extra then failAfter rest .invalidNumber
      else
        match rest' with
        | 0x2E :: fraction => signed <$> scanFraction significand extra fraction
        | mark :: exponent =>
          if isExponentMark mark then signed <$> scanExponent significand extra exponent
          else whole significand extra rest'
        | [] => whole significand extra []
where
  /-- A number without fraction and exponent. -/
  whole (significand extra : Nat) (rest : Bytes) : Except ReadError (Number × Bytes) :=
    if 0 < extra then do
      let (x, rest) ← finishFloat significand extra rest
      return (.float (if negative then -x else x), rest)
    else if !negative then .ok (.int significand, rest)
    else if significand = 0 || UInt64.size / 2 < significand then
      .ok (.float (-significand.toUInt64.toFloat), rest)
    else .ok (.int (-significand), rest)

/-- Reads a number. -/
def scanNumber (bytes : Bytes) : Except ReadError (Number × Bytes) :=
  match bytes with
  | 0x2D :: rest => scanUnsigned true rest
  | _ => scanUnsigned false bytes

/-! ## Going past a value that nobody reads -/

private def skipExponent (bytes : Bytes) : Except ReadError Bytes :=
  let digits := match bytes with
    | 0x2B :: rest => rest
    | 0x2D :: rest => rest
    | _ => bytes
  match digits with
  | byte :: rest =>
    if isDigit byte then .ok (rest.dropWhile isDigit) else failBefore rest .invalidNumber
  | [] => failBefore [] .invalidNumber

private def skipTail (bytes : Bytes) : Except ReadError Bytes :=
  match bytes with
  | byte :: rest => if isExponentMark byte then skipExponent rest else .ok bytes
  | [] => .ok []

/-- Goes past a number. -/
def skipNumber (bytes : Bytes) : Except ReadError Bytes :=
  let unsigned := match bytes with
    | 0x2D :: rest => rest
    | _ => bytes
  match unsigned with
  | [] => failBefore [] .invalidNumber
  | first :: rest =>
    if !isDigit first then failBefore rest .invalidNumber
    else
      let after := rest.dropWhile isDigit
      if first = 0x30 && after.length ≠ rest.length then failAfter rest .invalidNumber
      else
        match after with
        | 0x2E :: fraction =>
          let tail := fraction.dropWhile isDigit
          if tail.length = fraction.length then failAfter tail .invalidNumber else skipTail tail
        | _ => skipTail after

/-- An array or object that is not closed yet. -/
inductive Bracket
  | list
  | object
  deriving DecidableEq

/-- Goes past one value that is no container. -/
def skipScalar (bytes : Bytes) : Except ReadError Bytes :=
  match bytes with
  | 0x6E :: rest => scanIdent [0x75, 0x6C, 0x6C] rest
  | 0x74 :: rest => scanIdent [0x72, 0x75, 0x65] rest
  | 0x66 :: rest => scanIdent [0x61, 0x6C, 0x73, 0x65] rest
  | 0x22 :: rest => skipString rest
  | byte :: _ =>
    if byte = 0x2D || isDigit byte then skipNumber bytes else failAfter bytes .expectedValue
  | [] => failBefore [] .unfinishedValue

/-- Goes past a key and its colon. -/
def skipKey (bytes : Bytes) : Except ReadError Bytes :=
  match skipGap bytes with
  | [] => failBefore [] .unfinishedObject
  | 0x22 :: rest => do
    match skipGap (← skipString rest) with
    | [] => failBefore [] .unfinishedObject
    | 0x3A :: rest => .ok rest
    | other => failAfter other .expectedColon
  | other => failAfter other .keyNotString

mutual

/-- Goes past the value at the front, then past the brackets that are open.  Every turn takes at
least one byte, so the length of the text bounds their number. -/
def skipFrom : Nat → List Bracket → Bytes → Except ReadError Bytes
  | 0, _, _ => failBefore [] .unfinishedValue
  | turns + 1, brackets, bytes =>
    match skipGap bytes with
    | 0x5B :: rest => skipInside turns .list brackets false rest
    | 0x7B :: rest => skipInside turns .object brackets false rest
    | other =>
      match skipScalar other, brackets with
      | .error e, _ => .error e
      | .ok rest, [] => .ok rest
      | .ok rest, bracket :: outer => skipInside turns bracket outer true rest

/-- Goes on inside a bracket, `separated` after one of its items. -/
def skipInside : Nat → Bracket → List Bracket → Bool → Bytes → Except ReadError Bytes
  | 0, _, _, _, _ => failBefore [] .unfinishedValue
  | turns + 1, bracket, outer, separated, bytes =>
    let next (rest : Bytes) : Except ReadError Bytes :=
      match bracket with
      | .list => skipFrom turns (bracket :: outer) rest
      | .object =>
        match skipKey rest with
        | .error e => .error e
        | .ok rest => skipFrom turns (bracket :: outer) rest
    let close (rest : Bytes) : Except ReadError Bytes :=
      match outer with
      | [] => .ok rest
      | bracket :: outer => skipInside turns bracket outer true rest
    match bracket, skipGap bytes with
    | .list, [] => failBefore [] .unfinishedList
    | .object, [] => failBefore [] .unfinishedObject
    | .list, 0x5D :: rest => close rest
    | .object, 0x7D :: rest => close rest
    | bracket, byte :: rest =>
      if separated then
        if byte = 0x2C then next rest
        else
          match bracket with
          | .list => failAfter (byte :: rest) .expectedListEnd
          | .object => failAfter (byte :: rest) .expectedObjectEnd
      else next (byte :: rest)

end

/-- Goes past one value, of any depth. -/
def skipValue (bytes : Bytes) : Except ReadError Bytes :=
  skipFrom (2 * bytes.length + 2) [] bytes

end BrokerClient.Json
