import BrokerClient.Json.Print
import BrokerClient.Text.Quoted
import BrokerClient.Text.Utf8

/-!
# What can be wrong with a JSON text

`Fault` lists the causes and `Fault.message` words them.  A cause met in a text has a place, which a
`ReadError` keeps as the number of bytes that were left to read; `ReadError.line` and
`ReadError.column` find the place from the whole text.
-/

namespace BrokerClient.Json

/-- What was found where a value of another kind was asked for. -/
inductive Found
  | null
  | bool (value : Bool)
  | number (value : Number)
  | string (text : String)
  | sequence
  | map

def Found.describe : Found → String
  | .null => "null"
  | .bool true => "boolean \x60true\x60"
  | .bool false => "boolean \x60false\x60"
  | .number (.int n) => "integer \x60" ++ toString n ++ "\x60"
  | .number (.float x) => "floating point \x60" ++ floatText x ++ "\x60"
  | .string text => "string " ++ Text.quoted text
  | .sequence => "sequence"
  | .map => "map"

/-- The kind of a value, as messages name it. -/
def Value.found : Value → Found
  | .null => .null
  | .bool b => .bool b
  | .number n => .number n
  | .string text => .string text
  | .array _ => .sequence
  | .object _ => .map

/-- A reason why a text or a value is not accepted. -/
inductive Fault
  | unfinishedList
  | unfinishedObject
  | unfinishedString
  | unfinishedValue
  | expectedColon
  | expectedListEnd
  | expectedObjectEnd
  | expectedIdent
  | expectedValue
  | invalidEscape
  | invalidNumber
  | numberOutOfRange
  | invalidCodePoint
  | controlCharacter
  | keyNotString
  | loneSurrogate
  | trailingComma
  | trailingCharacters
  | unfinishedEscape
  | recursionLimit
  | invalidType (found : Found) (expected : String)
  | invalidValue (found : Found) (expected : String)
  | invalidLength (length : Nat) (expected : String)
  | missingField (name : String)
  | duplicateField (name : String)
  | custom (text : String)

def Fault.message : Fault → String
  | unfinishedList => "EOF while parsing a list"
  | unfinishedObject => "EOF while parsing an object"
  | unfinishedString => "EOF while parsing a string"
  | unfinishedValue => "EOF while parsing a value"
  | expectedColon => "expected \x60:\x60"
  | expectedListEnd => "expected \x60,\x60 or \x60]\x60"
  | expectedObjectEnd => "expected \x60,\x60 or \x60\x7d\x60"
  | expectedIdent => "expected ident"
  | expectedValue => "expected value"
  | invalidEscape => "invalid escape"
  | invalidNumber => "invalid number"
  | numberOutOfRange => "number out of range"
  | invalidCodePoint => "invalid unicode code point"
  | controlCharacter => "control character (\\u0000-\\u001F) found while parsing a string"
  | keyNotString => "key must be a string"
  | loneSurrogate => "lone leading surrogate in hex escape"
  | trailingComma => "trailing comma"
  | trailingCharacters => "trailing characters"
  | unfinishedEscape => "unexpected end of hex escape"
  | recursionLimit => "recursion limit exceeded"
  | invalidType found expected => "invalid type: " ++ found.describe ++ ", expected " ++ expected
  | invalidValue found expected => "invalid value: " ++ found.describe ++ ", expected " ++ expected
  | invalidLength length expected =>
    "invalid length " ++ toString length ++ ", expected " ++ expected
  | missingField name => "missing field \x60" ++ name ++ "\x60"
  | duplicateField name => "duplicate field \x60" ++ name ++ "\x60"
  | custom text => text

/-! ## Places -/

/-- A fault met in a text, with the number of bytes after its place. -/
structure ReadError where
  fault : Fault
  left : Nat

/-- The fault stands before the first byte of `rest`. -/
def ReadError.before (rest : Bytes) (fault : Fault) : ReadError :=
  ⟨fault, rest.length⟩

/-- The fault stands after the first byte of `rest`, or at the end of the text. -/
def ReadError.after (rest : Bytes) (fault : Fault) : ReadError :=
  ⟨fault, rest.length - 1⟩

/-- An error with its line and column, both counted from one; a column is a number of bytes.  An
error that comes with no text has line zero and shows no place. -/
structure PlacedError where
  fault : Fault
  line : Nat
  column : Nat

/-- Finds the place of an error in its text. -/
def ReadError.placedIn (text : Bytes) (e : ReadError) : PlacedError :=
  let done := text.take (text.length - e.left)
  { fault := e.fault
    line := 1 + done.count 0x0A
    column := (done.reverse.takeWhile (· != 0x0A)).length }

def PlacedError.message (e : PlacedError) : String :=
  if e.line = 0 then e.fault.message
  else e.fault.message ++ " at line " ++ toString e.line ++ " column " ++ toString e.column

/-- The error as log fields show it. -/
def PlacedError.inspect (e : PlacedError) : String :=
  "Error(" ++ Text.quoted e.fault.message ++ ", line: " ++ toString e.line ++ ", column: " ++
    toString e.column ++ ")"

/-- What stands before and after the last occurrence of a pattern. -/
def splitLast? (pattern : List Char) : List Char → Option (List Char × List Char)
  | [] => none
  | c :: rest =>
    match splitLast? pattern rest with
    | some (before, after) => some (c :: before, after)
    | none =>
      if pattern.isPrefixOf (c :: rest) then some ([], (c :: rest).drop pattern.length) else none

/-- Splits `… at line L column C` into the text before it and the two numbers. -/
def splitPlace? (text : String) : Option (String × Nat × Nat) := do
  let (message, place) ← splitLast? " at line ".toList text.toList
  let column := " column ".toList
  let rest := place.dropWhile Char.isDigit
  guard (column.isPrefixOf rest)
  let number (digits : List Char) : Option Nat := do
    guard (digits.all Char.isDigit && !digits.isEmpty)
    let n := Nat.ofDigitChars 10 digits 0
    guard (n < UInt64.size)
    return n
  return (String.ofList message, ← number (place.takeWhile Char.isDigit),
    ← number (rest.drop column.length))

/-- The error with a free text; a place at the end of the text becomes the place of the error. -/
def PlacedError.ofText (text : String) : PlacedError :=
  match splitPlace? text with
  | some (message, line, column) => ⟨.custom message, line, column⟩
  | none => ⟨.custom text, 0, 0⟩

end BrokerClient.Json
