import BrokerClient.Json.Basic
import BrokerClient.Decimal.Shortest
import BrokerClient.Text.Blank

/-!
# Writing JSON

`Value.compact` writes a value without any blank, `Value.pretty` with one item per line and two
spaces for each level.  Strings escape the quotation mark, the backslash and control characters, and
nothing else.  Doubles have the fewest digits that read back, and `null` stands for those that are
not finite.
-/

namespace BrokerClient.Json

/-- One character inside a JSON string. -/
def escapeChar (c : Char) : List Char :=
  if c = '"' then ['\\', '"']
  else if c = '\\' then ['\\', '\\']
  else if c = '\x08' then ['\\', 'b']
  else if c = '\t' then ['\\', 't']
  else if c = '\n' then ['\\', 'n']
  else if c = '\x0c' then ['\\', 'f']
  else if c = '\r' then ['\\', 'r']
  else if c.val < 0x20 then '\\' :: 'u' :: (Text.hex c.toNat 4).toList
  else [c]

/-- The JSON string for a text. -/
def quote (text : String) : String :=
  String.ofList ('"' :: text.toList.flatMap escapeChar ++ ['"'])

/-- Doubles are positional from 10⁻⁵ to 10¹⁵, and an exponent always has a sign. -/
def floatLayout : Decimal.Layout where
  least := -5
  greatest := 15
  plus := "+"
  nan := "null"
  infinity := "null"
  negativeInfinity := "null"

/-- The text of a double in messages, where the values that are not finite have names. -/
def floatText (x : Float) : String :=
  { floatLayout with nan := "NaN", infinity := "inf", negativeInfinity := "-inf" }.render x

def Number.compact : Number → String
  | .int n => toString n
  | .float x => floatLayout.render x

mutual

/-- Writes a value without blanks. -/
def Value.compact : Value → String
  | .null => "null"
  | .bool true => "true"
  | .bool false => "false"
  | .number n => n.compact
  | .string text => quote text
  | .array items => "[" ++ ",".intercalate (compactItems items) ++ "]"
  | .object fields => "\x7b" ++ ",".intercalate (compactFields fields) ++ "\x7d"

def compactItems : List Value → List String
  | [] => []
  | item :: rest => item.compact :: compactItems rest

def compactFields : List (String × Value) → List String
  | [] => []
  | (key, value) :: rest => (quote key ++ ":" ++ value.compact) :: compactFields rest

end

/-- Puts the parts on lines of their own between two brackets; no part gives the bare brackets. -/
def block (indent : String) (opening closing : String) (parts : List String) : String :=
  if parts.isEmpty then opening ++ closing
  else
    let inner := "\n" ++ indent ++ "  "
    opening ++ inner ++ ("," ++ inner).intercalate parts ++ "\n" ++ indent ++ closing

mutual

/-- Writes a value with one item per line, its first line standing after `indent`. -/
def Value.prettyFrom (indent : String) : Value → String
  | .array items => block indent "[" "]" (prettyItems (indent ++ "  ") items)
  | .object fields => block indent "\x7b" "\x7d" (prettyFields (indent ++ "  ") fields)
  | .null => "null"
  | .bool true => "true"
  | .bool false => "false"
  | .number n => n.compact
  | .string text => quote text

def prettyItems (indent : String) : List Value → List String
  | [] => []
  | item :: rest => item.prettyFrom indent :: prettyItems indent rest

def prettyFields (indent : String) : List (String × Value) → List String
  | [] => []
  | (key, value) :: rest =>
    (quote key ++ ": " ++ value.prettyFrom indent) :: prettyFields indent rest

end

@[inherit_doc Value.prettyFrom]
def Value.pretty (value : Value) : String :=
  value.prettyFrom ""

end BrokerClient.Json
