import BrokerClient.Text.Unprintable
import BrokerClient.Text.Blank

/-!
# Quoted texts

How a text is shown between quotation marks in messages and log fields: the mark itself and the
backslash are escaped, four control characters have a letter of their own, and every other character
that would not show is given by its number in braces.
-/

namespace BrokerClient.Text

/-- One character inside quotation marks. -/
def quotedChar (c : Char) : String :=
  match c with
  | '"' => "\\\""
  | '\\' => "\\\\"
  | '\n' => "\\n"
  | '\r' => "\\r"
  | '\t' => "\\t"
  | '\x00' => "\\0"
  | _ =>
    if c.toNat < 0x20 || isUnprintable c then "\\u\x7b" ++ hex c.toNat 1 ++ "\x7d"
    else c.toString

/-- The text between quotation marks. -/
def quoted (text : String) : String :=
  "\"" ++ String.join (text.toList.map quotedChar) ++ "\""

/-- An optional text: `None`, or the quoted text in parentheses after `Some`. -/
def quotedOption : Option String → String
  | none => "None"
  | some text => "Some(" ++ quoted text ++ ")"

end BrokerClient.Text
