/-!
# Whole numbers in free text

The form that a whole number has in an environment variable: an optional plus sign and decimal
digits, and nothing else.
-/

namespace BrokerClient.Text

/-- Why a text is no whole number below a bound. -/
inductive NumberFault
  | empty
  | invalidDigit
  | tooLarge
  deriving Repr, DecidableEq

def NumberFault.message : NumberFault → String
  | empty => "cannot parse integer from empty string"
  | invalidDigit => "invalid digit found in string"
  | tooLarge => "number too large to fit in target type"

/-- Reads digits after the number read so far; the first fault from the left counts. -/
def digitsBelow (bound n : Nat) : List Char → Except NumberFault Nat
  | [] => .ok n
  | c :: rest =>
    if !c.isDigit then .error .invalidDigit
    else
      let m := n * 10 + (c.toNat - '0'.toNat)
      if bound ≤ m then .error .tooLarge else digitsBelow bound m rest

/-- Reads a whole number below a bound. -/
def natBelow (bound : Nat) (text : String) : Except NumberFault Nat :=
  match text.toList with
  | [] => .error .empty
  | ['+'] => .error .invalidDigit
  | '+' :: digits => digitsBelow bound 0 digits
  | digits => digitsBelow bound 0 digits

end BrokerClient.Text
