import BrokerClient.Fields
import BrokerClient.Text.Utf8

/-!
# Field tables

The named arguments of a method, in ascending order of their names.
-/

namespace BrokerClient.Amqp

/-- A value in a field table.  The integers fit 32 and 64 bits with sign. -/
inductive FieldValue
  | boolean (value : Bool)
  | longInt (value : Int)
  | longLongInt (value : Int)
  | double (value : Float)
  | longString (value : Bytes)
  | void
  deriving Repr

/-- Named values, sorted by `Fields.insert`. -/
abbrev Table := List (String × FieldValue)

end BrokerClient.Amqp
