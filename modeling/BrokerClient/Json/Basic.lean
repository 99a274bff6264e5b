import BrokerClient.Fields

/-!
# JSON values

A JSON value as data.  An object keeps its fields in ascending order of their keys, one field for
each key, as `Fields.insert` does; a later value replaces an earlier one.
-/

namespace BrokerClient.Json

/-- A number: an integer as written without fraction and exponent, or a double. -/
inductive Number
  | int (value : Int)
  | float (value : Float)
  deriving Repr, Inhabited

/-- A JSON value. -/
inductive Value
  | null
  | bool (value : Bool)
  | number (value : Number)
  | string (value : String)
  | array (items : List Value)
  | object (fields : List (String × Value))
  deriving Repr, Inhabited

/-- The object with these fields; of two fields with one key the later stands. -/
def ofFields (fields : List (String × Value)) : Value :=
  .object (Fields.ofList fields)

/-! ## Equality -/

def Number.same : Number → Number → Bool
  | .int a, .int b => a == b
  | .float a, .float b => a == b
  | _, _ => false

mutual

/-- Are the values equal, an integer never being equal to a double? -/
def Value.same : Value → Value → Bool
  | .null, .null => true
  | .bool a, .bool b => a == b
  | .number a, .number b => a.same b
  | .string a, .string b => a == b
  | .array a, .array b => sameItems a b
  | .object a, .object b => sameFields a b
  | _, _ => false

def sameItems : List Value → List Value → Bool
  | [], [] => true
  | a :: as, b :: bs => a.same b && sameItems as bs
  | _, _ => false

def sameFields : List (String × Value) → List (String × Value) → Bool
  | [], [] => true
  | (k, a) :: as, (l, b) :: bs => k == l && a.same b && sameFields as bs
  | _, _ => false

end

/-! ## Access -/

namespace Value

/-- The field's value, `null` where there is none. -/
def get (value : Value) (key : String) : Value :=
  match value with
  | object fields => (Fields.find? key fields).getD null
  | _ => null

/-- The field's value, if the value is an object that has it. -/
def get? (value : Value) (key : String) : Option Value :=
  match value with
  | object fields => Fields.find? key fields
  | _ => none

def asString? : Value → Option String
  | string text => some text
  | _ => none

def asBool? : Value → Option Bool
  | bool b => some b
  | _ => none

def asInt? : Value → Option Int
  | number (.int n) => some n
  | _ => none

def asNat? (value : Value) : Option Nat :=
  value.asInt?.bind fun n => if 0 ≤ n then some n.toNat else none

def asArray? : Value → Option (List Value)
  | array items => some items
  | _ => none

def asObject? : Value → Option (List (String × Value))
  | object fields => some fields
  | _ => none

/-- A whole number as a value. -/
def ofInt (n : Int) : Value :=
  number (.int n)

@[inherit_doc ofInt]
def ofNat (n : Nat) : Value :=
  number (.int n)

/-- An optional text as a value, `null` where there is none. -/
def ofOption : Option String → Value
  | some text => string text
  | none => null

end Value

end BrokerClient.Json
