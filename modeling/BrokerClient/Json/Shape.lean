import BrokerClient.Json.Scan

/-!
# Shapes of JSON values

A `Shape` is a kind of JSON value that somebody asks for: a text, an integer in a range, a list of
texts, a record.  It can be asked for in a text (`Shape.ofBytes?`), where every fault has a place,
or in a value that is already there (`Shape.ofValue?`).  Both give the value in normal form: a
record holds the fields that were present and that the record has, and no others.

A record may also be written as an array of its fields in order.  Text may nest 127 arrays and
objects, those that nobody asked for not counted.
-/

namespace BrokerClient.Json

/-- A kind of value: how it is read from a text that may nest so many brackets, and how it is found
in a value. -/
structure Shape where
  read : Nat → Bytes → Except ReadError (Value × Bytes)
  conform : Value → Except Fault Value

/-- Why the inside of a bracket could not be read: a fault with its place, or one whose place is
where the reader stands once the bracket has been closed as far as possible. -/
inductive Stop
  | placed (e : ReadError)
  | open (fault : Fault) (rest : Bytes)

private def stopBefore {α : Type} (rest : Bytes) (fault : Fault) : Except ReadError α :=
  .error (.before rest fault)

private def stopAfter {α : Type} (rest : Bytes) (fault : Fault) : Except ReadError α :=
  .error (.after rest fault)

/-! ## Brackets -/

/-- What is left when a list has been closed as far as possible. -/
def afterList (bytes : Bytes) : Bytes :=
  match skipGap bytes with
  | 0x5D :: rest => rest
  | 0x2C :: rest => skipGap rest
  | rest => rest

/-- Closes a list whose items have all been read. -/
def closeList (bytes : Bytes) : Except ReadError Bytes :=
  match skipGap bytes with
  | [] => stopAfter [] .unfinishedList
  | 0x5D :: rest => .ok rest
  | 0x2C :: rest =>
    match skipGap rest with
    | 0x5D :: rest => stopAfter (0x5D :: rest) .trailingComma
    | rest => stopAfter rest .trailingCharacters
  | rest => stopAfter rest .trailingCharacters

/-- What is left when an object has been closed as far as possible. -/
def afterObject (bytes : Bytes) : Bytes :=
  match skipGap bytes with
  | 0x7D :: rest => rest
  | rest => rest

/-- Closes an object whose fields have all been read. -/
def closeObject (bytes : Bytes) : Except ReadError Bytes :=
  match skipGap bytes with
  | [] => stopAfter [] .unfinishedObject
  | 0x7D :: rest => .ok rest
  | 0x2C :: rest => stopAfter (0x2C :: rest) .trailingComma
  | rest => stopAfter rest .trailingCharacters

/-- Ends a bracket: closes it after what was read, or places the fault. -/
def finish {α : Type} (close : Bytes → Except ReadError Bytes) (after : Bytes → Bytes) :
    Except Stop (α × Bytes) → Except ReadError (α × Bytes)
  | .ok (value, rest) => do return (value, ← close rest)
  | .error (.placed e) => .error e
  | .error (.open fault rest) => stopBefore (after rest) fault

/-- Does another item follow in a list?  The bytes given are those from the item on. -/
def nextItem (first : Bool) (bytes : Bytes) : Except ReadError (Bool × Bytes) :=
  match skipGap bytes with
  | [] => stopAfter [] .unfinishedList
  | 0x5D :: rest => .ok (false, 0x5D :: rest)
  | byte :: rest =>
    if first then .ok (true, byte :: rest)
    else if byte = 0x2C then
      match skipGap rest with
      | [] => stopAfter [] .unfinishedValue
      | 0x5D :: rest => stopAfter (0x5D :: rest) .trailingComma
      | rest => .ok (true, rest)
    else stopAfter (byte :: rest) .expectedListEnd

/-- The next key of an object, if there is one. -/
def nextKey (first : Bool) (bytes : Bytes) : Except ReadError (Option String × Bytes) :=
  let key (bytes : Bytes) : Except ReadError (Option String × Bytes) :=
    match scanString bytes with
    | .ok (text, rest) => .ok (some text, rest)
    | .error e => .error e
  match skipGap bytes with
  | [] => stopAfter [] .unfinishedObject
  | 0x7D :: rest => .ok (none, 0x7D :: rest)
  | byte :: rest =>
    if first then
      if byte = 0x22 then key rest else stopAfter (byte :: rest) .keyNotString
    else if byte = 0x2C then
      match skipGap rest with
      | [] => stopAfter [] .unfinishedValue
      | 0x22 :: rest => key rest
      | 0x7D :: rest => stopAfter (0x7D :: rest) .trailingComma
      | rest => stopAfter rest .keyNotString
    else stopAfter (byte :: rest) .expectedObjectEnd

/-- Reads the colon after a key. -/
def scanColon (bytes : Bytes) : Except ReadError Bytes :=
  match skipGap bytes with
  | [] => stopAfter [] .unfinishedObject
  | 0x3A :: rest => .ok rest
  | rest => stopAfter rest .expectedColon

/-- Reads the items of a list up to its end; every item takes at least one byte, so the length of
the text bounds their number. -/
def readItems (read : Bytes → Except ReadError (Value × Bytes)) :
    Nat → Bool → Bytes → Except ReadError (List Value × Bytes)
  | 0, _, _ => stopAfter [] .unfinishedList
  | turns + 1, first, bytes => do
    let (more, rest) ← nextItem first bytes
    if more then
      let (item, rest) ← read rest
      let (items, rest) ← readItems read turns false rest
      return (item :: items, rest)
    else return ([], rest)

/-- Reads the fields of an object up to its end, the later of two with one key standing. -/
def readEntries (read : Bytes → Except ReadError (Value × Bytes)) :
    Nat → Bool → List (String × Value) → Bytes → Except ReadError (List (String × Value) × Bytes)
  | 0, _, _, _ => stopAfter [] .unfinishedObject
  | turns + 1, first, fields, bytes => do
    match ← nextKey first bytes with
    | (none, rest) => return (fields, rest)
    | (some key, rest) =>
      let (value, rest) ← read (← scanColon rest)
      readEntries read turns false (Fields.insert key value fields) rest

/-- A list at the front of a text, its opening bracket still to be read. -/
def listWith (read : Bytes → Except ReadError (Value × Bytes)) (bytes : Bytes) :
    Except ReadError (Value × Bytes) := do
  let (items, rest) ← readItems read (bytes.length + 1) true (bytes.drop 1)
  return (.array items, ← closeList rest)

/-- An object at the front of a text, its opening bracket still to be read. -/
def objectWith (read : Bytes → Except ReadError (Value × Bytes)) (bytes : Bytes) :
    Except ReadError (Value × Bytes) := do
  let (fields, rest) ← readEntries read (bytes.length + 1) true [] (bytes.drop 1)
  return (.object fields, ← closeObject rest)

/-- Goes one bracket deeper. -/
def deeper {α : Type} (depth : Nat) (bytes : Bytes) (read : Nat → Except ReadError α) :
    Except ReadError α :=
  match depth with
  | 0 => stopAfter bytes .recursionLimit
  | depth + 1 => read depth

/-! ## Any value -/

/-- Reads a value that is no array and no object. -/
def readScalar (bytes : Bytes) : Except ReadError (Value × Bytes) :=
  match bytes with
  | [] => stopAfter [] .unfinishedValue
  | 0x6E :: rest => do return (.null, ← scanIdent [0x75, 0x6C, 0x6C] rest)
  | 0x74 :: rest => do return (.bool true, ← scanIdent [0x72, 0x75, 0x65] rest)
  | 0x66 :: rest => do return (.bool false, ← scanIdent [0x61, 0x6C, 0x73, 0x65] rest)
  | 0x22 :: rest => do
    let (text, rest) ← scanString rest
    return (.string text, rest)
  | byte :: _ =>
    if byte = 0x2D || isDigit byte then do
      let (n, rest) ← scanNumber bytes
      return (.number n, rest)
    else stopAfter bytes .expectedValue

/-- Reads any value. -/
def readAny : Nat → Bytes → Except ReadError (Value × Bytes)
  | 0, bytes =>
    match skipGap bytes with
    | 0x5B :: rest => stopAfter (0x5B :: rest) .recursionLimit
    | 0x7B :: rest => stopAfter (0x7B :: rest) .recursionLimit
    | rest => readScalar rest
  | depth + 1, bytes =>
    match skipGap bytes with
    | 0x5B :: rest => listWith (readAny depth) (0x5B :: rest)
    | 0x7B :: rest => objectWith (readAny depth) (0x7B :: rest)
    | rest => readScalar rest

/-- Reads on to the end of a value of the wrong kind, to say what it is. -/
def readWrong {α : Type} (expected : String) (bytes : Bytes) : Except ReadError α :=
  match bytes with
  | 0x5B :: _ => stopBefore bytes (.invalidType .sequence expected)
  | 0x7B :: _ => stopBefore bytes (.invalidType .map expected)
  | _ => do
    let (value, rest) ← readScalar bytes
    stopBefore rest (.invalidType value.found expected)

namespace Shape

/-- Any value at all. -/
def any : Shape where
  read := readAny
  conform := .ok

/-- A shape whose values are no containers, by a test on such a value. -/
def ofScalar (expected : String) (starts : UInt8 → Bool)
    (accept : Value → Except Fault Value) : Shape where
  read _ bytes :=
    match skipGap bytes with
    | [] => stopAfter [] .unfinishedValue
    | byte :: rest =>
      if starts byte then do
        let (value, rest) ← readScalar (byte :: rest)
        match accept value with
        | .ok value => return (value, rest)
        | .error fault => stopBefore rest fault
      else readWrong expected (byte :: rest)
  conform := accept

def wrong {α : Type} (value : Value) (expected : String) : Except Fault α :=
  .error (.invalidType value.found expected)

def startsNumber (byte : UInt8) : Bool :=
  byte == 0x2D || isDigit byte

/-- `true` or `false`. -/
def bool : Shape :=
  ofScalar "a boolean" (fun byte => byte == 0x74 || byte == 0x66) fun
    | .bool b => .ok (.bool b)
    | value => wrong value "a boolean"

/-- A text. -/
def string : Shape :=
  ofScalar "a string" (· == 0x22) fun
    | .string text => .ok (.string text)
    | value => wrong value "a string"

/-- An integer from `least` to `greatest`. -/
def integer (name : String) (least greatest : Int) : Shape :=
  ofScalar name startsNumber fun
    | .number (.int n) =>
      if least ≤ n && n ≤ greatest then .ok (.ofInt n)
      else .error (.invalidValue (.number (.int n)) name)
    | value => wrong value name

/-- An unsigned integer of so many bits. -/
def unsigned (bits : Nat) : Shape :=
  integer ("u" ++ toString bits) 0 (Nat.pow 2 bits - 1 : Nat)

/-- A signed integer of so many bits. -/
def signed (bits : Nat) : Shape :=
  integer ("i" ++ toString bits) (-Nat.pow 2 (bits - 1) : Int) (Nat.pow 2 (bits - 1) - 1 : Nat)

/-- The nearest double of an integer. -/
def floatOfInt (n : Int) : Float :=
  if n < 0 then -(Float.ofNat n.natAbs) else Float.ofNat n.natAbs

/-- A number, which becomes a double. -/
def float : Shape :=
  ofScalar "f64" startsNumber fun
    | .number (.float x) => .ok (.number (.float x))
    | .number (.int n) => .ok (.number (.float (floatOfInt n)))
    | value => wrong value "f64"

/-- A value of the shape, or `null`. -/
def option (shape : Shape) : Shape where
  read depth bytes :=
    match skipGap bytes with
    | 0x6E :: rest => do return (.null, ← scanIdent [0x75, 0x6C, 0x6C] rest)
    | rest => shape.read depth rest
  conform
    | .null => .ok .null
    | value => shape.conform value

/-- An array whose items have the shape. -/
def list (shape : Shape) : Shape where
  read depth bytes :=
    match skipGap bytes with
    | [] => stopAfter [] .unfinishedValue
    | 0x5B :: rest =>
      deeper depth (0x5B :: rest) fun depth => listWith (shape.read depth) (0x5B :: rest)
    | rest => readWrong "a sequence" rest
  conform
    | .array items => do return .array (← items.mapM shape.conform)
    | value => wrong value "a sequence"

/-- An object with any keys and values. -/
def map : Shape where
  read depth bytes :=
    match skipGap bytes with
    | [] => stopAfter [] .unfinishedValue
    | 0x7B :: rest =>
      deeper depth (0x7B :: rest) fun depth => objectWith (readAny depth) (0x7B :: rest)
    | rest => readWrong "a map" rest
  conform
    | .object fields => .ok (.object fields)
    | value => wrong value "a map"

/-! ## Records -/

/-- A field of a record; one that is not required may be left out. -/
structure Field where
  name : String
  shape : Shape
  required : Bool

/-- Reads the items of an array as the fields in their order. -/
def readPositions (expected : String) (depth : Nat) :
    Nat → List Field → Bool → Bytes → Except Stop (List (String × Value) × Bytes)
  | _, [], _, bytes => .ok ([], bytes)
  | index, field :: more, first, bytes =>
    match nextItem first bytes with
    | .error e => .error (.placed e)
    | .ok (false, rest) =>
      if field.required then .error (.open (.invalidLength index expected) rest)
      else readPositions expected depth (index + 1) more first rest
    | .ok (true, rest) =>
      match field.shape.read depth rest with
      | .error e => .error (.placed e)
      | .ok (value, rest) => do
        let (fields, rest) ← readPositions expected depth (index + 1) more false rest
        return ((field.name, value) :: fields, rest)

/-- Reads the fields of an object; those that the record has not are passed over. -/
def readNamed (record : List Field) (depth : Nat) :
    Nat → Bool → List (String × Value) → Bytes → Except Stop (List (String × Value) × Bytes)
  | 0, _, _, _ => .error (.placed (.after [] .unfinishedObject))
  | turns + 1, first, fields, bytes =>
    match nextKey first bytes with
    | .error e => .error (.placed e)
    | .ok (none, rest) =>
      match record.find? fun field => field.required && !fields.any (·.1 == field.name) with
      | some field => .error (.open (.missingField field.name) rest)
      | none => .ok (fields, rest)
    | .ok (some key, rest) =>
      match record.find? (·.name == key) with
      | none =>
        match scanColon rest >>= skipValue with
        | .error e => .error (.placed e)
        | .ok rest => readNamed record depth turns false fields rest
      | some field =>
        if fields.any (·.1 == key) then .error (.open (.duplicateField key) rest)
        else
          match scanColon rest >>= field.shape.read depth with
          | .error e => .error (.placed e)
          | .ok (value, rest) => readNamed record depth turns false ((key, value) :: fields) rest

/-- Takes the items of an array as the fields in their order. -/
def conformPositions (expected : String) :
    Nat → List Field → List Value → Except Fault (List (String × Value) × List Value)
  | _, [], items => .ok ([], items)
  | index, field :: more, [] =>
    if field.required then .error (.invalidLength index expected)
    else conformPositions expected (index + 1) more []
  | index, field :: more, item :: items => do
    let value ← field.shape.conform item
    let (fields, rest) ← conformPositions expected (index + 1) more items
    return ((field.name, value) :: fields, rest)

/-- Takes the fields of an object that the record has. -/
def conformNamed (record : List Field) :
    List (String × Value) → Except Fault (List (String × Value))
  | [] => .ok []
  | (key, value) :: rest =>
    match record.find? (·.name == key) with
    | none => conformNamed record rest
    | some field => do
      let value ← field.shape.conform value
      return (key, value) :: (← conformNamed record rest)

/-- A record: an object, or an array of the fields in order. -/
def record (name : String) (fields : List Field) : Shape where
  read depth bytes :=
    match skipGap bytes with
    | [] => stopAfter [] .unfinishedValue
    | 0x5B :: rest =>
      deeper depth (0x5B :: rest) fun depth => do
        let (values, rest) ← finish closeList afterList
          (readPositions (lengthText name fields) depth 0 fields true rest)
        return (ofFields values, rest)
    | 0x7B :: rest =>
      deeper depth (0x7B :: rest) fun depth => do
        let (values, rest) ← finish closeObject afterObject
          (readNamed fields depth (bytes.length + 1) true [] rest)
        return (ofFields values, rest)
    | rest => readWrong ("struct " ++ name) rest
  conform
    | .array items => do
      let (values, rest) ← conformPositions (lengthText name fields) 0 fields items
      if rest.isEmpty then return ofFields values
      else .error (.invalidLength items.length "fewer elements in array")
    | .object given => do
      let values ← conformNamed fields given
      match fields.find? fun field => field.required && !values.any (·.1 == field.name) with
      | some field => .error (.missingField field.name)
      | none => return ofFields values
    | value => wrong value ("struct " ++ name)
where
  lengthText (name : String) (fields : List Field) : String :=
    "struct " ++ name ++ " with " ++ toString fields.length ++
      (if fields.length = 1 then " element" else " elements")

/-- An array of one value of each shape. -/
def tuple (shapes : List Shape) : Shape where
  read depth bytes :=
    match skipGap bytes with
    | [] => stopAfter [] .unfinishedValue
    | 0x5B :: rest =>
      deeper depth (0x5B :: rest) fun depth => do
        let (values, rest) ← finish closeList afterList
          (readPositions (sizeText shapes) depth 0 (positions shapes) true rest)
        return (.array (values.map (·.2)), rest)
    | rest => readWrong (sizeText shapes) rest
  conform
    | .array items => do
      let (values, rest) ← conformPositions (sizeText shapes) 0 (positions shapes) items
      if rest.isEmpty then return .array (values.map (·.2))
      else .error (.invalidLength items.length "fewer elements in array")
    | value => wrong value (sizeText shapes)
where
  sizeText (shapes : List Shape) : String :=
    "a tuple of size " ++ toString shapes.length
  positions (shapes : List Shape) : List Field :=
    shapes.map fun shape => ⟨"", shape, true⟩

/-! ## Whole texts -/

/-- The number of arrays and objects that a text may nest. -/
def depthLimit : Nat := 127

/-- Reads a text that holds one value of the shape and nothing else. -/
def readAll (shape : Shape) (bytes : Bytes) : Except ReadError Value := do
  let (value, rest) ← shape.read depthLimit bytes
  match skipGap rest with
  | [] => return value
  | rest => stopAfter rest .trailingCharacters

/-- Reads a text that holds one value of the shape and nothing else; an error has its place. -/
def ofBytes? (shape : Shape) (bytes : Bytes) : Except PlacedError Value :=
  (shape.readAll bytes).mapError (·.placedIn bytes)

/-- Takes a value that is already there; an error has no place. -/
def ofValue? (shape : Shape) (value : Value) : Except PlacedError Value :=
  (shape.conform value).mapError fun fault => ⟨fault, 0, 0⟩

end Shape

end BrokerClient.Json
