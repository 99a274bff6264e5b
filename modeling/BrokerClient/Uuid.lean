import BrokerClient.Text.Blank

/-!
# Random identifiers

Identifiers of version 4 in their usual text form, made from random words, and a source that gives a
new one, or a number from `[0, 1)`, each time.  `Uuid.mask` hides the identifiers in a text, so that
two logs of the same events can be compared.
-/

namespace BrokerClient

namespace Uuid

/-- The identifier made from two random words; the bits for version and variant are fixed. -/
def text (high low : UInt64) : String :=
  let high := (high &&& 0xFFFFFFFFFFFF0FFF) ||| 0x4000
  let low := (low &&& 0x3FFFFFFFFFFFFFFF) ||| 0x8000000000000000
  let high := Text.hex high.toNat 16
  let low := Text.hex low.toNat 16
  let part (digits : String) (start length : Nat) : String :=
    String.ofList ((digits.toList.drop start).take length)
  Text.join "-" [part high 0 8, part high 8 4, part high 12 4, part low 0 4, part low 4 12]

/-- Scatters a counter over a whole word. -/
def scatter (n : UInt64) : UInt64 :=
  let z := n * 0x9E3779B97F4A7C15
  let z := (z ^^^ (z >>> 30)) * 0xBF58476D1CE4E5B9
  let z := (z ^^^ (z >>> 27)) * 0x94D049BB133111EB
  z ^^^ (z >>> 31)

/-! ## Identifiers in texts -/

/-- What may stand at a place of an identifier. -/
inductive Place
  | digit
  | variant
  | fixed (c : Char)

def Place.admits (place : Place) (c : Char) : Bool :=
  match place with
  | digit => c.isDigit || ('a' ≤ c && c ≤ 'f')
  | variant => c ∈ ['8', '9', 'a', 'b']
  | fixed expected => c = expected

/-- The places of an identifier. -/
def places : List Place :=
  let digits (n : Nat) : List Place := List.replicate n .digit
  digits 8 ++ .fixed '-' :: digits 4 ++ .fixed '-' :: .fixed '4' :: digits 3 ++
    .fixed '-' :: .variant :: digits 3 ++ .fixed '-' :: digits 12

/-- Takes an identifier off the front. -/
def skip? : List Place → List Char → Option (List Char)
  | [], rest => some rest
  | _ :: _, [] => none
  | place :: places, c :: rest => if place.admits c then skip? places rest else none

/-- Is the text an identifier, and nothing else? -/
def isText (text : String) : Bool :=
  skip? places text.toList = some []

/-- Goes through a text of at most `length` characters. -/
def maskChars : Nat → List Char → List Char
  | 0, chars => chars
  | _, [] => []
  | length + 1, c :: rest =>
    match skip? places (c :: rest) with
    | some after => "<uuid>".toList ++ maskChars length after
    | none => c :: maskChars length rest

/-- Hides the identifiers in a text. -/
def mask (text : String) : String :=
  String.ofList (maskChars text.length text.toList)

end Uuid

/-- A source of identifiers: a seed and the number of those given out. -/
structure IdSource where
  seed : UInt64 := 0
  given : Nat := 0
  deriving Repr

namespace IdSource

/-- The next identifier. -/
def next (source : IdSource) : String × IdSource :=
  let n := source.seed + (2 * source.given + 1).toUInt64
  (Uuid.text (Uuid.scatter n) (Uuid.scatter (n + 1)), { source with given := source.given + 1 })

/-- The next number from `[0, 1)`. -/
def draw (source : IdSource) : Float × IdSource :=
  let n := source.seed + (2 * source.given + 1).toUInt64
  (Float.ofNat ((Uuid.scatter n).toNat >>> 11) / Float.ofNat (UInt64.size >>> 11),
    { source with given := source.given + 1 })

end IdSource

end BrokerClient
