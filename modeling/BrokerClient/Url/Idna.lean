import BrokerClient.Text.LowerCase

/-!
# Names beyond ASCII

The ASCII form of a host name: letters are folded to lower case, and a label with characters beyond
ASCII is written as `xn--` and its delta code.  The delta code writes the ASCII characters first and
then, for each further character in ascending order, how many positions and code points lie between
it and the one before.  The validity checks of international names are left out.
-/

namespace BrokerClient.Url

/-! ## The delta code -/

/-- The digit for a number below 36. -/
def deltaDigit (n : Nat) : Char :=
  Char.ofNat (if n < 26 then 97 + n else 22 + n)

/-- The number of leading steps of the adaption; each divides by 35. -/
private def adaptFrom : Nat → Nat → Nat → Nat
  | 0, k, delta => k + 36 * delta / (delta + 38)
  | turns + 1, k, delta =>
    if 455 < delta then adaptFrom turns (k + 36) (delta / 35) else k + 36 * delta / (delta + 38)

/-- The next bias after a delta. -/
def adapt (delta count : Nat) (first : Bool) : Nat :=
  let delta := if first then delta / 700 else delta / 2
  adaptFrom 32 0 (delta + delta / count)

/-- A delta as digits of changing weight. -/
private def deltaDigits : Nat → Nat → Nat → Nat → List Char
  | 0, _, _, _ => []
  | turns + 1, bias, k, q =>
    let t := if k ≤ bias then 1 else if bias + 26 ≤ k then 26 else k - bias
    if q < t then [deltaDigit q]
    else deltaDigit (t + (q - t) % (36 - t)) :: deltaDigits turns bias (k + 36) ((q - t) / (36 - t))

/-- The state while a label is written: the next code point, the delta, the bias and how many
characters have been written. -/
structure DeltaState where
  next : Nat
  delta : Nat
  bias : Nat
  handled : Nat
  out : List Char

/-- Goes once through the label for the character `m`. -/
def deltaPass (basic m : Nat) (state : DeltaState) : List Char → DeltaState
  | [] => state
  | c :: rest =>
    if c.toNat < m then deltaPass basic m { state with delta := state.delta + 1 } rest
    else if c.toNat = m then
      let digits := deltaDigits 64 state.bias 36 state.delta
      deltaPass basic m
        { state with
          delta := 0
          bias := adapt state.delta (state.handled + 1) (state.handled == basic)
          handled := state.handled + 1
          out := state.out ++ digits } rest
    else deltaPass basic m state rest

/-- Writes the characters from the next code point on. -/
def deltaFrom (label : List Char) (basic : Nat) : Nat → DeltaState → List Char
  | 0, state => state.out
  | turns + 1, state =>
    match (label.filterMap fun c => if state.next ≤ c.toNat then some c.toNat else none).min? with
    | none => state.out
    | some m =>
      let delta := state.delta + (m - state.next) * (state.handled + 1)
      let state := deltaPass basic m { state with delta } label
      deltaFrom label basic turns { state with next := m + 1, delta := state.delta + 1 }

/-- The delta code of a label. -/
def deltaCode (label : List Char) : List Char :=
  let ascii := label.filter fun c => c.toNat < 0x80
  let start := if ascii.isEmpty then [] else ascii ++ ['-']
  deltaFrom label ascii.length label.length ⟨0x80, 0, 72, ascii.length, start⟩

/-! ## Names -/

/-- What a character of a name becomes: wide forms become narrow ones, letters lower-case ones, the
points of all scripts one point, and characters that are not seen nothing. -/
def foldCase (c : Char) : List Char :=
  let n := c.toNat
  if 0xFF01 ≤ n && n ≤ 0xFF5E then [(Char.ofNat (n - 0xFEE0)).toLower]
  else if n = 0x3002 || n = 0xFF61 then ['.']
  else if n = 0xAD || n = 0x200B || n = 0x2060 || n = 0xFEFF then []
  else Text.lowerChar c

def splitDots : List Char → List (List Char)
  | [] => [[]]
  | c :: rest =>
    if c = '.' then [] :: splitDots rest
    else
      match splitDots rest with
      | [] => [[c]]
      | label :: labels => (c :: label) :: labels

/-- The ASCII form of a name.  The labels are not checked for what international names may be made
of, so every name has one here. -/
def asciiName? (chars : List Char) : Option (List Char) :=
  let labels := (splitDots (chars.flatMap foldCase)).map fun label =>
    if label.all fun c => c.toNat < 0x80 then label
    else "xn--".toList ++ deltaCode label
  some (['.'].intercalate labels)

end BrokerClient.Url
