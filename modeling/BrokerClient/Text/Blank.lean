/-!
# White space

`isBlank` is the Unicode property White_Space; `trim` cuts such characters off both ends of a
text.
-/

namespace BrokerClient.Text

/-- Has the character the Unicode property White_Space? -/
def isBlank (c : Char) : Bool :=
  (0x09 ≤ c.val && c.val ≤ 0x0D) || c.val == 0x20 || c.val == 0x85 || c.val == 0xA0 ||
  c.val == 0x1680 || (0x2000 ≤ c.val && c.val ≤ 0x200A) || c.val == 0x2028 || c.val == 0x2029 ||
  c.val == 0x202F || c.val == 0x205F || c.val == 0x3000

/-- Cuts the blank characters off both ends. -/
def trimChars (chars : List Char) : List Char :=
  ((chars.dropWhile isBlank).reverse.dropWhile isBlank).reverse

@[inherit_doc trimChars]
def trim (text : String) : String :=
  String.ofList (trimChars text.toList)

/-- Is there nothing but white space? -/
def allBlank (text : String) : Bool :=
  text.toList.all isBlank

/-- The pieces between the occurrences of `separator`; there is always at least one. -/
def splitChars (separator : Char) : List Char → List (List Char)
  | [] => [[]]
  | c :: rest =>
    if c = separator then [] :: splitChars separator rest
    else
      match splitChars separator rest with
      | [] => [[c]]
      | piece :: pieces => (c :: piece) :: pieces

@[inherit_doc splitChars]
def split (separator : Char) (text : String) : List String :=
  (splitChars separator text.toList).map String.ofList

/-- Lower-case ASCII letters for upper-case ones; other characters stay. -/
def lowerAscii (text : String) : String :=
  String.ofList (text.toList.map Char.toLower)

/-- The lower-case hexadecimal digits of a number, at least `width` of them. -/
def hex (n : Nat) (width : Nat) : String :=
  let digits := Nat.toDigits 16 n
  String.ofList (List.replicate (width - digits.length) '0' ++ digits)

/-- Puts `separator` between the texts. -/
def join (separator : String) (texts : List String) : String :=
  separator.intercalate texts

end BrokerClient.Text
