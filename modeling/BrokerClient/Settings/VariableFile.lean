import BrokerClient.Settings.Environment
import BrokerClient.Text.Alphanumeric
import BrokerClient.Text.Utf8

/-!
# Files of variables

A file with one `NAME=value` on each line.  Blank lines and lines that start with `#` say nothing,
and `export` may stand before a name.  In a value

* single quotes take everything up to the next one as it stands,
* double quotes keep blanks, and a backslash, inside them or outside of quotes, takes one character,
* `$name` and a name in braces after `$` stand for a variable that is set already, by an earlier
  line or outside, or else for nothing,
* a blank outside of quotes ends the value; only blanks and a comment may follow.

A variable that is set already keeps its value.  Reading ends at the first line that breaks these
rules, and what stood before it counts.
-/

namespace BrokerClient.VariableFile

/-- The variables that are set, the later first. -/
abbrev Variables := List (String × String)

def Variables.lookup (known : Variables) : Lookup :=
  fun name => (known.find? (·.1 == name)).map (·.2)

/-- Sets a variable unless it is set already. -/
def Variables.setNew (known : Variables) (name value : String) : Variables :=
  if (known.lookup name).isSome then known else (name, value) :: known

/-- The state inside a value. -/
inductive Mode
  /-- Outside of quotes. -/
  | bare
  /-- Inside double quotes. -/
  | quoted
  /-- Inside single quotes. -/
  | literal
  /-- After a backslash. -/
  | escape (quoted : Bool)
  /-- In a name after `$`. -/
  | name (quoted : Bool) (reversed : List Char)
  /-- In a name in braces. -/
  | braced (quoted : Bool) (reversed : List Char)
  /-- After the blank that ends the value. -/
  | ended
  /-- In the comment after the value. -/
  | comment

private def back (quoted : Bool) : Mode :=
  if quoted then .quoted else .bare

/-- One character of a value, with the text written so far in reverse; `none` breaks the rules. -/
def stepValue (lookup : Lookup) (mode : Mode) (written : List Char) (c : Char) :
    Option (Mode × List Char) :=
  let substituted (reversed : List Char) : List Char :=
    ((lookup (String.ofList reversed.reverse)).getD "").toList.reverse ++ written
  match mode with
  | .comment => some (.comment, written)
  | .ended =>
    if c = ' ' || c = '\t' then some (.ended, written)
    else if c = '#' then some (.comment, written)
    else none
  | .escape quoted =>
    if c ∈ ['\\', '\'', '"', '$', ' '] then some (back quoted, c :: written)
    else if c = 'n' then some (back quoted, '\n' :: written)
    else none
  | .literal => if c = '\'' then some (.bare, written) else some (.literal, c :: written)
  | .name quoted reversed =>
    if Text.isAlphanumeric c then some (.name quoted (c :: reversed), written)
    else if c = '\x7b' && reversed.isEmpty then some (.braced quoted [], written)
    else if c = '$' then some (.name quoted [], substituted reversed)
    else some (back quoted, c :: substituted reversed)
  | .braced quoted reversed =>
    if Text.isAlphanumeric c then some (.braced quoted (c :: reversed), written)
    else if c = '\x7d' then some (back quoted, substituted reversed)
    else some (.braced quoted (c :: reversed), written)
  | .quoted =>
    if c = '$' then some (.name true [], written)
    else if c = '"' then some (.bare, written)
    else if c = '\\' then some (.escape true, written)
    else some (.quoted, c :: written)
  | .bare =>
    if c = '$' then some (.name false [], written)
    else if c = '\'' then some (.literal, written)
    else if c = '"' then some (.quoted, written)
    else if c = '\\' then some (.escape false, written)
    else if c = ' ' || c = '\t' then some (.ended, written)
    else some (.bare, c :: written)

/-- Reads on in a value to the end of its line. -/
def readValueFrom (lookup : Lookup) (mode : Mode) (written : List Char) :
    List Char → Option String
  | c :: rest =>
    match stepValue lookup mode written c with
    | none => none
    | some (mode, written) => readValueFrom lookup mode written rest
  | [] =>
    match mode with
    | .quoted | .literal | .escape true | .name true _ | .braced _ _ => none
    | .name false reversed =>
      some (String.ofList written.reverse ++ (lookup (String.ofList reversed.reverse)).getD "")
    | .bare | .escape false | .ended | .comment => some (String.ofList written.reverse)

/-- Reads a value. -/
def readValue (lookup : Lookup) (chars : List Char) : Option String :=
  readValueFrom lookup .bare [] chars

private def skipBlank (chars : List Char) : List Char :=
  chars.dropWhile Text.isBlank

private def isAsciiLetter (c : Char) : Bool :=
  c.isAlpha

/-- Reads a name: a letter or an underscore, then letters, digits, underscores and points. -/
def readName (chars : List Char) : Option (String × List Char) :=
  match chars with
  | [] => none
  | first :: _ =>
    if !(isAsciiLetter first || first = '_') then none
    else
      let inName (c : Char) : Bool := c.isAlphanum || c = '_' || c = '.'
      some (String.ofList (chars.takeWhile inName), skipBlank (chars.dropWhile inName))

private def expectEqual : List Char → Option (List Char)
  | '=' :: rest => some (skipBlank rest)
  | _ => none

/-- What a line says. -/
inductive Line
  | nothing
  | variable (name value : String)
  | broken

/-- Reads a line.  The look-up gives the variables set so far. -/
def readLine (lookup : Lookup) (line : String) : Line :=
  let chars := Text.trimChars line.toList
  match chars with
  | [] => .nothing
  | '#' :: _ => .nothing
  | _ =>
    let assignment : Option (String × List Char) := do
      let (name, rest) ← readName chars
      match expectEqual rest with
      | some value => return (name, value)
      | none =>
        guard (name == "export")
        let (name, rest) ← readName rest
        return (name, ← expectEqual rest)
    match assignment with
    | none => .broken
    | some (name, []) => .variable name ""
    | some (name, '#' :: _) => .variable name ""
    | some (name, value) =>
      match readValue lookup value with
      | some value => .variable name value
      | none => .broken

/-- The variables after the lines up to the first that is broken. -/
def loadLines (known : Variables) : List (Option String) → Variables
  | [] => known
  | none :: _ => known
  | some line :: rest =>
    match readLine known.lookup line with
    | .nothing => loadLines known rest
    | .broken => known
    | .variable name value => loadLines (known.setNew name value) rest

/-- The lines of a file; one that is no UTF-8 is `none`. -/
def lines (content : Bytes) : List (Option String) :=
  let pieces := content.splitBy fun byte _ => byte != 0x0A
  pieces.map fun piece => Bytes.toString? (piece.filter (· != 0x0A))

/-- The variables after a file has been read. -/
def load (known : Variables) (content : Bytes) : Variables :=
  loadLines known (lines content)

end BrokerClient.VariableFile
