import BrokerClient.Url.Host
import BrokerClient.Url.Path

/-!
# Addresses

An address has a scheme, in most cases a host with an optional user, password and port, a path, and
optionally a query and a fragment.  `Url.parse` reads one as browsers do: blanks at the ends and
line breaks do not count, letters of the scheme are folded, characters that a part cannot hold are
encoded, and the schemes of the web are treated specially.  `Url.text` writes it.
-/

namespace BrokerClient

namespace Url

/-- The text after the host: resolved segments, or text that is taken as it stands. -/
inductive Path
  | segments (list : List (List Char))
  | verbatim (text : List Char)
  deriving Repr, DecidableEq

end Url

/-- An address; all parts but the host are in encoded form. -/
structure Url where
  scheme : String
  user : List Char
  password : Option (List Char)
  host : Option Url.Host
  port : Option Nat
  path : Url.Path
  query : Option (List Char)
  fragment : Option (List Char)
  deriving Repr, DecidableEq

namespace Url

/-! ## Writing -/

private def userText (url : Url) : List Char :=
  match url.password with
  | some password => url.user ++ ':' :: password ++ ['@']
  | none => if url.user.isEmpty then [] else url.user ++ ['@']

/-- User, host and port with the two slashes in front. -/
private def authorityText (url : Url) : List Char :=
  match url.host with
  | none => []
  | some host =>
    "//".toList ++ url.userText ++ host.text.toList ++
      (url.port.map fun port => ':' :: (toString port).toList).getD []

/-- The written form of a path. -/
def Path.text : Path → List Char
  | segments list => showSegments list
  | verbatim text => text

/-- The path; where no host comes before it, two slashes at its front are kept apart. -/
def pathChars (url : Url) : List Char :=
  let text := url.path.text
  if url.host.isNone && "//".toList.isPrefixOf text then "/.".toList ++ text else text

/-- The written form of an address. -/
def text (url : Url) : String :=
  String.ofList (url.scheme.toList ++ ':' :: url.authorityText ++ url.pathChars ++
    (url.query.map ('?' :: ·)).getD [] ++ (url.fragment.map ('#' :: ·)).getD [])

/-- Does a path follow the scheme that is no list of segments? -/
def isVerbatim (url : Url) : Bool :=
  match url.path with
  | .verbatim _ => true
  | .segments _ => false

/-- Can the address have a password?  One without a host cannot, nor can that of a file. -/
def takesPassword (url : Url) : Bool :=
  url.host.any (· != .name "") && url.scheme != "file"

/-- Puts another password in place of the one there is; `none` for an address that can have none
and yet has one. -/
def maskPassword? (url : Url) (mask : String) : Option Url :=
  match url.password with
  | none => some url
  | some _ =>
    if url.takesPassword then some { url with password := some (encode .userinfo mask.toList) }
    else none

/-! ## Schemes -/

/-- How the text after a scheme is read. -/
inductive SchemeKind
  | web
  | file
  | plain
  deriving Repr, DecidableEq

def SchemeKind.ofScheme (scheme : String) : SchemeKind :=
  if scheme ∈ ["http", "https", "ws", "wss", "ftp"] then .web
  else if scheme = "file" then .file
  else .plain

/-- The port that need not be written. -/
def defaultPort? (scheme : String) : Option Nat :=
  match scheme with
  | "http" | "ws" => some 80
  | "https" | "wss" => some 443
  | "ftp" => some 21
  | _ => none

/-- A slash; in the special schemes the backslash is one, too. -/
def SchemeKind.isSlash (kind : SchemeKind) (c : Char) : Bool :=
  c = '/' || (kind != .plain && c = '\\')

/-- Does the character end the user, host and port? -/
def SchemeKind.endsAuthority (kind : SchemeKind) (c : Char) : Bool :=
  kind.isSlash c || c = '?' || c = '#'

def isTrimmed (c : Char) : Bool :=
  c.val ≤ 0x20

/-- The text without blanks and control characters at its ends and without line breaks and tabs. -/
def significant (text : String) : List Char :=
  ((text.toList.dropWhile isTrimmed).reverse.dropWhile isTrimmed).reverse.filter fun c =>
    c != '\t' && c != '\n' && c != '\r'

/-- May the character stand in the name of a scheme? -/
def isSchemeChar (c : Char) : Bool :=
  c.isAlphanum || c = '+' || c = '-' || c = '.'

/-- The scheme, in lower case, and the text after its colon. -/
def takeScheme? (chars : List Char) : Option (String × List Char) :=
  let name := chars.takeWhile isSchemeChar
  match name, chars.drop name.length with
  | first :: _, ':' :: rest =>
    if first.isAlpha then some (String.ofList (name.map Char.toLower), rest) else none
  | _, _ => none

/-! ## User, host and port -/

/-- The pieces before and after the last `@`. -/
def splitLastAt (chars : List Char) : Option (List Char × List Char) :=
  match (Text.splitChars '@' chars).reverse with
  | last :: before :: more =>
    some (['@'].intercalate (before :: more).reverse, last)
  | _ => none

/-- The user and the password before the `@`; an empty password is none. -/
def parseUser (chars : List Char) : List Char × Option (List Char) :=
  let user := chars.takeWhile (· != ':')
  match chars.drop (user.length + 1) with
  | [] => (encode .userinfo user, none)
  | password => (encode .userinfo user, some (encode .userinfo password))

/-- The number of characters before the colon of the port; colons in brackets do not count. -/
def hostLength : Bool → List Char → Nat
  | _, [] => 0
  | bracketed, c :: rest =>
    if c = ':' && !bracketed then 0
    else hostLength (c = '[' || (bracketed && c != ']')) rest + 1

/-- Reads the digits of a port as far as they go. -/
def portFrom (n : Nat) : List Char → Except Fault (Nat × List Char)
  | [] => .ok (n, [])
  | c :: rest =>
    if c.isDigit then
      let n := n * 10 + (c.toNat - 48)
      if 65535 < n then .error .badPort else portFrom n rest
    else if c = '/' || c = '\\' || c = '?' || c = '#' then .ok (n, c :: rest)
    else .error .badPort

/-- Reads a port and gives the text after it; no digits and the default port are no port. -/
def parsePort (default : Option Nat) (chars : List Char) :
    Except Fault (Option Nat × List Char) := do
  let (n, rest) ← portFrom 0 chars
  let found := rest.length < chars.length
  return (if found && some n != default then some n else none, rest)

/-- The parts before the path. -/
structure Authority where
  user : List Char := []
  password : Option (List Char) := none
  host : Host
  port : Option Nat := none

/-- Reads the colon and the port behind it, if there is a colon. -/
def parsePortPart (scheme : String) (chars : List Char) :
    Except Fault (Option Nat × List Char) :=
  match chars with
  | ':' :: digits => parsePort (defaultPort? scheme) digits
  | _ => .ok (none, chars)

/-- Reads the text of a host. -/
def parseHost (kind : SchemeKind) (chars : List Char) : Except Fault Host :=
  if kind = .plain then parsePlainHost chars else parseSpecialHost chars

/-- Reads host and port and gives the text after them.  A host is needed in the special schemes, in
front of a port, and where there is a user or a password. -/
def parseHostPort (scheme : String) (kind : SchemeKind) (hasUser : Bool) (chars : List Char) :
    Except Fault (Host × Option Nat × List Char) :=
  let part := chars.takeWhile fun c => !kind.endsAuthority c
  let hostText := part.take (hostLength false part)
  let rest := chars.drop hostText.length
  if hostText.isEmpty && (kind != .plain || hasUser || rest.head? = some ':') then .error .emptyHost
  else do
    let host ← parseHost kind hostText
    let (port, rest) ← parsePortPart scheme rest
    return (host, port, rest)

/-- Reads user, host and port and gives the text after them. -/
def parseAuthority (scheme : String) (kind : SchemeKind) (chars : List Char) :
    Except Fault (Authority × List Char) :=
  match splitLastAt (chars.takeWhile fun c => !kind.endsAuthority c) with
  | none => hostPort [] none chars
  | some ([], _) =>
    let rest := chars.drop 1
    if rest.head?.any kind.endsAuthority then .error .emptyHost else hostPort [] none rest
  | some (before, _) =>
    let (user, password) := parseUser before
    hostPort user password (chars.drop (before.length + 1))
where
  hostPort (user : List Char) (password : Option (List Char)) (chars : List Char) :
      Except Fault (Authority × List Char) := do
    let (host, port, rest) ←
      parseHostPort scheme kind (!user.isEmpty || password.isSome) chars
    return ({ user, password, host, port }, rest)

/-! ## The whole address -/

def beforeQuery (c : Char) : Bool :=
  c != '?' && c != '#'

/-- The query and the fragment that follow a path. -/
def parseTail (kind : SchemeKind) (chars : List Char) : Option (List Char) × Option (List Char) :=
  let query := chars.takeWhile (· != '#')
  let fragment := chars.drop query.length
  let set : EncodeSet := if kind = .plain then .query else .specialQuery
  (if query.isEmpty then none else some (encode set (query.drop 1)),
    if fragment.isEmpty then none else some (encode .fragment (fragment.drop 1)))

/-- The path after the host. -/
def parsePath (kind : SchemeKind) (chars : List Char) : Path :=
  match chars with
  | [] => .segments (if kind = .plain then [] else [[]])
  | c :: rest => .segments (segmentsOf kind.isSlash (if kind.isSlash c then rest else chars))

/-- An address with the given parts whose path, query and fragment are yet to be read. -/
def finish (scheme : String) (kind : SchemeKind) (authority : Option Authority)
    (path : List Char → Path) (chars : List Char) : Url :=
  let pathChars := chars.takeWhile beforeQuery
  let (query, fragment) := parseTail kind (chars.drop pathChars.length)
  { scheme
    user := (authority.map (·.user)).getD []
    password := authority.bind (·.password)
    host := authority.map (·.host)
    port := authority.bind (·.port)
    path := path pathChars
    query, fragment }

/-- The path of a file and whether it starts at a drive.  The drive is written with a colon, and no
empty segments come first. -/
def filePath (chars : List Char) : List (List Char) × Bool :=
  match segmentsOf SchemeKind.file.isSlash chars with
  | first :: rest =>
    if isDriveLetter first then ((first.take 1 ++ [':']) :: rest, true)
    else
      match (first :: rest).dropWhile List.isEmpty with
      | [] => ([[]], false)
      | segments => (segments, false)
  | [] => ([[]], false)

/-- The host of a file and the text after it; a drive and the own machine are no hosts. -/
def fileHost (chars : List Char) : Except Fault (Host × List Char) := do
  let name := chars.takeWhile fun c => !SchemeKind.file.endsAuthority c
  if isDriveLetter name then return (.name "", chars)
  let host ← if name.isEmpty then pure (.name "") else parseSpecialHost name
  return (if host = .name "localhost" then .name "" else host, chars.drop name.length)

/-- Reads what follows `file:`. -/
def parseFile (chars : List Char) : Except Fault Url := do
  let isSlash := SchemeKind.file.isSlash
  let (host, rest) ←
    match chars with
    | a :: b :: rest => if isSlash a && isSlash b then fileHost rest else pure (.name "", chars)
    | _ => pure (.name "", chars)
  let rest := if rest.head?.any isSlash then rest.drop 1 else rest
  let (_, onDrive) := filePath (rest.takeWhile beforeQuery)
  let authority : Authority := { host := if onDrive then .name "" else host }
  return finish "file" .file (some authority) (fun path => .segments (filePath path).1) rest

/-- Reads an address. -/
def parse (text : String) : Except Fault Url := do
  let some (scheme, rest) := takeScheme? (significant text) | throw .noScheme
  match SchemeKind.ofScheme scheme with
  | .file => parseFile rest
  | .web =>
    let (authority, rest) ←
      parseAuthority scheme .web (rest.dropWhile SchemeKind.web.isSlash)
    return finish scheme .web (some authority) (parsePath .web) rest
  | .plain =>
    match rest with
    | '/' :: '/' :: rest =>
      let (authority, rest) ← parseAuthority scheme .plain rest
      return finish scheme .plain (some authority) (parsePath .plain) rest
    | '/' :: _ => return finish scheme .plain none (parsePath .plain) rest
    | _ => return finish scheme .plain none (.verbatim ∘ encode .controls) rest

end Url

end BrokerClient
