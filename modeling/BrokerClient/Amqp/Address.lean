import BrokerClient.Error
import BrokerClient.Text.Decimal
import BrokerClient.Url.Basic

/-!
# Broker addresses

What a client needs to know of an address in order to log in at a broker: host and port, user and
password, the virtual host, and limits and the login mechanism from the query.
-/

namespace BrokerClient.Amqp

/-- How a client proves who it is. -/
inductive LoginMechanism
  | amqplain
  | external
  | plain
  | rabbitDemo
  deriving Repr, DecidableEq

namespace LoginMechanism

def name : LoginMechanism → String
  | amqplain => "AMQPLAIN"
  | external => "EXTERNAL"
  | plain => "PLAIN"
  | rabbitDemo => "RABBIT-CR-DEMO"

/-- The mechanism with this name in lower case. -/
def ofName? (name : String) : Option LoginMechanism :=
  match name with
  | "amqplain" => some amqplain
  | "external" => some external
  | "plain" => some plain
  | "rabbit-cr-demo" => some rabbitDemo
  | _ => none

end LoginMechanism

/-- Why a text is no broker address. -/
inductive AddressFault
  | url (cause : Url.Fault)
  | noAuthority (text : String)
  | badScheme (scheme : String)
  | badText (cause : Bytes.Utf8Fault) (index : Nat)
  | badNumber (cause : Text.NumberFault)
  | badMechanism (name : String)
  deriving Repr, DecidableEq

def AddressFault.message : AddressFault → String
  | url cause => cause.message
  | noAuthority text => "Invalid URL: '" ++ text ++ "'"
  | badScheme scheme => "Invalid AMQP scheme: " ++ scheme
  | badText cause index => cause.message index
  | badNumber cause => cause.message
  | badMechanism name => "Invalid SASL mechanism: " ++ name

/-- The address of a broker. -/
structure Address where
  encrypted : Bool
  host : String
  port : Nat
  user : String
  password : String
  virtualHost : String
  frameMax : Option Nat
  channelMax : Option Nat
  heartbeat : Option Nat
  connectionTimeout : Option Nat
  mechanism : LoginMechanism
  deriving Repr, DecidableEq

namespace Address

/-- The text that an encoded text stands for. -/
private def decoded (chars : List Char) : Except AddressFault String :=
  let bytes := Url.decode chars
  match bytes.fault?, bytes.toString? with
  | none, some text => .ok text
  | some (index, cause), _ => .error (.badText cause index)
  | none, none => .ok bytes.lossy

/-- A name or a value in a query, where a plus sign is a blank. -/
private def formText (chars : List Char) : String :=
  (Url.decode (chars.map fun c => if c = '+' then ' ' else c)).lossy

/-- The names and values of a query; the last value of a name counts. -/
def queryPairs (query : List Char) : List (String × String) :=
  ((Text.splitChars '&' query).filter (!·.isEmpty)).map fun pair =>
    let name := pair.takeWhile (· != '=')
    (formText name, formText (pair.drop (name.length + 1)))

private def queryValue (pairs : List (String × String)) (name : String) : Option String :=
  pairs.reverse.lookup name

private def queryNumber (pairs : List (String × String)) (name : String) (bound : Nat) :
    Except AddressFault (Option Nat) :=
  match queryValue pairs name with
  | none => .ok none
  | some text => (Text.natBelow bound text).mapError .badNumber |>.map some

private def queryMechanism (pairs : List (String × String)) :
    Except AddressFault LoginMechanism :=
  match queryValue pairs "auth_mechanism" with
  | none => .ok .plain
  | some text =>
    let name := Text.lower text
    match LoginMechanism.ofName? name with
    | some mechanism => .ok mechanism
    | none => .error (.badMechanism name)

/-- Reads a broker address.  Of several faults the first in the order of the parts counts. -/
def parse (text : String) : Except AddressFault Address := do
  let url ← (Url.parse text).mapError .url
  if url.isVerbatim then throw (.noAuthority text)
  let encrypted ←
    match url.scheme with
    | "amqp" => pure false
    | "amqps" => pure true
    | scheme => throw (.badScheme scheme)
  let user ← if url.user.isEmpty then pure "guest" else decoded url.user
  let password ← (url.password.map decoded).getD (pure "guest")
  let host ←
    match url.host with
    | some (.name name) => if name.isEmpty then pure "localhost" else decoded name.toList
    | _ => pure "localhost"
  let virtualHost ←
    match url.path.text with
    | [] => pure "/"
    | _ :: rest => decoded rest
  let pairs := (url.query.map queryPairs).getD []
  return {
    encrypted, host, user, password, virtualHost
    port := url.port.getD (if encrypted then 5671 else 5672)
    frameMax := ← queryNumber pairs "frame_max" UInt32.size
    channelMax := ← queryNumber pairs "channel_max" UInt16.size
    heartbeat := ← queryNumber pairs "heartbeat" UInt16.size
    connectionTimeout := ← queryNumber pairs "connection_timeout" UInt64.size
    mechanism := ← queryMechanism pairs }

end Address

/-- The failure of a dial to a text that is no broker address. -/
def AddressFault.toBrokerError (fault : AddressFault) : BrokerError :=
  (TransportError.io fault.message).toBrokerError

end BrokerClient.Amqp
