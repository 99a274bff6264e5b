import BrokerClient.Settings.Basic
import BrokerClient.Report
import BrokerClient.Text.Decimal

/-!
# Settings from variables

Settings read from named variables.  A variable that is blank counts as not set.  Numbers and flags
may have white space around them; texts are taken as they stand.
-/

namespace BrokerClient

/-- Where a variable's text is found. -/
abbrev Lookup := String → Option String

namespace Lookup

/-- The text of a variable that is set and not blank. -/
def text (lookup : Lookup) (name : String) : Option String :=
  (lookup name).filter fun value => !Text.allBlank value

end Lookup

namespace Settings

/-- Why variables give no settings. -/
inductive VariableFault
  | noEndpoint
  | badNumber (name : String) (cause : Text.NumberFault)
  | badFlag (name value : String)
  | refused (cause : Fault)
  deriving Repr, DecidableEq

namespace VariableFault

/-- The report on the fault; only a number has a cause behind it. -/
def report : VariableFault → Report
  | noEndpoint =>
    .ofMessage "RABBITMQ_URLS or RABBITMQ_URL must name at least one broker endpoint"
  | badNumber name cause => (Report.ofMessage cause.message).context ("Invalid value for " ++ name)
  | badFlag name value => .ofMessage ("Invalid boolean for " ++ name ++ ": " ++ value)
  | refused cause => .ofMessage cause.message

end VariableFault

/-- A variable's number below a bound, if the variable is set. -/
def numberVariable (lookup : Lookup) (name : String) (bound : Nat) :
    Except VariableFault (Option Nat) :=
  match lookup.text name with
  | none => .ok none
  | some value =>
    match Text.natBelow bound (Text.trim value) with
    | .ok n => .ok (some n)
    | .error cause => .error (.badNumber name cause)

/-- A variable's flag; one that is not set is off. -/
def flagVariable (lookup : Lookup) (name : String) : Except VariableFault Bool :=
  match lookup.text name with
  | none => .ok false
  | some value =>
    let word := Text.lowerAscii (Text.trim value)
    if word ∈ ["1", "true", "yes", "on"] then .ok true
    else if word ∈ ["0", "false", "no", "off"] then .ok false
    else .error (.badFlag name word)

/-- The endpoints that the variables name: those of the list if it is set, or else the single
address. -/
def endpointVariables (lookup : Lookup) : List String :=
  match lookup.text "RABBITMQ_URLS" with
  | some list => Endpoint.parseList list
  | none => ((lookup.text "RABBITMQ_URL").map Endpoint.parseList).getD []

/-- The settings that the variables give. -/
def ofVariables (lookup : Lookup) : Except VariableFault Settings := do
  let endpoints := endpointVariables lookup
  if endpoints.isEmpty then throw .noEndpoint
  let queue := (lookup.text "RABBITMQ_QUEUE").getD defaultQueue
  let reconnect ← numberVariable lookup "RABBITMQ_RECONNECT_DELAY_SECONDS" UInt64.size
  let autoAck ← flagVariable lookup "RABBITMQ_AUTO_ACK"
  let exclusive ← flagVariable lookup "RABBITMQ_EXCLUSIVE"
  let noLocal ← flagVariable lookup "RABBITMQ_NO_LOCAL"
  let count ← numberVariable lookup "RABBITMQ_PREFETCH_COUNT" UInt16.size
  let size ← numberVariable lookup "RABBITMQ_PREFETCH_SIZE" UInt32.size
  let everywhere ← flagVariable lookup "RABBITMQ_PREFETCH_GLOBAL"
  let settings : Settings :=
    { connection :=
        { endpoints
          uri := none
          reconnectSeconds :=
            (reconnect.map UInt64.ofNat).getD ConnectionSettings.standard.reconnectSeconds }
      consumer :=
        { queue, autoAck, exclusive, noLocal
          prefetchCount :=
            (count.map UInt16.ofNat).getD ConsumerSettings.standard.prefetchCount
          prefetchSize := (size.map UInt32.ofNat).getD 0
          prefetchGlobal := everywhere
          arguments := [] }
      publisher :=
        { exchange := (lookup.text "RABBITMQ_EXCHANGE").getD ""
          routingKey := (lookup.text "RABBITMQ_ROUTING_KEY").getD queue } }
  match settings.validate with
  | .ok () => return settings
  | .error cause => throw (.refused cause)

end Settings

end BrokerClient
