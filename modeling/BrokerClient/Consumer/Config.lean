import BrokerClient.Amqp.Table
import BrokerClient.Backoff

/-!
# How a queue is consumed

The settings of one consumption loop: who acknowledges, the arguments and the tag of the
subscription, the prefetch limits and the waits between attempts.
-/

namespace BrokerClient

/-- The limits on messages that are not acknowledged yet; a count of zero is no limit. -/
structure Prefetch where
  count : UInt16
  size : UInt32
  everywhere : Bool
  deriving Repr, DecidableEq

/-- The flags of a subscription. -/
structure ConsumeOptions where
  autoAck : Bool
  exclusive : Bool
  noLocal : Bool
  noWait : Bool
  deriving Repr, DecidableEq

/-- The settings of a consumption loop. -/
structure ConsumerConfig where
  options : ConsumeOptions
  arguments : Amqp.Table
  /-- The tag of every subscription; without one each subscription gets a fresh tag. -/
  tag : Option String
  prefetch : Prefetch
  backoff : BackoffPolicy Float

namespace ConsumerConfig

/-- The settings that hold where nothing else is asked for. -/
def standard : ConsumerConfig where
  options := ⟨false, false, false, false⟩
  arguments := []
  tag := none
  prefetch := ⟨10, 0, false⟩
  backoff := .standard

instance : Inhabited ConsumerConfig := ⟨standard⟩

def withAutoAck (config : ConsumerConfig) (on : Bool) : ConsumerConfig :=
  { config with options := { config.options with autoAck := on } }

def withExclusive (config : ConsumerConfig) (on : Bool) : ConsumerConfig :=
  { config with options := { config.options with exclusive := on } }

def withNoLocal (config : ConsumerConfig) (on : Bool) : ConsumerConfig :=
  { config with options := { config.options with noLocal := on } }

def withNoWait (config : ConsumerConfig) (on : Bool) : ConsumerConfig :=
  { config with options := { config.options with noWait := on } }

def withTag (config : ConsumerConfig) (tag : String) : ConsumerConfig :=
  { config with tag := some tag }

def withPrefetch (config : ConsumerConfig) (prefetch : Prefetch) : ConsumerConfig :=
  { config with prefetch }

/-- Adds one argument; one that was there under the name is replaced. -/
def withArgument (config : ConsumerConfig) (name : String) (value : Amqp.FieldValue) :
    ConsumerConfig :=
  { config with arguments := Fields.insert name value config.arguments }

/-- Replaces all arguments. -/
def withArguments (config : ConsumerConfig) (arguments : Amqp.Table) : ConsumerConfig :=
  { config with arguments }

def withBackoff (config : ConsumerConfig) (backoff : BackoffPolicy Float) : ConsumerConfig :=
  { config with backoff }

end ConsumerConfig

end BrokerClient
