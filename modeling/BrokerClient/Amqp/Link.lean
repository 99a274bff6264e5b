import BrokerClient.CloseNotice
import BrokerClient.Error

/-!
# Connections to a server

The client's side of a connection and its channels: the state that the protocol layer has each of
them in, and the notices by which the rest of the client learns that they have gone.

The protocol layer reports an error on a connection or a channel to its notice.  It does not always
report the loss of a connection on each channel, so every channel also has a task that passes the
connection's reason on.
-/

namespace BrokerClient.Amqp

/-- The state of a connection or a channel; one that is not connected never is again. -/
inductive LinkState
  | connected
  | closed
  | failed
  deriving Repr, DecidableEq

/-- The state as error messages name it. -/
def LinkState.name : LinkState → String
  | connected => "Connected"
  | closed => "Closed"
  | failed => "Error"

/-- A channel of a connection. -/
structure LinkChannel where
  number : Nat
  state : LinkState := .connected
  notice : CloseNotice := .new
  /-- Does the task that passes the connection's reason on still wait? -/
  forwarding : Bool := true
  deriving Repr, DecidableEq

/-- A connection with its channels. -/
structure Link where
  endpoint : String
  state : LinkState := .connected
  notice : CloseNotice := .new
  channels : List LinkChannel := []
  /-- The number of the channel opened last. -/
  lastNumber : Nat := 0
  channelMax : Nat := 2047
  deriving Repr, DecidableEq

namespace LinkChannel

def isConnected (c : LinkChannel) : Bool :=
  c.state = .connected

/-- Does the channel count as closed? -/
def isClosed (c : LinkChannel) : Bool :=
  c.notice.isFired || !c.isConnected

/-- The channel once it has left the connected state. -/
def left (c : LinkChannel) (state : LinkState) : LinkChannel :=
  { c with state := if c.isConnected then state else c.state }

/-- The channel once its notice has been fired. -/
def notified (c : LinkChannel) (reason : CloseReason) : LinkChannel :=
  { c with notice := c.notice.fired reason }

/-- The protocol layer reports an error on the channel. -/
def failed (c : LinkChannel) (state : LinkState) (e : TransportError) : LinkChannel :=
  (c.left state).notified (.error e.message)

/-- The client has closed the channel, or tried to. -/
def closed (c : LinkChannel) : LinkChannel :=
  (c.left .closed).notified .graceful

/-- The forwarding task runs: it ends when the channel or the connection has fired, and in the
second case passes the reason on. -/
def forward (parent : CloseNotice) (c : LinkChannel) : LinkChannel :=
  if !c.forwarding then c
  else if c.notice.isFired then { c with forwarding := false }
  else
    match parent.closed? with
    | some reason => { c.notified reason with forwarding := false }
    | none => c

end LinkChannel

namespace Link

def isConnected (l : Link) : Bool :=
  l.state = .connected

/-- Does the connection count as closed? -/
def isClosed (l : Link) : Bool :=
  l.notice.isFired || !l.isConnected

/-- The connection once it has left the connected state. -/
def left (l : Link) (state : LinkState) : Link :=
  { l with state := if l.isConnected then state else l.state }

/-- The connection once its notice has been fired. -/
def notified (l : Link) (reason : CloseReason) : Link :=
  { l with notice := l.notice.fired reason }

/-- The protocol layer reports an error on the connection. -/
def failed (l : Link) (e : TransportError) : Link :=
  (l.left .failed).notified (.error e.message)

/-- The client has closed the connection, or tried to. -/
def closed (l : Link) : Link :=
  (l.left .closed).notified .graceful

/-- Changes the channel at a position. -/
def atChannel (l : Link) (position : Nat) (change : LinkChannel → LinkChannel) : Link :=
  { l with channels := l.channels.modify position change }

/-- Changes every channel that is connected. -/
def atConnected (l : Link) (change : LinkChannel → LinkChannel) : Link :=
  { l with channels := l.channels.map fun c => if c.isConnected then change c else c }

/-- The connection and all its channels fail. -/
def failedThroughout (l : Link) (e : TransportError) : Link :=
  (l.failed e).atConnected (·.failed .failed e)

/-- All channels end with the connection, without an error. -/
def endedThroughout (l : Link) : Link :=
  (l.left .closed).atConnected (·.left .closed)

/-- All forwarding tasks run. -/
def forwardAll (l : Link) : Link :=
  { l with channels := l.channels.map (·.forward l.notice) }

/-- The number for the next channel: numbers are taken in turn, and those in use are passed over. -/
def nextNumber? (l : Link) : Option Nat :=
  let inUse := (l.channels.filter (·.isConnected)).map (·.number)
  let inTurn := (List.range l.channelMax).map fun i => (l.lastNumber + i) % l.channelMax + 1
  inTurn.find? fun number => number ∉ inUse

/-- Adds a channel. -/
def withChannel (l : Link) (number : Nat) : Link :=
  { l with channels := l.channels ++ [{ number }] }

/-- The position of the connected channel with a number. -/
def position? (l : Link) (number : Nat) : Option Nat :=
  l.channels.findIdx? fun c => c.isConnected && c.number = number

end Link

end BrokerClient.Amqp
