import BrokerClient.Consumer.Consuming
import BrokerClient.Publisher.Channel
import BrokerClient.Publisher.Publish
import BrokerClient.Supervisor.Lifecycle
import BrokerClient.Supervisor.Watcher

/-!
# A client at work

A system is a broker with one supervisor, publishers, consumers, and the tasks that are under way.
`System.step` lets one task take one turn.  Nothing is said here about which task comes next: any
order of turns is a run.
-/

namespace BrokerClient

/-- A consumer: its queue, its settings, and the token by which it can be told to stop. -/
structure ConsumerSetup where
  queue : String
  config : ConsumerConfig
  token : Nat

/-- A task and the point that it has come to. -/
inductive Task
  | connect (point : Failover)
  | start (point : Start)
  | shutdown (point : Shutdown)
  | watcher (point : Watcher)
  | publish (publisher : Nat) (event : Event) (point : Publishing)
  | closePublisher (publisher : Nat) (point : ClosePublisher)
  | channelWatch (publisher : Nat) (kept : KeptChannel) (point : ChannelWatch)
  | consume (consumer token : Nat) (point : Consuming)
  /-- Given up before its end. -/
  | dropped

namespace Task

/-- How a call has ended, if it has. -/
def result? : Task → Option (Except BrokerError Unit)
  | connect point => point.result?
  | shutdown point => point.result?
  | publish _ _ point => point.result?
  | closePublisher _ point => point.result?
  | consume _ _ .finished => some (.ok ())
  | _ => none

/-- When a task that waits is to be looked at again, if that is a matter of time. -/
def deadline? : Task → Option Nat
  | connect point => point.deadline?
  | watcher point => point.deadline?
  | publish _ _ point => point.deadline?
  | consume _ _ point => point.deadline?
  | _ => none

/-- Is the task a watcher that has come to its end? -/
def isStoppedWatcher : Task → Bool
  | watcher .stopped => true
  | _ => false

end Task

/-- The part of the client that a log line comes from. -/
inductive Part
  | supervisor
  | publisher (index : Nat)
  | consumer (index : Nat)
  deriving Repr, DecidableEq

/-- A broker with a client and its tasks. -/
structure System where
  broker : Broker
  supervisor : Supervisor
  publishers : List Publisher
  consumers : List ConsumerSetup
  handler : Handler
  /-- The tokens, and whether they have been cancelled. -/
  tokens : List Bool
  ids : IdSource := {}
  tasks : List Task := []
  /-- The log with times. -/
  log : List (Nat × Part × Log.Line) := []
  /-- The calls of the handler with time and consumer. -/
  handled : List (Nat × Nat × Delivery) := []
  /-- The calls that have ended, with their time. -/
  results : List (Nat × Nat × Except BrokerError Unit) := []

namespace System

/-- Adds log lines of a part. -/
def logged (w : System) (part : Part) (lines : List Log.Line) : System :=
  { w with log := w.log ++ lines.map fun line => (w.broker.clock, part, line) }

/-- Begins a task. -/
def spawn (w : System) (task : Task) : System :=
  { w with tasks := w.tasks ++ [task] }

/-- Moves a task to its next point; its end is written down. -/
def moved (w : System) (t : Nat) (task : Task) : System :=
  { w with
    tasks := w.tasks.set t task
    results :=
      match task.result? with
      | some result => w.results ++ [(t, w.broker.clock, result)]
      | none => w.results }

/-- A publisher, and a default one where there is none. -/
def publisherAt (w : System) (i : Nat) : Publisher :=
  (w.publishers[i]?).getD {}

/-- Has a watcher come to its end? -/
def hasEnded (w : System) (t : Nat) : Bool :=
  (w.tasks[t]?).any Task.isStoppedWatcher

/-- What a publisher's task leaves behind. -/
def withPublisher (w : System) (i : Nat) (p : Publisher) (b : Broker) : System :=
  { w with publishers := w.publishers.set i p, broker := b }

/-- What a consumption loop leaves behind. -/
def withConsumeState (w : System) (token : Nat) (state : ConsumeState) : System :=
  { w with
    broker := state.broker
    tokens := w.tokens.set token state.cancelled
    ids := state.ids }

/-- The handler's call is written down. -/
def noteHandled (w : System) (consumer : Nat) (point : Consuming) : System :=
  match point with
  | .received _ _ delivery =>
    { w with handled := w.handled ++ [(w.broker.clock, consumer, delivery)] }
  | _ => w

/-- A start that sets the watcher going. -/
def spawnWatcher (w : System) (point : Start) : System :=
  if point = .spawning then w.spawn (.watcher .starting) else w

/-- A publish that has opened a channel sets a watch over it going. -/
def spawnWatch (w : System) (publisher : Nat) (point : Publishing) : System :=
  match point with
  | .opened _ channel =>
    w.spawn (.channelWatch publisher ⟨(w.publisherAt publisher).opened, channel⟩ .waiting)
  | _ => w

/-- One turn of a task; `none` while the task waits and after its end. -/
def step (w : System) (t : Nat) : Option System :=
  match w.tasks[t]? with
  | none | some .dropped => none
  | some (.connect point) =>
    (point.step w.supervisor w.broker).map fun turn =>
      ({ w with supervisor := turn.state.1, broker := turn.state.2 }.moved t
        (.connect turn.point)).logged .supervisor turn.log
  | some (.start point) =>
    (point.step w.supervisor t w.tasks.length).map fun turn =>
      (({ w with supervisor := turn.state }.moved t (.start turn.point)).spawnWatcher point).logged
        .supervisor turn.log
  | some (.shutdown point) =>
    (point.step w.supervisor w.broker w.hasEnded).map fun turn =>
      ({ w with supervisor := turn.state.1, broker := turn.state.2 }.moved t
        (.shutdown turn.point)).logged .supervisor turn.log
  | some (.watcher point) =>
    (point.step w.supervisor w.broker).map fun turn =>
      ({ w with supervisor := turn.state.1, broker := turn.state.2 }.moved t
        (.watcher turn.point)).logged .supervisor turn.log
  | some (.publish i event point) =>
    (point.step w.supervisor w.broker (w.publisherAt i) t event).map fun turn =>
      (((w.withPublisher i turn.state.1 turn.state.2).moved t
        (.publish i event turn.point)).spawnWatch i point).logged (.publisher i) turn.log
  | some (.closePublisher i point) =>
    (point.step w.broker (w.publisherAt i) t).map fun turn =>
      ((w.withPublisher i turn.state.1 turn.state.2).moved t
        (.closePublisher i turn.point)).logged (.publisher i) turn.log
  | some (.channelWatch i kept point) =>
    (point.step w.broker (w.publisherAt i) t kept).map fun turn =>
      ((w.withPublisher i turn.state w.broker).moved t
        (.channelWatch i kept turn.point)).logged (.publisher i) turn.log
  | some (.consume i token point) =>
    match w.consumers[i]? with
    | none => none
    | some setup =>
      let state : ConsumeState := ⟨w.broker, (w.tokens[token]?).getD true, w.ids⟩
      (point.step w.supervisor setup.config setup.queue w.handler state).map fun turn =>
        (((w.withConsumeState token turn.state).noteHandled i point).moved t
          (.consume i token turn.point)).logged (.consumer i) turn.log

/-- Can the task take a turn? -/
def isReady (w : System) (t : Nat) : Bool :=
  (w.step t).isSome

/-- Gives up a task before its end: what it waits for and what it holds is let go. -/
def drop (w : System) (t : Nat) : System :=
  let w' := { w with tasks := w.tasks.set t .dropped }
  match w.tasks[t]? with
  | some (.publish i _ _) | some (.closePublisher i _) =>
    { w' with publishers := w.publishers.modify i (·.abandoned t) }
  | some (.consume _ _ point) =>
    match point with
    | .listening _ session | .received _ session _ | .handling _ session _ _ _
    | .handled _ session _ _ => { w' with broker := w.broker.hangUp session.subscription }
    | _ => w'
  | _ => w'

/-! ## What happens from outside -/

/-- Something happens at the broker. -/
def atBroker (w : System) (change : Broker → Broker) : System :=
  { w with broker := change w.broker }

/-- Tells the loops that run under a consumer's token to stop. -/
def cancel (w : System) (consumer : Nat) : System :=
  match w.consumers[consumer]? with
  | some setup => { w with tokens := w.tokens.set setup.token true }
  | none => w

/-- Gives a consumer a new token. -/
def renewToken (w : System) (consumer : Nat) : System :=
  { w with
    tokens := w.tokens ++ [false]
    consumers := w.consumers.modify consumer fun setup =>
      { setup with token := w.tokens.length } }

/-- Begins to consume with a consumer's token of now. -/
def beginConsume (w : System) (consumer : Nat) : System :=
  w.spawn (.consume consumer (((w.consumers[consumer]?).map (·.token)).getD 0) .starting)

end System

end BrokerClient
