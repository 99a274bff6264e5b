import BrokerClient.Publisher.Basic

/-!
# Publishing a message

A publish takes the lock, makes sure that there is an open channel, sends the message and gives the
lock back.  Opening and sending are each bounded in time.  If the failure says that the channel has
gone, the channel in the slot is discarded and, after a rest, there is one further attempt.
-/

namespace BrokerClient

/-- Which of the two attempts it is. -/
inductive Attempt
  | first
  | second
  deriving Repr, DecidableEq

/-- The points of a publish. -/
inductive Publishing
  | asking (attempt : Attempt)
  /-- In the queue for the lock. -/
  | queued (attempt : Attempt)
  /-- Has the lock and looks for a channel. -/
  | preparing (attempt : Attempt)
  | opening (attempt : Attempt) (connection : Nat) (wait : Broker.Wait) (deadline : Nat)
  /-- The channel has been opened; the slot is yet to be filled. -/
  | opened (attempt : Attempt) (channel : Nat)
  /-- The channel is there. -/
  | ready (attempt : Attempt) (channel : Nat)
  | sending (attempt : Attempt) (channel : Nat) (wait : Broker.Wait) (deadline : Nat)
  /-- The attempt has failed and the lock has been given back. -/
  | failed (attempt : Attempt) (error : BrokerError)
  | discardAsking
  | discardQueued
  /-- The slot has been emptied; its channel is yet to be closed. -/
  | discarding (channel : Nat)
  | resting (time : Nat)
  | succeeded
  | finished (result : Except BrokerError Unit)

namespace Publishing

def start : Publishing :=
  asking .first

def result? : Publishing → Option (Except BrokerError Unit)
  | finished result => some result
  | _ => none

/-- What a broker records of a message of this publisher. -/
def publication (event : Event) (channel : Nat) : Broker.Publication where
  channel
  exchange := event.exchange
  routingKey := event.routingKey
  mandatory := false
  immediate := false
  message := event.toMessage

/-- The log of a discard whose close fails. -/
private def discardLog (result : Except BrokerError Unit) : List Log.Line :=
  match result with
  | .ok () => []
  | .error e => [Log.debug "Failed to close discarded channel" [("error", e.message)]]

/-- A turn of a publish by the task `me`; `none` while it waits and after its end. -/
def step (s : Supervisor) (b : Broker) (p : Publisher) (me : Nat) (event : Event) :
    Publishing → Option (Turn (Publisher × Broker) Publishing)
  | asking attempt => some ⟨(p.requested me, b), queued attempt, []⟩
  | queued attempt =>
    if p.lock.isHeldBy me then some ⟨(p, b), preparing attempt, []⟩ else none
  | preparing attempt =>
    match p.slot.filter fun kept => !b.channelClosed kept.channel with
    | some kept => some ⟨(p, b), ready attempt kept.channel, []⟩
    | none =>
      let log := p.slot.toList.map fun kept =>
        Log.debug "Cached channel is closed, recreating" [("channel_id", toString kept.id)]
      let p := { p with slot := none }
      match s.open? b with
      | none => some ⟨(p.released, b), failed attempt .notReady, log⟩
      | some connection =>
        match b.beginOpen connection with
        | (b, .error e) => some ⟨(p.released, b), failed attempt e, log⟩
        | (b, .ok wait) =>
          some ⟨(p, b), opening attempt connection wait (b.clock + p.timeout.millis), log⟩
  | opening attempt connection wait deadline =>
    match b.progress wait with
    | .goesOn wait => some ⟨(p, b), opening attempt connection wait deadline, []⟩
    | .passed =>
      let (b, channel) := b.endOpen connection
      some ⟨(p, b), opened attempt channel, []⟩
    | .blocked =>
      if b.clock < deadline then none else some ⟨(p.released, b), failed attempt .elapsed, []⟩
  | opened attempt channel =>
    let id := p.opened + 1
    some ⟨({ p with slot := some ⟨id, channel⟩, opened := id }, b), ready attempt channel,
      [Log.info "Publisher channel created" [("channel_id", toString id)]]⟩
  | ready attempt channel =>
    match b.beginPublish channel with
    | (b, .error e) => some ⟨(p.released, b), failed attempt e, []⟩
    | (b, .ok wait) =>
      some ⟨(p, b), sending attempt channel wait (b.clock + p.timeout.millis), []⟩
  | sending attempt channel wait deadline =>
    match b.progress wait with
    | .goesOn wait => some ⟨(p, b), sending attempt channel wait deadline, []⟩
    | .passed => some ⟨(p.released, b.endPublish (publication event channel)), succeeded, []⟩
    | .blocked =>
      if b.clock < deadline then none else some ⟨(p.released, b), failed attempt .elapsed, []⟩
  | failed attempt e =>
    if attempt = .first && e.isChannelClosed then
      some ⟨(p, b), discardAsking,
        [Log.warn "Channel closed during publish, retrying on a new channel"
          [("message_id", event.messageId), ("error", e.message)]]⟩
    else some ⟨(p, b), finished (.error e), []⟩
  | discardAsking => some ⟨(p.requested me, b), discardQueued, []⟩
  | discardQueued =>
    if p.lock.isHeldBy me then
      some ⟨(p.emptied, b),
        match p.slot with
        | some kept => discarding kept.channel
        | none => resting (b.clock + p.retryDelay.millis), []⟩
    else none
  | discarding channel =>
    let rest := resting (b.clock + p.retryDelay.millis)
    if b.channelClosed channel then some ⟨(p, b), rest, []⟩
    else
      let (b, result) := b.closeChannel channel
      some ⟨(p, b), rest, discardLog result⟩
  | resting time => if b.clock < time then none else some ⟨(p, b), asking .second, []⟩
  | succeeded =>
    some ⟨(p, b), finished (.ok ()),
      [Log.info ("Published message to exchange '" ++ event.exchange ++ "' with routing key '" ++
        event.routingKey ++ "'") [("message_id", event.messageId)]]⟩
  | finished _ => none

/-- The earlier of a wait's time and a deadline. -/
private def earlier (wait : Broker.Wait) (deadline : Nat) : Nat :=
  (wait.deadline?.map fun time => min time deadline).getD deadline

/-- When a publish that waits is to be looked at again. -/
def deadline? : Publishing → Option Nat
  | opening _ _ wait deadline => some (earlier wait deadline)
  | sending _ _ wait deadline => some (earlier wait deadline)
  | resting time => some time
  | _ => none

end Publishing

end BrokerClient
