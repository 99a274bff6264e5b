import BrokerClient.Publisher.Basic

/-!
# The channel of a publisher

Each channel that a publisher opens is watched: once it has closed, the slot is emptied if it still
holds that channel.  A publisher can also be asked to close its channel.
-/

namespace BrokerClient

/-- The points of a watch over a channel. -/
inductive ChannelWatch
  | waiting
  | asking (reason : CloseReason)
  | queued (reason : CloseReason)
  | finished
  deriving Repr, DecidableEq

namespace ChannelWatch

/-- A turn of the watch over a channel by the task `me`; `none` while it waits and after its end. -/
def step (b : Broker) (p : Publisher) (me : Nat) (kept : KeptChannel) :
    ChannelWatch → Option (Turn Publisher ChannelWatch)
  | waiting => (b.channelReason? kept.channel).map fun reason => ⟨p, asking reason, []⟩
  | asking reason => some ⟨p.requested me, queued reason, []⟩
  | queued reason =>
    if p.lock.isHeldBy me then
      if p.slot.any fun current => current.id = kept.id then
        some ⟨p.emptied, finished,
          [Log.debug "Publisher channel closed"
            [("channel_id", toString kept.id), ("reason", reason.message)]]⟩
      else some ⟨p.released, finished, []⟩
    else none
  | finished => none

end ChannelWatch

/-- The points of a request to close a publisher's channel. -/
inductive ClosePublisher
  | asking
  | queued
  /-- The slot has been emptied; its channel is yet to be closed. -/
  | closing (channel : Nat)
  | finished (result : Except BrokerError Unit)

namespace ClosePublisher

def result? : ClosePublisher → Option (Except BrokerError Unit)
  | finished result => some result
  | _ => none

/-- A turn of the request by the task `me`; `none` while it waits and after its end. -/
def step (b : Broker) (p : Publisher) (me : Nat) :
    ClosePublisher → Option (Turn (Publisher × Broker) ClosePublisher)
  | asking => some ⟨(p.requested me, b), queued, []⟩
  | queued =>
    if p.lock.isHeldBy me then
      some ⟨(p.emptied, b),
        match p.slot with
        | some kept => closing kept.channel
        | none => finished (.ok ()), []⟩
    else none
  | closing channel =>
    if b.channelClosed channel then some ⟨(p, b), finished (.ok ()), []⟩
    else
      let (b, result) := b.closeChannel channel
      some ⟨(p, b), finished result, []⟩
  | finished _ => none

end ClosePublisher

end BrokerClient
