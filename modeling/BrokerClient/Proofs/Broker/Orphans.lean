import BrokerClient.Proofs.Consumer.Requests
import BrokerClient.Proofs.Publisher.Publications

/-!
# Channels that outlive their connection

A connection that closes takes its channels with it.  So an open channel of a closed connection, an
*orphan*, can only have been one from its first moment: no operation and no incident makes an orphan
of a channel that is there.  And the two lists that a broker keeps about its channels, the
connections that they were opened on and the messages that were sent on them, grow at two places
only, at the end of an opening and at the end of a publish.
-/

namespace BrokerClient.Broker

/-- The connections that the channels have been opened on. -/
def origins (b : Broker) : List Nat :=
  b.channels.map (·.connection)

/-- The channel is open, and the connection that it has been opened on is closed. -/
def Orphan (b : Broker) (channel : Nat) : Prop :=
  b.channelClosed channel = false ∧
    ∃ connection, b.connectionOf channel = some connection ∧ b.connectionClosed connection = true

theorem connectionOf_eq (b : Broker) (channel : Nat) :
    b.connectionOf channel = b.origins[channel]? := by
  simp [connectionOf, origins]

@[simp] theorem length_origins (b : Broker) : b.origins.length = b.channels.length := by
  simp [origins]

theorem lt_length_of_channelOpen {b : Broker} {channel : Nat}
    (hopen : b.channelClosed channel = false) : channel < b.channels.length := by
  by_contra hge
  rw [channelClosed, List.getElem?_eq_none (by omega)] at hopen
  simp at hopen

theorem origins_eq_of_channels {b b' : Broker} (hchannels : b'.channels = b.channels) :
    b'.origins = b.origins := by
  rw [origins, hchannels, origins]

theorem publications_eq_of_entries {b b' : Broker} {written : List Entry}
    (hentries : b'.entries = b.entries ++ written)
    (hnothing : written.filterMap Entry.published? = []) : b'.publications = b.publications := by
  rw [publications, hentries, List.filterMap_append, hnothing, List.append_nil, publications]

theorem takeFailure_origins {b b' taken : Broker} {operation : Operation}
    {failure : Option BrokerError} (hsame : b'.origins = b.origins)
    (htake : b'.takeFailure operation = (failure, taken)) : taken.origins = b.origins :=
  (origins_eq_of_channels (takeFailure_channels htake)).trans hsame

/-! ## Closing -/

@[simp] theorem dropChannel_origins (b : Broker) (channel : Nat) (reason : CloseReason) :
    (b.dropChannel channel reason).origins = b.origins := by
  refine List.ext_getElem? fun c => ?_
  simp only [origins, dropChannel, List.getElem?_map, List.getElem?_modify]
  cases b.channels[c]? with
  | none => rfl
  | some found => by_cases heq : channel = c <;> simp [heq]

@[simp] theorem dropConnection_origins (b : Broker) (connection : Nat) (reason : CloseReason) :
    (b.dropConnection connection reason).origins = b.origins := by
  simp only [origins, dropConnection, List.map_map]
  congr 1
  funext found
  simp only [Function.comp_apply]
  split <;> rfl

/-- The channels of a connection close with it, and the others are as they were. -/
theorem channelClosed_dropConnection (b : Broker) (connection : Nat) (reason : CloseReason)
    (c : Nat) :
    (b.dropConnection connection reason).channelClosed c =
      (b.channelClosed c || decide (b.connectionOf c = some connection)) := by
  unfold channelClosed connectionOf dropConnection
  simp only [List.getElem?_map]
  cases hc : b.channels[c]? with
  | none => simp
  | some found =>
      by_cases heq : found.connection = connection <;> simp [heq]

/-! ## What becomes of the channels that are there -/

/-- From one broker to the other nothing has been opened again, the channels that were there are
still those of their connections, and none of them has become an orphan. -/
structure Follows (b b' : Broker) : Prop where
  closed : b.KeepsClosed b'
  origins : b.origins <+: b'.origins
  orphan : ∀ c < b.channels.length, b'.Orphan c → b.Orphan c

/-- Nor has any channel come, and no message has been taken. -/
structure AddsNothing (b b' : Broker) : Prop where
  closed : b.KeepsClosed b'
  origins : b'.origins = b.origins
  publications : b'.publications = b.publications
  orphan : ∀ c, b'.Orphan c → b.Orphan c

namespace Follows

variable {b b' b'' : Broker}

theorem trans (h : b.Follows b') (h' : b'.Follows b'') : b.Follows b'' where
  closed := h.closed.trans h'.closed
  origins := h.origins.trans h'.origins
  orphan c hlt horphan :=
    h.orphan c hlt (h'.orphan c (hlt.trans_le h.closed.channels.length_le) horphan)

/-- A channel that was there is that of its connection still. -/
theorem connectionOf (h : b.Follows b') {c : Nat} (hlt : c < b.channels.length) :
    b'.connectionOf c = b.connectionOf c := by
  obtain ⟨added, hadded⟩ := h.origins
  rw [connectionOf_eq, ← hadded, List.getElem?_append_left (by simpa using hlt), connectionOf_eq]

end Follows

namespace AddsNothing

variable {b b' b'' : Broker}

@[refl] theorem refl (b : Broker) : b.AddsNothing b where
  closed := (KeepsConnections.refl b).keepsClosed
  origins := rfl
  publications := rfl
  orphan _ := id

theorem follows (h : b.AddsNothing b') : b.Follows b' where
  closed := h.closed
  origins := h.origins ▸ List.prefix_rfl
  orphan c _ := h.orphan c

theorem trans (h : b.AddsNothing b') (h' : b'.AddsNothing b'') : b.AddsNothing b'' where
  closed := h.closed.trans h'.closed
  origins := h'.origins.trans h.origins
  publications := h'.publications.trans h.publications
  orphan c horphan := h.orphan c (h'.orphan c horphan)

/-- Where no connection has been closed no channel has lost its own. -/
theorem of_keepsClosed (hkeeps : b.KeepsClosed b')
    (hopen : ∀ k, b'.connectionClosed k = true → b.connectionClosed k = true)
    (horigins : b'.origins = b.origins) (hpublications : b'.publications = b.publications) :
    b.AddsNothing b' where
  closed := hkeeps
  origins := horigins
  publications := hpublications
  orphan c := by
    rintro ⟨hchannel, k, horigin, hclosed⟩
    rw [connectionOf_eq, horigins, ← connectionOf_eq] at horigin
    have hlt : c < b.channels.length := by
      rw [← length_origins, ← horigins, length_origins]
      exact lt_length_of_channelOpen hchannel
    refine ⟨?_, k, horigin, hopen k hclosed⟩
    by_contra hwas
    rw [hkeeps.channels.closed c hlt (by simpa using hwas)] at hchannel
    cases hchannel

theorem of_keepsConnections (hkeeps : b.KeepsConnections b') (horigins : b'.origins = b.origins)
    (hpublications : b'.publications = b.publications) : b.AddsNothing b' :=
  of_keepsClosed hkeeps.keepsClosed
    (fun k hclosed => (hkeeps.connectionClosed k).symm.trans hclosed) horigins hpublications

end AddsNothing

/-! ## Requests -/

section Requests

variable (b : Broker)

@[simp] theorem note_origins (entry : Entry) : (b.note entry).origins = b.origins := rfl

theorem dropConnection_addsNothing (connection : Nat) (reason : CloseReason) :
    b.AddsNothing (b.dropConnection connection reason) where
  closed := (b.dropConnection_mayClose connection reason).keepsClosed
  origins := b.dropConnection_origins connection reason
  publications := rfl
  orphan c := by
    rintro ⟨hchannel, k, horigin, hclosed⟩
    rw [connectionOf_eq, dropConnection_origins, ← connectionOf_eq] at horigin
    rw [channelClosed_dropConnection, Bool.or_eq_false_iff] at hchannel
    -- a channel that is open still is one of another connection
    have hne : k ≠ connection := by
      rintro rfl
      simp [horigin] at hchannel
    rw [connectionClosed_dropConnection, decide_eq_false hne, Bool.or_false] at hclosed
    exact ⟨hchannel.1, k, horigin, hclosed⟩

theorem beginDial_addsNothing (endpoint : String) : b.AddsNothing (b.beginDial endpoint).1 :=
  .of_keepsClosed (b.beginDial_serves endpoint).toKeepsClosed (fun _ => id) rfl
    (publications_eq_of_entries (b.beginDial_entries endpoint) rfl)

theorem endDial_addsNothing (endpoint : String) : b.AddsNothing (b.endDial endpoint).1 := by
  have hpublications : (b.endDial endpoint).1.publications = b.publications := by
    rw [publications, endDial_entries, publications]
  have horigins : (b.endDial endpoint).1.origins = b.origins := by
    unfold endDial
    split <;> rename_i taken htake
    · exact takeFailure_origins rfl htake
    · split <;> exact (takeFailure_origins rfl htake :)
  cases hend : (b.endDial endpoint).2 with
  | ok connection =>
      have hadds : b.AddsConnection (b.endDial endpoint).1 connection := endDial_ok (by rw [← hend])
      refine .of_keepsClosed hadds.keepsClosed (fun k hclosed => ?_) horigins hpublications
      rw [hadds.connectionClosed] at hclosed
      split at hclosed
      · cases hclosed
      · exact hclosed
  | error e => exact .of_keepsConnections (endDial_error (by rw [← hend])) horigins hpublications

theorem closeConnection_addsNothing (connection : Nat) :
    b.AddsNothing (b.closeConnection connection).1 := by
  have hnote := b.note_keepsConnections (.closeConnection connection) rfl
  unfold closeConnection
  split <;> rename_i taken htake
  all_goals
    have htaken : b.AddsNothing taken :=
      .of_keepsConnections (hnote.taken htake) (takeFailure_origins (b.note_origins _) htake)
        (publications_eq_of_entries ((takeFailure_entries _ htake).trans (b.note_entries _)) rfl)
  · exact htaken
  · exact htaken.trans (taken.dropConnection_addsNothing connection .graceful)

theorem beginOpen_addsNothing (connection : Nat) : b.AddsNothing (b.beginOpen connection).1 :=
  .of_keepsConnections (b.beginOpen_keepsConnections connection)
    (origins_eq_of_channels (beginOpen_channels connection))
    (publications_eq_of_entries (b.beginOpen_entries connection) rfl)

theorem closeChannel_addsNothing (channel : Nat) : b.AddsNothing (b.closeChannel channel).1 := by
  refine .of_keepsConnections (b.closeChannel_keepsConnections channel) ?_
    (publications_eq_of_entries (b.closeChannel_entries channel) rfl)
  unfold closeChannel
  split <;> rename_i taken htake
  · exact takeFailure_origins (b.note_origins _) htake
  · exact (taken.dropChannel_origins channel .graceful).trans
      (takeFailure_origins (b.note_origins _) htake)

theorem qos_addsNothing (channel : Nat) (prefetch : Prefetch) :
    b.AddsNothing (b.qos channel prefetch).1 := by
  refine .of_keepsConnections (b.qos_keepsConnections channel prefetch)
    (origins_eq_of_channels (qos_channels channel prefetch)) ?_
  cases hqos : (b.qos channel prefetch).2 with
  | ok granted =>
      exact publications_eq_of_entries (b.qos_entries_of_ok (by rw [← hqos])) rfl
  | error e => exact publications_eq_of_entries (b.qos_entries_of_error (by rw [← hqos])) rfl

theorem beginPublish_addsNothing (channel : Nat) : b.AddsNothing (b.beginPublish channel).1 := by
  refine .of_keepsConnections (b.beginPublish_keepsConnections channel) ?_
    (publications_eq_of_entries (b.beginPublish_entries channel) rfl)
  unfold beginPublish
  simp only
  split
  · rfl
  · split <;> rename_i htake
    · have htaken := takeFailure_origins (b.note_origins _) htake
      split
      · exact (dropChannel_origins _ channel _).trans htaken
      · exact htaken
    · have htaken := takeFailure_origins (b.note_origins _) htake
      split <;> rename_i htake' <;> exact takeFailure_origins htaken htake'

theorem consume_addsNothing (request : SubscribeRequest) :
    b.AddsNothing (b.consume request).1 := by
  refine .of_keepsConnections (b.consume_keepsConnections request)
    (origins_eq_of_channels (consume_channels request)) ?_
  cases hconsume : (b.consume request).2 with
  | ok subscription =>
      exact publications_eq_of_entries (b.consume_entries_of_ok (by rw [← hconsume])) rfl
  | error e =>
      exact publications_eq_of_entries (b.consume_entries_of_error (by rw [← hconsume])) rfl

theorem receive_addsNothing {b' : Broker} {subscription : Nat} {next : Next}
    (hreceive : b.receive subscription = some (b', next)) : b.AddsNothing b' :=
  .of_keepsConnections (b.receive_keepsConnections hreceive)
    (origins_eq_of_channels (receive_channels hreceive))
    (by rw [publications, b.receive_entries hreceive, publications])

theorem hangUp_addsNothing (subscription : Nat) : b.AddsNothing (b.hangUp subscription) :=
  .of_keepsConnections (b.hangUp_keepsConnections subscription) rfl rfl

theorem settle_addsNothing (tag : UInt64) (settlement : Settlement) :
    b.AddsNothing (b.settle tag settlement).1 :=
  .of_keepsConnections (b.settle_keepsConnections tag settlement)
    (origins_eq_of_channels (settle_channels tag settlement))
    (publications_eq_of_entries (b.settle_entries tag settlement) rfl)

theorem after_addsNothing (incident : Incident) : b.AddsNothing (b.after incident) := by
  have hpublications : (b.after incident).publications = b.publications := by
    rw [publications, after_entries, publications]
  have horigins : (b.after incident).origins = b.origins := by
    cases incident with
    | dropConnection connection reason => exact b.dropConnection_origins connection reason
    | dropChannel channel reason => exact b.dropChannel_origins channel reason
    | setPace phase pace => cases phase <;> rfl
    | setReachable endpoint on =>
        simp only [after, setReachable]
        repeat' split
        all_goals rfl
    | send queue item =>
        simp only [after, send]
        repeat' split
        all_goals rfl
    | _ => rfl
  rcases b.after_cases incident with hkeeps | ⟨connection, reason, rfl⟩ | ⟨operation, error, rfl⟩
  · exact .of_keepsConnections hkeeps horigins hpublications
  · exact b.dropConnection_addsNothing connection reason
  · exact .of_keepsClosed (b.after_keepsClosed _) (fun _ => id) horigins hpublications

end Requests

/-! ## What is open at the begin of a request -/

section Begins

variable {b b' : Broker}

theorem connectionOpen_beginOpen {connection : Nat} {wait : Wait}
    (hbegin : b.beginOpen connection = (b', .ok wait)) :
    b'.connectionClosed connection = false := by
  have hkeeps := b.beginOpen_keepsConnections connection
  rw [hbegin] at hkeeps
  unfold beginOpen at hbegin
  simp only at hbegin
  split at hbegin
  · cases hbegin
  · rename_i hopen
    rw [hkeeps.connectionClosed]
    exact Bool.eq_false_iff.mpr hopen

theorem takeFailure_channelClosed {taken : Broker} {operation : Operation}
    {failure : Option BrokerError} (htake : b.takeFailure operation = (failure, taken)) (c : Nat) :
    taken.channelClosed c = b.channelClosed c := by
  rw [channelClosed, takeFailure_channels htake, channelClosed]

theorem channelOpen_beginPublish {channel : Nat} {wait : Wait}
    (hbegin : b.beginPublish channel = (b', .ok wait)) : b'.channelClosed channel = false := by
  unfold beginPublish at hbegin
  simp only at hbegin
  split at hbegin
  · cases hbegin
  · rename_i hopen
    split at hbegin <;> rename_i htake
    · cases hbegin
    · split at hbegin <;> rename_i htake' <;> cases hbegin
      rw [takeFailure_channelClosed htake', takeFailure_channelClosed htake]
      exact Bool.eq_false_iff.mpr hopen

end Begins

/-! ## Where channels and messages come from -/

section Ends

variable (b : Broker)

@[simp] theorem endOpen_origins (connection : Nat) :
    (b.endOpen connection).1.origins = b.origins ++ [connection] := by
  simp [endOpen, origins]

@[simp] theorem endPublish_publications (publication : Publication) :
    (b.endPublish publication).publications = b.publications ++ [publication] := by
  simp [publications, Entry.published?]

theorem endOpen_follows (connection : Nat) : b.Follows (b.endOpen connection).1 where
  closed := (b.endOpen_keepsConnections connection).keepsClosed
  origins := ⟨[connection], (b.endOpen_origins connection).symm⟩
  orphan c hlt := by
    rintro ⟨hchannel, k, horigin, hclosed⟩
    refine ⟨?_, k, ?_, hclosed⟩
    · simpa [channelClosed, endOpen, List.getElem?_append_left hlt] using hchannel
    · simpa [connectionOf, endOpen, List.getElem?_append_left hlt] using horigin

theorem endPublish_follows (publication : Publication) :
    b.Follows (b.endPublish publication) where
  closed := (b.endPublish_keepsConnections publication).keepsClosed
  origins := List.prefix_rfl
  orphan _ _ := id

/-- A channel that has just been opened is open, whatever has become of its connection. -/
theorem orphan_endOpen_iff (connection : Nat) :
    (b.endOpen connection).1.Orphan b.channels.length ↔ b.connectionClosed connection = true := by
  simp [Orphan, endOpen, channelClosed, connectionOf, connectionClosed, CloseNotice.new,
    CloseNotice.isFired]

end Ends

end BrokerClient.Broker
