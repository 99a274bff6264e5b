import BrokerClient.Proofs.Broker.Channels

/-!
# What a broker writes down

The record of a broker only grows.  Each request adds what has been asked and, where the broker may
refuse, what it has granted; nothing else is written down, and nothing is taken back.
-/

namespace BrokerClient.Broker

/-- What the broker has been asked and has granted, in order. -/
def entries (b : Broker) : List Entry :=
  b.record.map Prod.snd

/-- Is it a request for a connection or for the end of one? -/
def Entry.isConnecting : Entry → Bool
  | .dial _ | .closeConnection _ => true
  | _ => false

/-- From one broker to the other nothing but entries of a kind has been written down. -/
def Writes (b b' : Broker) (may : Entry → Bool) : Prop :=
  ∃ written, b'.entries = b.entries ++ written ∧ ∀ entry ∈ written, may entry = true

namespace Writes

variable {b b' : Broker} {may : Entry → Bool}

theorem of_eq (hentries : b'.entries = b.entries) : b.Writes b' may :=
  ⟨[], by rw [hentries, List.append_nil], by simp⟩

theorem of_entry {entry : Entry} (hentries : b'.entries = b.entries ++ [entry])
    (hmay : may entry = true) : b.Writes b' may := by
  refine ⟨[entry], hentries, fun other hmem => ?_⟩
  rwa [List.mem_singleton.mp hmem]

theorem of_entries {asked granted : Entry} (hentries : b'.entries = b.entries ++ [asked, granted])
    (hasked : may asked = true) (hgranted : may granted = true) : b.Writes b' may :=
  ⟨[asked, granted], hentries, by simp [hasked, hgranted]⟩

/-- What is read off entries of another kind stays as it is. -/
theorem filterMap_eq {α : Type} {view : Entry → Option α} (hwrites : b.Writes b' may)
    (hother : ∀ entry, may entry = true → view entry = none) :
    b'.entries.filterMap view = b.entries.filterMap view := by
  obtain ⟨written, hentries, hkind⟩ := hwrites
  have hnothing : written.filterMap view = [] :=
    List.filterMap_eq_nil_iff.mpr fun entry hmem => hother entry (hkind entry hmem)
  rw [hentries, List.filterMap_append, hnothing, List.append_nil]

/-- Nor is anything of another kind among what has been written down. -/
theorem filterMap_drop_eq_nil {α : Type} {view : Entry → Option α} (hwrites : b.Writes b' may)
    (hother : ∀ entry, may entry = true → view entry = none) :
    (b'.entries.drop b.entries.length).filterMap view = [] := by
  obtain ⟨written, hentries, hkind⟩ := hwrites
  rw [hentries, List.drop_left]
  exact List.filterMap_eq_nil_iff.mpr fun entry hmem => hother entry (hkind entry hmem)

/-- Without a request to close a channel there is none on the list. -/
theorem closeLog_eq (hwrites : b.Writes b' may)
    (hother : ∀ channel, may (.closeChannel channel) = false) : b'.closeLog = b.closeLog := by
  have hlog (b : Broker) : b.closeLog = b.entries.filterMap Entry.closed? := by
    rw [entries, List.filterMap_map]
    rfl
  rw [hlog, hlog, hwrites.filterMap_eq]
  intro entry hmay
  cases entry with
  | closeChannel channel =>
      rw [hother] at hmay
      cases hmay
  | _ => rfl

end Writes

/-! ## Requests -/

section Requests

variable (b : Broker) {taken b' : Broker}

@[simp] theorem note_entries (entry : Entry) : (b.note entry).entries = b.entries ++ [entry] := by
  simp [entries, note]

theorem takeFailure_entries {operation : Operation} {failure : Option BrokerError}
    (htake : b.takeFailure operation = (failure, taken)) : taken.entries = b.entries := by
  unfold takeFailure at htake
  split at htake <;> cases htake <;> rfl

@[simp] theorem dropChannel_entries (channel : Nat) (reason : CloseReason) :
    (b.dropChannel channel reason).entries = b.entries := rfl

@[simp] theorem dropConnection_entries (connection : Nat) (reason : CloseReason) :
    (b.dropConnection connection reason).entries = b.entries := rfl

@[simp] theorem hangUp_entries (subscription : Nat) :
    (b.hangUp subscription).entries = b.entries := rfl

@[simp] theorem beginDial_entries (endpoint : String) :
    (b.beginDial endpoint).1.entries = b.entries ++ [.dial endpoint] :=
  b.note_entries _

@[simp] theorem endDial_entries (endpoint : String) :
    (b.endDial endpoint).1.entries = b.entries := by
  unfold endDial
  split <;> rename_i htake
  · exact takeFailure_entries _ htake
  · have hsame := takeFailure_entries b htake
    split <;> exact hsame

@[simp] theorem closeConnection_entries (connection : Nat) :
    (b.closeConnection connection).1.entries = b.entries ++ [.closeConnection connection] := by
  unfold closeConnection
  split <;> rename_i htake
  · rw [takeFailure_entries _ htake, note_entries]
  · rw [dropConnection_entries, takeFailure_entries _ htake, note_entries]

@[simp] theorem beginOpen_entries (connection : Nat) :
    (b.beginOpen connection).1.entries = b.entries ++ [.openChannel connection] := by
  unfold beginOpen
  simp only
  split
  · exact b.note_entries _
  · split <;> rename_i htake
    · rw [takeFailure_entries _ htake, note_entries]
    · split <;> rw [takeFailure_entries _ htake, note_entries]

@[simp] theorem closeChannel_entries (channel : Nat) :
    (b.closeChannel channel).1.entries = b.entries ++ [.closeChannel channel] := by
  unfold closeChannel
  split <;> rename_i htake
  · rw [takeFailure_entries _ htake, note_entries]
  · rw [dropChannel_entries, takeFailure_entries _ htake, note_entries]

@[simp] theorem beginPublish_entries (channel : Nat) :
    (b.beginPublish channel).1.entries = b.entries ++ [.publish channel] := by
  unfold beginPublish
  simp only
  split
  · exact b.note_entries _
  · split <;> rename_i htake
    · split
      · rw [dropChannel_entries, takeFailure_entries _ htake, note_entries]
      · rw [takeFailure_entries _ htake, note_entries]
    · split <;> rename_i htake' <;>
        rw [takeFailure_entries _ htake', takeFailure_entries _ htake, note_entries]

@[simp] theorem endPublish_entries (publication : Publication) :
    (b.endPublish publication).entries = b.entries ++ [.published publication] :=
  b.note_entries _

theorem qos_entries_of_ok {channel : Nat} {prefetch : Prefetch}
    (hqos : b.qos channel prefetch = (b', .ok ())) :
    b'.entries = b.entries ++ [.qos channel prefetch, .qosGranted channel prefetch] := by
  unfold qos at hqos
  simp only at hqos
  split at hqos
  · cases hqos
  · split at hqos <;> rename_i htake <;> cases hqos
    rw [note_entries, takeFailure_entries _ htake, note_entries, List.append_assoc]
    rfl

theorem qos_entries_of_error {channel : Nat} {prefetch : Prefetch} {e : BrokerError}
    (hqos : b.qos channel prefetch = (b', .error e)) :
    b'.entries = b.entries ++ [.qos channel prefetch] := by
  unfold qos at hqos
  simp only at hqos
  split at hqos
  · cases hqos
    exact b.note_entries _
  · split at hqos <;> rename_i htake <;> cases hqos
    rw [takeFailure_entries _ htake, note_entries]

theorem consume_entries_of_ok {request : SubscribeRequest} {subscription : Nat}
    (hconsume : b.consume request = (b', .ok subscription)) :
    b'.entries = b.entries ++ [.consume request, .consumeGranted request] := by
  unfold consume at hconsume
  simp only at hconsume
  split at hconsume
  · cases hconsume
  · split at hconsume <;> rename_i granted htake <;> cases hconsume
    show (granted.note (.consumeGranted request)).entries = _
    rw [note_entries, takeFailure_entries _ htake, note_entries, List.append_assoc]
    rfl

theorem consume_entries_of_error {request : SubscribeRequest} {e : BrokerError}
    (hconsume : b.consume request = (b', .error e)) :
    b'.entries = b.entries ++ [.consume request] := by
  unfold consume at hconsume
  simp only at hconsume
  split at hconsume
  · cases hconsume
    exact b.note_entries _
  · split at hconsume <;> rename_i htake <;> cases hconsume
    rw [takeFailure_entries _ htake, note_entries]

theorem receive_entries {subscription : Nat} {next : Next}
    (hreceive : b.receive subscription = some (b', next)) : b'.entries = b.entries := by
  unfold receive at hreceive
  repeat' split at hreceive
  all_goals cases hreceive <;> rfl

@[simp] theorem settle_entries (tag : UInt64) (settlement : Settlement) :
    (b.settle tag settlement).1.entries = b.entries ++ [.settle tag settlement] := by
  unfold settle
  simp only
  split <;> rename_i htake <;> rw [takeFailure_entries _ htake, note_entries]

/-- Nothing is written down that the client has not asked for. -/
theorem after_entries (incident : Incident) : (b.after incident).entries = b.entries := by
  cases incident with
  | setPace phase pace => cases phase <;> rfl
  | setReachable endpoint on =>
      simp only [after, setReachable]
      repeat' split
      all_goals rfl
  | send queue item =>
      simp only [after, send]
      repeat' split
      all_goals rfl
  | _ => rfl

end Requests

end BrokerClient.Broker
