import BrokerClient.Proofs.Broker.Channels

/-!
# What happens to the connections of a broker

Three operations and one incident touch the connections: the end of a dial adds an open one, and a
close or a drop closes one.  Everything else `KeepsConnections`.  A connection that is closed stays
closed, and one that is open has been so before or is the last.  That channels are kept as well is
shown along with it.
-/

namespace BrokerClient.Broker

/-- The endpoint that an entry of the record says has been dialed. -/
def Entry.dialed? : Entry → Option String
  | .dial endpoint => some endpoint
  | _ => none

/-- The endpoints that have been dialed, in order. -/
def dialLog (b : Broker) : List String :=
  b.record.filterMap fun (_, entry) => entry.dialed?

/-- No operation of a kind is going to fail. -/
def Grants (b : Broker) (operation : Operation) : Prop :=
  ∀ failure ∈ b.failures, failure.1 ≠ operation

/-- No close of a connection is going to fail. -/
def ClosesReliably (b : Broker) : Prop :=
  ∀ failure ∈ b.failures, failure.1 ≠ .closeConnection

/-- From one broker to the other no connection has come, gone or been dialed, and no failure has
been queued. -/
structure KeepsConnections (b b' : Broker) : Prop where
  connections : b'.connections = b.connections
  failures : b'.failures ⊆ b.failures
  dialLog : b'.dialLog = b.dialLog
  channels : b.KeepsChannels b'

namespace KeepsConnections

variable {b b' b'' : Broker}

@[refl] theorem refl (b : Broker) : b.KeepsConnections b :=
  ⟨rfl, fun _ hmem => hmem, rfl, .refl b⟩

theorem trans (h : b.KeepsConnections b') (h' : b'.KeepsConnections b'') :
    b.KeepsConnections b'' :=
  ⟨h'.connections.trans h.connections, fun _ hmem => h.failures (h'.failures hmem),
    h'.dialLog.trans h.dialLog, h.channels.trans h'.channels⟩

/-- A change to the parts of a broker that have nothing to do with its connections. -/
theorem of_eq (hconnections : b'.connections = b.connections) (hfailures : b'.failures = b.failures)
    (hrecord : b'.record = b.record) (hchannels : b.KeepsChannels b') : b.KeepsConnections b' := by
  refine ⟨hconnections, ?_, ?_, hchannels⟩
  · rw [hfailures]
    exact fun _ hmem => hmem
  · unfold Broker.dialLog
    rw [hrecord]

theorem connectionClosed (h : b.KeepsConnections b') (c : Nat) :
    b'.connectionClosed c = b.connectionClosed c := by
  unfold Broker.connectionClosed
  rw [h.connections]

end KeepsConnections

/-! ## Operations that leave the connections alone -/

section Frame

variable (b : Broker)

theorem note_keepsConnections (entry : Entry) (hentry : entry.dialed? = none) :
    b.KeepsConnections (b.note entry) :=
  ⟨rfl, fun _ hmem => hmem, by simp [dialLog, note, hentry], .of_eq rfl⟩

theorem takeFirst_subset {operation : Operation} {queued rest : List (Operation × BrokerError)}
    {error : BrokerError} (h : takeFirst operation queued = some (error, rest)) :
    rest ⊆ queued ∧ (operation, error) ∈ queued := by
  induction queued generalizing rest with
  | nil => simp [takeFirst] at h
  | cons first queued ih =>
      obtain ⟨kind, found⟩ := first
      rw [takeFirst] at h
      split at h
      · rename_i hkind
        cases h
        exact ⟨fun _ hmem => List.mem_cons_of_mem _ hmem, by simp [hkind]⟩
      · obtain ⟨⟨error', rest'⟩, hrest, heq⟩ := Option.map_eq_some_iff.mp h
        cases heq
        obtain ⟨hsubset, hmem⟩ := ih hrest
        exact ⟨List.cons_subset_cons _ hsubset, List.mem_cons_of_mem _ hmem⟩

theorem takeFailure_keepsConnections (operation : Operation) :
    b.KeepsConnections (b.takeFailure operation).2 := by
  unfold takeFailure
  split
  · rename_i error rest htake
    exact ⟨rfl, (takeFirst_subset htake).1, rfl, .of_eq rfl⟩
  · exact .refl b

theorem KeepsConnections.taken {b b' taken : Broker} {operation : Operation}
    {failure : Option BrokerError} (h : b.KeepsConnections b')
    (htake : b'.takeFailure operation = (failure, taken)) : b.KeepsConnections taken := by
  have hkeeps := b'.takeFailure_keepsConnections operation
  rw [htake] at hkeeps
  exact h.trans hkeeps

/-- Where nothing fails there is no failure to take. -/
theorem Grants.takeFailure {b : Broker} {operation : Operation} (hgrants : b.Grants operation) :
    b.takeFailure operation = (none, b) := by
  unfold Broker.takeFailure
  split
  · rename_i error rest htake
    exact absurd rfl (hgrants _ (takeFirst_subset htake).2)
  · rfl

theorem takeFailure_closeConnection {b : Broker} (hreliable : b.ClosesReliably) :
    b.takeFailure .closeConnection = (none, b) :=
  Grants.takeFailure hreliable

theorem dropChannel_keepsConnections (channel : Nat) (reason : CloseReason) :
    b.KeepsConnections (b.dropChannel channel reason) :=
  .of_eq rfl rfl rfl (b.dropChannel_keepsChannels channel reason)

theorem beginOpen_keepsConnections (connection : Nat) :
    b.KeepsConnections (b.beginOpen connection).1 := by
  have hnote := b.note_keepsConnections (.openChannel connection) rfl
  unfold beginOpen
  simp only
  split
  · exact hnote
  · split <;> rename_i htake
    · exact hnote.taken htake
    · split <;> exact hnote.taken htake

theorem endOpen_keepsConnections (connection : Nat) :
    b.KeepsConnections (b.endOpen connection).1 :=
  .of_eq rfl rfl rfl (b.endOpen_keepsChannels connection)

theorem closeChannel_keepsConnections (channel : Nat) :
    b.KeepsConnections (b.closeChannel channel).1 := by
  have hnote := b.note_keepsConnections (.closeChannel channel) rfl
  unfold closeChannel
  split <;> rename_i htake
  · exact hnote.taken htake
  · exact (hnote.taken htake).trans (dropChannel_keepsConnections _ channel _)

theorem qos_keepsConnections (channel : Nat) (prefetch : Prefetch) :
    b.KeepsConnections (b.qos channel prefetch).1 := by
  have hnote := b.note_keepsConnections (.qos channel prefetch) rfl
  unfold qos
  simp only
  split
  · exact hnote
  · split <;> rename_i htake
    · exact hnote.taken htake
    · exact (hnote.taken htake).trans (note_keepsConnections _ _ rfl)

theorem beginPublish_keepsConnections (channel : Nat) :
    b.KeepsConnections (b.beginPublish channel).1 := by
  have hnote := b.note_keepsConnections (.publish channel) rfl
  unfold beginPublish
  simp only
  split
  · exact hnote
  · split <;> rename_i htake
    · split
      · exact (hnote.taken htake).trans (dropChannel_keepsConnections _ channel _)
      · exact hnote.taken htake
    · split <;> rename_i htake'
      · exact (hnote.taken htake).taken htake'
      · exact (hnote.taken htake).taken htake'

theorem endPublish_keepsConnections (publication : Publication) :
    b.KeepsConnections (b.endPublish publication) :=
  b.note_keepsConnections _ rfl

theorem consume_keepsConnections (request : SubscribeRequest) :
    b.KeepsConnections (b.consume request).1 := by
  have hnote := b.note_keepsConnections (.consume request) rfl
  unfold consume
  simp only
  split
  · exact hnote
  · split <;> rename_i htake
    · exact hnote.taken htake
    · have hgranted := (hnote.taken htake).trans
        (note_keepsConnections _ (.consumeGranted request) rfl)
      exact hgranted.trans (.of_eq rfl rfl rfl (.of_eq rfl))

theorem receive_keepsConnections {subscription : Nat} {b' : Broker} {next : Next}
    (h : b.receive subscription = some (b', next)) : b.KeepsConnections b' := by
  unfold receive at h
  repeat' split at h
  all_goals first
    | cases h
      exact .of_eq rfl rfl rfl (.of_eq rfl)
    | cases h

theorem hangUp_keepsConnections (subscription : Nat) :
    b.KeepsConnections (b.hangUp subscription) :=
  .of_eq rfl rfl rfl (.of_eq rfl)

theorem settle_keepsConnections (tag : UInt64) (settlement : Settlement) :
    b.KeepsConnections (b.settle tag settlement).1 := by
  have hnote := b.note_keepsConnections (.settle tag settlement) rfl
  unfold settle
  simp only
  split <;> rename_i htake
  · exact hnote.taken htake
  · exact hnote.taken htake

theorem send_keepsConnections (queue : String) (item : Item) :
    b.KeepsConnections (b.send queue item).2 := by
  unfold send
  split
  · split <;> exact .of_eq rfl rfl rfl (.of_eq rfl)
  · exact .refl b

end Frame

/-! ## Operations on connections -/

/-- What is closed stays closed, and no connection is forgotten. -/
structure KeepsClosed (b b' : Broker) : Prop where
  length_le : b.connections.length ≤ b'.connections.length
  closed : ∀ c < b.connections.length, b.connectionClosed c = true → b'.connectionClosed c = true
  channels : b.KeepsChannels b'

theorem KeepsClosed.trans {b b' b'' : Broker} (h : b.KeepsClosed b') (h' : b'.KeepsClosed b'') :
    b.KeepsClosed b'' :=
  ⟨h.length_le.trans h'.length_le, fun c hlt hclosed =>
    h'.closed c (hlt.trans_le h.length_le) (h.closed c hlt hclosed), h.channels.trans h'.channels⟩

theorem KeepsConnections.keepsClosed {b b' : Broker} (h : b.KeepsConnections b') :
    b.KeepsClosed b' :=
  ⟨by rw [h.connections], fun c _ hclosed => by rw [h.connectionClosed, hclosed], h.channels⟩

theorem lt_length_of_open {b : Broker} {c : Nat} (hopen : b.connectionClosed c = false) :
    c < b.connections.length := by
  by_contra hge
  rw [connectionClosed, List.getElem?_eq_none (by omega)] at hopen
  simp at hopen

@[simp] theorem beginDial_dialLog (b : Broker) (endpoint : String) :
    (b.beginDial endpoint).1.dialLog = b.dialLog ++ [endpoint] := by
  simp [beginDial, note, dialLog, Entry.dialed?]

/-- From one broker to the other a connection has been dialed, which is open and the last. -/
structure AddsConnection (b b' : Broker) (connection : Nat) : Prop where
  eq_length : connection = b.connections.length
  length : b'.connections.length = b.connections.length + 1
  connectionClosed : ∀ c, b'.connectionClosed c =
    if c = connection then false else b.connectionClosed c
  failures : b'.failures ⊆ b.failures
  dialLog : b'.dialLog = b.dialLog
  channels : b.KeepsChannels b'

theorem AddsConnection.keepsClosed {b b' : Broker} {connection : Nat}
    (h : b.AddsConnection b' connection) : b.KeepsClosed b' := by
  refine ⟨by rw [h.length]; omega, fun c hlt hclosed => ?_, h.channels⟩
  have hne : c ≠ connection := by
    have := h.eq_length
    omega
  rw [h.connectionClosed, if_neg hne, hclosed]

theorem endDial_ok {b b' : Broker} {endpoint : String} {connection : Nat}
    (h : b.endDial endpoint = (b', .ok connection)) : b.AddsConnection b' connection := by
  unfold endDial at h
  split at h
  · cases h
  · rename_i taken htake
    have hkeeps := (KeepsConnections.refl b).taken htake
    split at h
    · cases h
      refine ⟨by rw [hkeeps.connections], by simp [hkeeps.connections], fun c => ?_,
        hkeeps.failures, hkeeps.dialLog, hkeeps.channels.trans (.of_eq rfl)⟩
      unfold Broker.connectionClosed
      simp only [hkeeps.connections]
      -- the list has grown by one at its end
      rcases Nat.lt_trichotomy c b.connections.length with hlt | rfl | hgt
      · rw [List.getElem?_append_left hlt, if_neg (by omega)]
      · simp [CloseNotice.new, CloseNotice.isFired]
      · rw [List.getElem?_eq_none (by simp; omega), if_neg (by omega),
          List.getElem?_eq_none (by omega)]
    · cases h

theorem endDial_error {b b' : Broker} {endpoint : String} {e : BrokerError}
    (h : b.endDial endpoint = (b', .error e)) : b.KeepsConnections b' := by
  unfold endDial at h
  split at h
  · rename_i htake
    cases h
    exact (KeepsConnections.refl b).taken htake
  · rename_i htake
    split at h
    · cases h
    · cases h
      exact (KeepsConnections.refl b).taken htake

/-- From one broker to the other a connection may have been closed, and nothing else has happened
to the connections. -/
structure MayClose (b b' : Broker) (connection : Nat) : Prop where
  length : b'.connections.length = b.connections.length
  closed : ∀ c, b.connectionClosed c = true → b'.connectionClosed c = true
  connectionClosed : ∀ c ≠ connection, b'.connectionClosed c = b.connectionClosed c
  failures : b'.failures ⊆ b.failures
  dialLog : b'.dialLog = b.dialLog
  channels : b.KeepsChannels b'

theorem MayClose.keepsClosed {b b' : Broker} {connection : Nat} (h : b.MayClose b' connection) :
    b.KeepsClosed b' :=
  ⟨by rw [h.length], fun c _ hclosed => h.closed c hclosed, h.channels⟩

theorem KeepsConnections.mayClose {b b' : Broker} (h : b.KeepsConnections b') (connection : Nat) :
    b.MayClose b' connection :=
  ⟨by rw [h.connections], fun c hclosed => by rw [h.connectionClosed, hclosed],
    fun c _ => h.connectionClosed c, h.failures, h.dialLog, h.channels⟩

theorem connectionClosed_dropConnection (b : Broker) (connection : Nat) (reason : CloseReason)
    (c : Nat) :
    (b.dropConnection connection reason).connectionClosed c =
      (b.connectionClosed c || decide (c = connection)) := by
  unfold connectionClosed dropConnection
  simp only [List.getElem?_modify]
  cases hc : b.connections[c]? with
  | none => simp
  | some found =>
      by_cases heq : c = connection
      · simp [heq]
      · simp [heq, Ne.symm heq]

theorem dropConnection_mayClose (b : Broker) (connection : Nat) (reason : CloseReason) :
    b.MayClose (b.dropConnection connection reason) connection := by
  refine ⟨by simp [dropConnection], fun c hclosed => ?_, fun c hne => ?_, fun _ hmem => hmem, rfl,
    b.dropConnection_keepsChannels connection reason⟩
  · rw [connectionClosed_dropConnection, hclosed, Bool.true_or]
  · simp [connectionClosed_dropConnection, hne]

theorem closeConnection_mayClose (b : Broker) (connection : Nat) :
    b.MayClose (b.closeConnection connection).1 connection := by
  have hnote := b.note_keepsConnections (.closeConnection connection) rfl
  unfold closeConnection
  split <;> rename_i taken htake
  · exact (hnote.taken htake).mayClose connection
  · have hkeeps := hnote.taken htake
    have hdrop := dropConnection_mayClose taken connection .graceful
    refine ⟨by rw [hdrop.length, hkeeps.connections], fun c hclosed => ?_, fun c hne => ?_,
      fun _ hmem => hkeeps.failures (hdrop.failures hmem), hdrop.dialLog.trans hkeeps.dialLog,
      hkeeps.channels.trans hdrop.channels⟩
    · exact hdrop.closed c (by rw [hkeeps.connectionClosed, hclosed])
    · rw [hdrop.connectionClosed c hne, hkeeps.connectionClosed]

/-- A close that is not made to fail closes the connection. -/
theorem connectionClosed_closeConnection {b : Broker} (connection : Nat)
    (hsucceeds : (b.takeFailure .closeConnection).1 = none) :
    (b.closeConnection connection).1.connectionClosed connection = true := by
  have htakes : ((b.note (.closeConnection connection)).takeFailure .closeConnection).1 = none := by
    unfold takeFailure at hsucceeds ⊢
    unfold note
    simp only
    split <;> simp_all
  unfold closeConnection
  split <;> rename_i htake
  · simp [htake] at htakes
  · simp [connectionClosed_dropConnection]

/-! ## Requests -/

/-- What any request of a client does at most: connections come and are closed, and failures that
were queued are used up. -/
structure Serves (b b' : Broker) : Prop extends KeepsClosed b b' where
  failures : b'.failures ⊆ b.failures

namespace Serves

variable {b b' : Broker} {connection : Nat}

theorem grants {operation : Operation} (h : b.Serves b') (hb : b.Grants operation) :
    b'.Grants operation :=
  fun failure hmem => hb failure (h.failures hmem)

theorem of_keepsConnections (h : b.KeepsConnections b') : b.Serves b' :=
  ⟨h.keepsClosed, h.failures⟩

theorem of_addsConnection (h : b.AddsConnection b' connection) : b.Serves b' :=
  ⟨h.keepsClosed, h.failures⟩

theorem of_mayClose (h : b.MayClose b' connection) : b.Serves b' :=
  ⟨h.keepsClosed, h.failures⟩

end Serves

theorem beginDial_serves (b : Broker) (endpoint : String) : b.Serves (b.beginDial endpoint).1 :=
  ⟨⟨le_rfl, fun _ _ hclosed => hclosed, .of_eq rfl⟩, fun _ hmem => hmem⟩

/-! ## Incidents -/

/-- An incident that is not about a connection or a failure to come keeps the connections. -/
theorem after_cases (b : Broker) (incident : Incident) :
    b.KeepsConnections (b.after incident) ∨
      (∃ connection reason, incident = .dropConnection connection reason) ∨
      ∃ operation error, incident = .queueFailure operation error := by
  cases incident with
  | passTime millis => exact .inl (.of_eq (by rfl) (by rfl) (by rfl) (.of_eq (by rfl)))
  | setReachable endpoint on =>
      refine .inl (.of_eq ?_ ?_ ?_ (.of_eq ?_)) <;> simp only [after, setReachable] <;>
        repeat' split
      all_goals rfl
  | setPace phase pace =>
      cases phase <;> exact .inl (.of_eq (by rfl) (by rfl) (by rfl) (.of_eq (by rfl)))
  | refuseChannels on => exact .inl (.of_eq (by rfl) (by rfl) (by rfl) (.of_eq (by rfl)))
  | queueFailure operation error => exact .inr (.inr ⟨operation, error, rfl⟩)
  | dropConnection connection reason => exact .inr (.inl ⟨connection, reason, rfl⟩)
  | dropChannel channel reason => exact .inl (dropChannel_keepsConnections b channel reason)
  | send queue item => exact .inl (send_keepsConnections b queue item)
  | endFeed queue => exact .inl (.of_eq (by rfl) (by rfl) (by rfl) (.of_eq (by rfl)))

theorem after_length (b : Broker) (incident : Incident) :
    (b.after incident).connections.length = b.connections.length := by
  rcases b.after_cases incident with hkeeps | ⟨connection, reason, rfl⟩ | ⟨operation, error, rfl⟩
  · rw [hkeeps.connections]
  · exact (dropConnection_mayClose b connection reason).length
  · rfl

theorem after_closed (b : Broker) (incident : Incident) {c : Nat}
    (hclosed : b.connectionClosed c = true) : (b.after incident).connectionClosed c = true := by
  rcases b.after_cases incident with hkeeps | ⟨connection, reason, rfl⟩ | ⟨operation, error, rfl⟩
  · rw [hkeeps.connectionClosed, hclosed]
  · exact (dropConnection_mayClose b connection reason).closed c hclosed
  · exact hclosed

theorem after_keepsChannels (b : Broker) (incident : Incident) :
    b.KeepsChannels (b.after incident) := by
  rcases b.after_cases incident with hkeeps | ⟨connection, reason, rfl⟩ | ⟨operation, error, rfl⟩
  · exact hkeeps.channels
  · exact b.dropConnection_keepsChannels connection reason
  · exact .of_eq rfl

theorem after_keepsClosed (b : Broker) (incident : Incident) : b.KeepsClosed (b.after incident) :=
  ⟨(b.after_length incident).ge, fun _ _ hclosed => b.after_closed incident hclosed,
    b.after_keepsChannels incident⟩

theorem after_grants {b : Broker} {incident : Incident} {operation : Operation}
    (hgrants : b.Grants operation) (hincident : ∀ error, incident ≠ .queueFailure operation error) :
    (b.after incident).Grants operation := by
  rcases b.after_cases incident with hkeeps | ⟨connection, reason, rfl⟩ | ⟨kind, error, rfl⟩
  · exact fun failure hmem => hgrants failure (hkeeps.failures hmem)
  · exact hgrants
  · intro failure hmem
    rcases List.mem_append.mp hmem with hmem | hmem
    · exact hgrants failure hmem
    · obtain rfl := List.mem_singleton.mp hmem
      rintro rfl
      exact hincident error rfl

/-! ## Notices -/

section Notices

variable {b b' : Broker}

/-- The notice of every connection has a handle, so that nobody learns of a close before it. -/
def ConnectionNoticesHeld (b : Broker) : Prop :=
  ∀ connection ∈ b.connections, connection.notice.handles ≠ 0

theorem ConnectionNoticesHeld.of_eq (hheld : b.ConnectionNoticesHeld)
    (hconnections : b'.connections = b.connections) : b'.ConnectionNoticesHeld := by
  rwa [ConnectionNoticesHeld, hconnections]

theorem ConnectionNoticesHeld.dropConnection (hheld : b.ConnectionNoticesHeld) (c : Nat)
    (reason : CloseReason) : (b.dropConnection c reason).ConnectionNoticesHeld := by
  intro connection hmem
  obtain ⟨i, hi⟩ := List.getElem?_of_mem hmem
  simp only [Broker.dropConnection, List.getElem?_modify] at hi
  obtain ⟨found, hfound, rfl⟩ := Option.map_eq_some_iff.mp hi
  have hhandles := hheld found (List.mem_of_getElem? hfound)
  by_cases heq : c = i <;> simpa [heq] using hhandles

theorem ConnectionNoticesHeld.closeConnection (hheld : b.ConnectionNoticesHeld) (c : Nat) :
    (b.closeConnection c).1.ConnectionNoticesHeld := by
  have hnote := b.note_keepsConnections (.closeConnection c) rfl
  unfold Broker.closeConnection
  split <;> rename_i htake
  · exact hheld.of_eq (hnote.taken htake).connections
  · exact (hheld.of_eq (hnote.taken htake).connections).dropConnection c .graceful

theorem ConnectionNoticesHeld.endDial (hheld : b.ConnectionNoticesHeld) (endpoint : String) :
    (b.endDial endpoint).1.ConnectionNoticesHeld := by
  unfold Broker.endDial
  split <;> rename_i taken htake
  · exact hheld.of_eq ((KeepsConnections.refl b).taken htake).connections
  · have htaken := hheld.of_eq ((KeepsConnections.refl b).taken htake).connections
    split
    · intro connection hmem
      rcases List.mem_append.mp hmem with hold | hnew
      · exact htaken connection hold
      · rw [List.mem_singleton.mp hnew]
        exact Nat.one_ne_zero
    · exact htaken

/-- Whoever learns of the close of a connection finds it closed. -/
theorem connectionClosed_of_reason (hheld : b.ConnectionNoticesHeld) {c : Nat}
    {reason : CloseReason} (hreason : b.connectionReason? c = some reason) :
    c < b.connections.length ∧ b.connectionClosed c = true := by
  obtain ⟨connection, hc, hclosed⟩ := Option.bind_eq_some_iff.mp hreason
  refine ⟨(List.getElem?_eq_some_iff.mp hc).1, ?_⟩
  have hhandles := hheld connection (List.mem_of_getElem? hc)
  simp only [connectionClosed, hc, Option.map_some, Option.getD_some]
  cases hfired : connection.notice.reason with
  | some _ => simp [CloseNotice.isFired, hfired]
  | none => simp [CloseNotice.closed?, hfired, hhandles] at hclosed

end Notices

end BrokerClient.Broker
