import BrokerClient.Proofs.Consumer.Path

/-!
# What a turn of a consumption loop asks for

A turn writes into the record what it asks for, which depends on the point of the loop and on what it
finds there, and then what the broker grants, which shows in the point that the loop comes to.  A
channel is added at the end of an opening and in no other turn.
-/

namespace BrokerClient

/-! ## The channels of a broker -/

namespace Broker

variable {b b' taken : Broker}

/-- A failure that is taken leaves the channels alone. -/
theorem takeFailure_channels {operation : Operation} {failure : Option BrokerError}
    (htake : b.takeFailure operation = (failure, taken)) : taken.channels = b.channels := by
  unfold takeFailure at htake
  split at htake <;> cases htake <;> rfl

theorem beginOpen_channels (connection : Nat) :
    (b.beginOpen connection).1.channels = b.channels := by
  unfold beginOpen
  simp only
  split
  · rfl
  · split <;> rename_i htake
    · exact (takeFailure_channels htake :)
    · split <;> exact (takeFailure_channels htake :)

theorem qos_channels (channel : Nat) (prefetch : Prefetch) :
    (b.qos channel prefetch).1.channels = b.channels := by
  unfold qos
  simp only
  split
  · rfl
  · split <;> rename_i htake <;> exact (takeFailure_channels htake :)

theorem consume_channels (request : SubscribeRequest) :
    (b.consume request).1.channels = b.channels := by
  unfold consume
  simp only
  split
  · rfl
  · split <;> rename_i htake <;> exact (takeFailure_channels htake :)

theorem receive_channels {subscription : Nat} {next : Next}
    (hreceive : b.receive subscription = some (b', next)) : b'.channels = b.channels := by
  unfold receive at hreceive
  repeat' split at hreceive
  all_goals cases hreceive <;> rfl

theorem settle_channels (tag : UInt64) (settlement : Settlement) :
    (b.settle tag settlement).1.channels = b.channels := by
  unfold settle
  simp only
  split <;> rename_i htake <;> exact (takeFailure_channels htake :)

theorem closeChannel_length (channel : Nat) :
    (b.closeChannel channel).1.channels.length = b.channels.length := by
  unfold closeChannel
  split <;> rename_i htake
  · exact congrArg List.length (takeFailure_channels htake :)
  · rw [dropChannel, List.length_modify]
    exact congrArg List.length (takeFailure_channels htake :)

/-- The connection that a channel has been opened on. -/
def connectionOf (b : Broker) (channel : Nat) : Option Nat :=
  (b.channels[channel]?).map (·.connection)

end Broker

/-! ## What is written down -/

namespace Consuming

/-- The channel that the loop has and is yet to close. -/
def channel? : Consuming → Option Nat
  | limiting _ channel | subscribing _ channel | closing _ channel _ => some channel
  | listening _ session | received _ session _ | handling _ session _ _ _
  | handled _ session _ _ => some session.channel
  | _ => none

/-- The delivery that is being dealt with. -/
def delivery? : Consuming → Option Delivery
  | received _ _ delivery | handling _ _ delivery _ _ | handled _ _ delivery _ => some delivery
  | _ => none

/-- What is asked for in a turn at a point. -/
def asks (s : Supervisor) (config : ConsumerConfig) (queue : String) (state : ConsumeState) :
    Consuming → List Broker.Entry
  | looking _ =>
    if state.cancelled then [] else ((s.open? state.broker).map Broker.Entry.openChannel).toList
  | limiting _ channel => [.qos channel config.prefetch]
  | subscribing _ channel => [.consume (request config queue channel (nextTag config state.ids).1)]
  | handling _ _ delivery _ (.settle settlement _) => [.settle delivery.tag settlement]
  | handled _ _ delivery outcome =>
    if config.options.autoAck then [] else [.settle delivery.tag (.ofOutcome outcome)]
  | closing _ channel _ =>
    if state.broker.channelClosed channel then [] else [.closeChannel channel]
  | _ => []

/-- What the broker has granted in a turn from one point to the other. -/
def grants (config : ConsumerConfig) (queue : String) (ids : IdSource) :
    Consuming → Consuming → List Broker.Entry
  | limiting _ channel, subscribing _ _ => [.qosGranted channel config.prefetch]
  | subscribing _ channel, listening _ _ =>
    [.consumeGranted (request config queue channel (nextTag config ids).1)]
  | _, _ => []

section Turns

variable {s : Supervisor} {config : ConsumerConfig} {queue : String} {handler : Handler}
  {state state' : ConsumeState} {point point' : Consuming}

/-- A turn writes down what it asks for and what it is granted. -/
theorem Advance.entries (hadvance : Advance s config queue handler state point state' point') :
    state'.broker.entries = state.broker.entries ++
      (point.asks s config queue state ++ point.grants config queue state.ids point') := by
  cases hadvance with
  | cancelLooking hcancelled => simp [asks, grants, hcancelled]
  | notReady hgoesOn hconnection => simp [asks, grants, hgoesOn, hconnection]
  | @refuseOpen _ connection _ _ hgoesOn hconnection hbegin
  | @beginOpen _ connection _ _ hgoesOn hconnection hbegin =>
      have hentries := state.broker.beginOpen_entries connection
      rw [hbegin] at hentries
      simpa [asks, grants, hgoesOn, hconnection] using hentries
  | endOpen hwait => simp [asks, grants, Broker.endOpen, Broker.entries]
  | refuseLimits hqos => simpa [asks, grants] using Broker.qos_entries_of_error _ hqos
  | limit hqos => simpa [asks, grants] using Broker.qos_entries_of_ok _ hqos
  | refuseSubscribe hconsume =>
      simpa [asks, grants] using Broker.consume_entries_of_error _ hconsume
  | subscribe hconsume => simpa [asks, grants] using Broker.consume_entries_of_ok _ hconsume
  | take hgoesOn hreceive => simpa [asks, grants] using Broker.receive_entries _ hreceive
  | fault hgoesOn hreceive => simpa [asks, grants] using Broker.receive_entries _ hreceive
  | endOfStream hgoesOn hreceive => simpa [asks, grants] using Broker.receive_entries _ hreceive
  | settle htime => simp [asks, grants]
  | conclude => simpa [asks, grants] using conclude_entries config state.broker _ _
  | leaveChannel hclosed => simp [asks, grants, hclosed]
  | closeChannel hopen => simp [asks, grants, hopen]
  | _ => simp [asks, grants]

/-- A channel is added at the end of its opening, and in no other turn. -/
theorem Advance.channels (hadvance : Advance s config queue handler state point state' point') :
    (∃ backoff connection wait, point = opening backoff connection wait ∧
        point' = limiting backoff state.broker.channels.length ∧
        state'.broker.channels = state.broker.channels ++ [⟨connection, .new⟩]) ∨
      (state'.broker.channels.length = state.broker.channels.length ∧
        ∀ channel, point'.channel? = some channel → point.channel? = some channel) := by
  cases hadvance with
  | endOpen hwait => exact .inl ⟨_, _, _, rfl, rfl, rfl⟩
  | @refuseOpen _ connection _ _ _ _ hbegin | @beginOpen _ connection _ _ _ _ hbegin =>
      have hsame := Broker.beginOpen_channels (b := state.broker) connection
      rw [hbegin] at hsame
      exact .inr ⟨by rw [hsame], nofun⟩
  | @refuseLimits _ channel _ _ hqos | @limit _ channel _ hqos =>
      have hsame := Broker.qos_channels (b := state.broker) channel config.prefetch
      rw [hqos] at hsame
      exact .inr ⟨by rw [hsame], fun _ => id⟩
  | @refuseSubscribe _ channel _ _ hconsume | @subscribe _ channel _ _ hconsume =>
      have hsame := Broker.consume_channels (b := state.broker)
        (request config queue channel (nextTag config state.ids).1)
      rw [hconsume] at hsame
      exact .inr ⟨by rw [hsame], fun _ => id⟩
  | take hgoesOn hreceive => exact .inr ⟨by rw [Broker.receive_channels hreceive], fun _ => id⟩
  | fault hgoesOn hreceive =>
      refine .inr ⟨?_, fun _ => id⟩
      show List.length (Broker.channels _) = _
      rw [Broker.hangUp, Broker.receive_channels hreceive]
  | endOfStream hgoesOn hreceive =>
      refine .inr ⟨?_, fun _ => id⟩
      show List.length (Broker.channels _) = _
      rw [Broker.hangUp, Broker.receive_channels hreceive]
  | settle htime => exact .inr ⟨by rw [Broker.settle_channels], fun _ => id⟩
  | conclude =>
      refine .inr ⟨?_, fun _ => id⟩
      rw [conclude_broker]
      split
      · rfl
      · rw [Broker.settle_channels]
  | closeChannel hopen => exact .inr ⟨Broker.closeChannel_length _, nofun⟩
  | leaveChannel hclosed => exact .inr ⟨rfl, nofun⟩
  | _ => exact .inr ⟨rfl, fun _ => id⟩

end Turns

end Consuming

/-- Is it a request, and not something that has been granted? -/
def Broker.Entry.isRequest : Broker.Entry → Bool
  | .qosGranted _ _ | .consumeGranted _ | .published _ => false
  | _ => true

namespace LoopTurn

variable {config : ConsumerConfig} {queue : String} {m : LoopTurn}

/-- What the broker is asked for. -/
def requests (m : LoopTurn) : List Broker.Entry :=
  m.written.filter Broker.Entry.isRequest

/-- The channels that the broker has after the turn and has not had before. -/
def opened (m : LoopTurn) : List Nat :=
  (List.range m.turn.state.broker.channels.length).drop m.state.broker.channels.length

theorem Advances.written_eq (hadvances : m.Advances config queue) :
    m.written = m.point.asks m.supervisor config queue m.state ++
      m.point.grants config queue m.state.ids m.turn.point := by
  rw [written, Consuming.Advance.entries hadvances, List.drop_left]

theorem Advances.requests_eq (hadvances : m.Advances config queue) :
    m.requests = m.point.asks m.supervisor config queue m.state := by
  have hasks : ∀ entry ∈ m.point.asks m.supervisor config queue m.state,
      entry.isRequest = true := by
    intro entry hmem
    unfold Consuming.asks at hmem
    repeat' split at hmem
    all_goals first
      | exact absurd hmem List.not_mem_nil
      | obtain rfl := List.mem_singleton.mp hmem
        rfl
      | obtain ⟨connection, _, rfl⟩ := Option.map_eq_some_iff.mp (Option.mem_toList.mp hmem)
        rfl
  have hgrants : ∀ entry ∈ m.point.grants config queue m.state.ids m.turn.point,
      ¬ entry.isRequest = true := by
    intro entry hmem
    unfold Consuming.grants at hmem
    split at hmem
    · obtain rfl := List.mem_singleton.mp hmem
      exact Bool.false_ne_true
    · obtain rfl := List.mem_singleton.mp hmem
      exact Bool.false_ne_true
    · cases hmem
  rw [requests, hadvances.written_eq, List.filter_append, List.filter_eq_self.mpr hasks,
    List.filter_eq_nil_iff.mpr hgrants, List.append_nil]

/-- A channel is opened at the end of an opening, on the connection of that; in any other turn the loop
at most keeps the one that it has. -/
theorem Advances.opened_cases (hadvances : m.Advances config queue) :
    (∃ backoff connection wait, m.point = .opening backoff connection wait ∧
        m.turn.point = .limiting backoff m.state.broker.channels.length ∧
        m.opened = [m.state.broker.channels.length] ∧
        m.turn.state.broker.connectionOf m.state.broker.channels.length = some connection) ∨
      (m.opened = [] ∧
        ∀ channel, m.turn.point.channel? = some channel → m.point.channel? = some channel) := by
  rcases Consuming.Advance.channels hadvances with
    ⟨backoff, connection, wait, hpoint, hpoint', hchannels⟩ | ⟨hlength, hkeeps⟩
  · refine .inl ⟨backoff, connection, wait, hpoint, hpoint', ?_, ?_⟩
    · rw [opened, hchannels, List.length_append, List.length_singleton, List.range_succ,
        List.drop_left' List.length_range]
    · simp [Broker.connectionOf, hchannels]
  · exact .inr ⟨by rw [opened, hlength, List.drop_of_length_le (by simp)], hkeeps⟩

end LoopTurn

/-- What the broker has been asked for by the loop, in order. -/
def requestsOf (path : List LoopTurn) : List Broker.Entry :=
  path.flatMap LoopTurn.requests

/-- The channels that have been opened for the loop, in order. -/
def openedOf (path : List LoopTurn) : List Nat :=
  path.flatMap LoopTurn.opened

end BrokerClient
