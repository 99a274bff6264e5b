import BrokerClient.Proofs.Consumer.Channels
import BrokerClient.Proofs.Consumer.Settling
import BrokerClient.Proofs.Uuid

/-!
# The protocol of a session

What a consumption loop does at the broker is cut into sessions.  A session does nothing, or asks in
vain for a channel, or gets one and then sets the limits, subscribes, settles deliveries and closes the
channel, each step only if the one before has been granted.  `IsSession` gives the form of a session as
a list, and `Consuming.InSession` how much of it has been done by the point of the loop.
-/

namespace BrokerClient

/-! ## What happens at the broker -/

/-- What happens at the broker for a loop: something is written down, or a channel is there, opened on
a connection. -/
inductive SessionEvent
  | noted (entry : Broker.Entry)
  | opened (connection : Option Nat) (channel : Nat)

/-- What happens at the broker in the turn. -/
def LoopTurn.events (m : LoopTurn) : List SessionEvent :=
  m.written.map SessionEvent.noted ++ m.opened.map fun channel =>
    .opened (m.turn.state.broker.connectionOf channel) channel

/-- What has happened at the broker, session by session. -/
structure SessionLog where
  ended : List (List SessionEvent) := []
  current : List SessionEvent := []

/-- A session ends when the loop takes stock of it. -/
def SessionLog.after (log : SessionLog) (m : LoopTurn) : SessionLog :=
  match m.point with
  | .ended _ _ => ⟨log.ended ++ [log.current], []⟩
  | _ => { log with current := log.current ++ m.events }

/-- The sessions in the course of these turns. -/
def sessionLog (past : List LoopTurn) : SessionLog :=
  past.foldl SessionLog.after {}

theorem sessionLog_concat (past : List LoopTurn) (m : LoopTurn) :
    sessionLog (past ++ [m]) = (sessionLog past).after m := by
  simp [sessionLog]

/-! ## The form of a session -/

/-- A subscription goes by the tag of the settings, or by a new identifier. -/
def IsTag (config : ConsumerConfig) (tag : String) : Prop :=
  config.tag = some tag ∨
    config.tag = none ∧ ∃ id, Uuid.isText id = true ∧ tag = "consumer-" ++ id

/-- What happens on a channel where everything is granted, with these settlements. -/
def acceptedEvents (config : ConsumerConfig) (queue : String) (channel : Nat) (tag : String)
    (settled : List (UInt64 × Settlement)) : List SessionEvent :=
  [.noted (.qos channel config.prefetch), .noted (.qosGranted channel config.prefetch),
    .noted (.consume (Consuming.request config queue channel tag)),
    .noted (.consumeGranted (Consuming.request config queue channel tag))] ++
  settled.map fun (tag, settlement) => .noted (.settle tag settlement)

theorem acceptedEvents_append (config : ConsumerConfig) (queue : String) (channel : Nat)
    (tag : String) (settled : List (UInt64 × Settlement)) (delivery : UInt64)
    (settlement : Settlement) :
    acceptedEvents config queue channel tag settled ++ [.noted (.settle delivery settlement)] =
      acceptedEvents config queue channel tag (settled ++ [(delivery, settlement)]) := by
  simp [acceptedEvents]

/-- What happens on a channel up to its close: the limits are set, and if they are granted a
subscription is asked for, and if that is granted deliveries are settled. -/
inductive OnChannel (config : ConsumerConfig) (queue : String) (channel : Nat) :
    List SessionEvent → Prop
  | limitsRefused : OnChannel config queue channel [.noted (.qos channel config.prefetch)]
  | refused {tag : String} (htag : IsTag config tag) :
      OnChannel config queue channel [.noted (.qos channel config.prefetch),
        .noted (.qosGranted channel config.prefetch),
        .noted (.consume (Consuming.request config queue channel tag))]
  | accepted {tag : String} {settled : List (UInt64 × Settlement)} (htag : IsTag config tag) :
      OnChannel config queue channel (acceptedEvents config queue channel tag settled)

/-- What happens in a session: nothing, a request for a channel that comes to nothing, or all that
happens on the channel that has been opened, and its close unless it has been closed anyway. -/
inductive IsSession (config : ConsumerConfig) (queue : String) : List SessionEvent → Prop
  | idle : IsSession config queue []
  | refused {connection : Nat} : IsSession config queue [.noted (.openChannel connection)]
  | closed {connection channel : Nat} {events closes : List SessionEvent}
      (hevents : OnChannel config queue channel events)
      (hcloses : closes = [] ∨ closes = [.noted (.closeChannel channel)]) :
      IsSession config queue (.noted (.openChannel connection) ::
        .opened (some connection) channel :: (events ++ closes))

/-- A channel may be closed by the broker at any time. -/
theorem OnChannel.isSession {config : ConsumerConfig} {queue : String} {connection channel : Nat}
    {events : List SessionEvent} (hevents : OnChannel config queue channel events) :
    IsSession config queue
      (.noted (.openChannel connection) :: .opened (some connection) channel :: events) := by
  simpa using IsSession.closed hevents (.inl rfl)

theorem isTag_nextTag (config : ConsumerConfig) (ids : IdSource) :
    IsTag config (Consuming.nextTag config ids).1 := by
  unfold IsTag Consuming.nextTag
  cases config.tag with
  | some tag => exact .inl rfl
  | none => exact .inr ⟨rfl, _, ids.isText_next, rfl⟩

namespace Consuming

/-- What has happened in the session under way when the loop is at this point. -/
def InSession (config : ConsumerConfig) (queue : String) (events : List SessionEvent) :
    Consuming → Prop
  | opening _ connection _ => events = [.noted (.openChannel connection)]
  | limiting _ channel => ∃ connection,
      events = [.noted (.openChannel connection), .opened (some connection) channel]
  | subscribing _ channel => ∃ connection,
      events = [.noted (.openChannel connection), .opened (some connection) channel,
        .noted (.qos channel config.prefetch), .noted (.qosGranted channel config.prefetch)]
  | listening _ session | received _ session _ | handling _ session _ _ _
  | handled _ session _ _ => ∃ connection tag settled, IsTag config tag ∧
      events = .noted (.openChannel connection) :: .opened (some connection) session.channel ::
        acceptedEvents config queue session.channel tag settled
  | closing _ channel _ => ∃ connection onChannel, OnChannel config queue channel onChannel ∧
      events = .noted (.openChannel connection) :: .opened (some connection) channel :: onChannel
  | ended _ _ => IsSession config queue events
  | _ => events = []

/-- What has happened in a session under way can be completed to a session. -/
theorem InSession.exists_isSession {config : ConsumerConfig} {queue : String}
    {events : List SessionEvent} {point : Consuming}
    (hin : point.InSession config queue events) :
    ∃ more, IsSession config queue (events ++ more) := by
  cases point with
  | starting | looking | resting | stopping | finished =>
      obtain rfl : events = [] := hin
      exact ⟨[], .idle⟩
  | opening backoff connection wait =>
      obtain rfl := hin
      exact ⟨[], .refused⟩
  | limiting backoff channel =>
      obtain ⟨connection, rfl⟩ := hin
      exact ⟨[.noted (.qos channel config.prefetch)], OnChannel.limitsRefused.isSession⟩
  | subscribing backoff channel =>
      obtain ⟨connection, rfl⟩ := hin
      exact ⟨[.noted (.consume (request config queue channel (nextTag config {}).1))],
        (OnChannel.refused (isTag_nextTag config {})).isSession⟩
  | listening backoff session | received backoff session delivery
  | handling backoff session delivery time work | handled backoff session delivery outcome =>
      obtain ⟨connection, tag, settled, htag, rfl⟩ := hin
      exact ⟨_, .closed (.accepted htag) (.inl rfl)⟩
  | closing backoff channel outcome =>
      obtain ⟨connection, onChannel, honChannel, rfl⟩ := hin
      exact ⟨_, .closed honChannel (.inl rfl)⟩
  | ended backoff outcome => exact ⟨[], by rwa [List.append_nil]⟩

end Consuming

/-! ## One turn -/

namespace LoopTurn

variable {config : ConsumerConfig} {queue : String} {m : LoopTurn} {events : List SessionEvent}

theorem Advances.events_cases (hadvances : m.Advances config queue) :
    (∃ backoff connection wait, m.point = .opening backoff connection wait ∧
        m.turn.point = .limiting backoff m.state.broker.channels.length ∧
        m.events = [.opened (some connection) m.state.broker.channels.length]) ∨
      (m.events = (m.point.asks m.supervisor config queue m.state ++
          m.point.grants config queue m.state.ids m.turn.point).map SessionEvent.noted ∧
        ∀ channel, m.turn.point.channel? = some channel → m.point.channel? = some channel) := by
  rw [events, hadvances.written_eq]
  rcases hadvances.opened_cases with
    ⟨backoff, connection, wait, hpoint, hpoint', hopened, hconnection⟩ | ⟨hopened, hkeeps⟩
  · refine .inl ⟨backoff, connection, wait, hpoint, hpoint', ?_⟩
    simp [hpoint, Consuming.asks, Consuming.grants, hopened, hconnection]
  · exact .inr ⟨by rw [hopened, List.map_nil, List.append_nil], hkeeps⟩

/-- Each turn takes the session under way one step on. -/
theorem Advances.inSession (hadvances : m.Advances config queue)
    (hin : m.point.InSession config queue events)
    (hunder : ∀ backoff outcome, m.point ≠ .ended backoff outcome) :
    m.turn.point.InSession config queue (events ++ m.events) := by
  rcases hadvances.events_cases with ⟨backoff, connection, wait, hpoint, hpoint', hevents⟩ |
    ⟨hevents, hkeeps⟩
  · rw [hpoint] at hin
    obtain rfl : events = [.noted (.openChannel connection)] := hin
    rw [hpoint', hevents]
    exact ⟨connection, rfl⟩
  · rw [hevents]
    obtain ⟨s, handler, state, point, state', point', log⟩ := m
    have hadvance : Consuming.Advance s config queue handler state point state' point' := hadvances
    cases hadvance with
    | start | waitOpen | cancelResting | again | stop =>
        simpa [Consuming.InSession, Consuming.asks, Consuming.grants] using hin
    | cancelLooking hcancelled =>
        simpa [Consuming.InSession, Consuming.asks, Consuming.grants, hcancelled] using hin
    | notReady hgoesOn hconnection =>
        obtain rfl : events = [] := hin
        simpa [Consuming.InSession, Consuming.asks, Consuming.grants, hgoesOn, hconnection] using
          IsSession.idle
    | refuseOpen hgoesOn hconnection hbegin =>
        obtain rfl : events = [] := hin
        simpa [Consuming.InSession, Consuming.asks, Consuming.grants, hgoesOn, hconnection] using
          IsSession.refused
    | beginOpen hgoesOn hconnection hbegin =>
        obtain rfl : events = [] := hin
        simp [Consuming.InSession, Consuming.asks, Consuming.grants, hgoesOn, hconnection]
    | endOpen hwait => cases hkeeps _ rfl
    | refuseLimits hqos =>
        obtain ⟨connection, rfl⟩ := hin
        exact ⟨connection, _, .limitsRefused, rfl⟩
    | limit hqos =>
        obtain ⟨connection, rfl⟩ := hin
        exact ⟨connection, rfl⟩
    | refuseSubscribe hconsume =>
        obtain ⟨connection, rfl⟩ := hin
        exact ⟨connection, _, .refused (isTag_nextTag config state.ids), rfl⟩
    | subscribe hconsume =>
        obtain ⟨connection, rfl⟩ := hin
        exact ⟨connection, _, [], isTag_nextTag config state.ids, rfl⟩
    | cancelListening | fault | endOfStream =>
        -- the session ends, with all that has been granted
        obtain ⟨connection, tag, settled, htag, rfl⟩ := hin
        exact ⟨connection, _, .accepted htag, List.append_nil _⟩
    | take | call | finish | sleep | askToStop =>
        obtain ⟨connection, tag, settled, htag, rfl⟩ := hin
        exact ⟨connection, tag, settled, htag, List.append_nil _⟩
    | settle htime =>
        obtain ⟨connection, tag, settled, htag, rfl⟩ := hin
        exact ⟨connection, tag, _, htag, by
          rw [← acceptedEvents_append]
          rfl⟩
    | conclude =>
        obtain ⟨connection, tag, settled, htag, rfl⟩ := hin
        simp only [Consuming.asks]
        split
        · exact ⟨connection, tag, settled, htag, List.append_nil _⟩
        · exact ⟨connection, tag, _, htag, by
            rw [← acceptedEvents_append]
            rfl⟩
    | leaveChannel hclosed =>
        obtain ⟨connection, onChannel, honChannel, rfl⟩ := hin
        simpa [Consuming.InSession, Consuming.asks, Consuming.grants, hclosed] using
          honChannel.isSession
    | closeChannel hopen =>
        obtain ⟨connection, onChannel, honChannel, rfl⟩ := hin
        simpa [Consuming.InSession, Consuming.asks, Consuming.grants, hopen] using
          IsSession.closed honChannel (.inr rfl)
    | cancelEnded | rest => exact absurd rfl (hunder _ _)

end LoopTurn

/-! ## Connections and tags -/

/-- The tags of the subscriptions that are asked for, each with the number of identifiers that have been
given out before. -/
def LoopTurn.tags (m : LoopTurn) : List (Nat × String) :=
  m.written.filterMap fun
    | .consume request => some (m.state.ids.given, request.tag)
    | _ => none

/-- The tags of all subscriptions that have been asked for, in order. -/
def tagsOf (past : List LoopTurn) : List (Nat × String) :=
  past.flatMap LoopTurn.tags

namespace LoopTurn

variable {config : ConsumerConfig} {queue : String} {m : LoopTurn}

/-- A channel is asked for on the connection in use, which is open. -/
theorem Advances.connection (hadvances : m.Advances config queue) {connection : Nat}
    (hmem : .openChannel connection ∈ m.written) :
    m.supervisor.slot = some connection ∧
      m.state.broker.connectionClosed connection = false := by
  have hasks := hadvances.mem_requests hmem rfl
  unfold Consuming.asks at hasks
  repeat' split at hasks
  all_goals simp at hasks
  simpa [Supervisor.open?] using hasks

/-- Where nothing is asked for, there is no connection in use or it is closed. -/
theorem Advances.no_connection (hadvances : m.Advances config queue) {backoff : Backoff Float}
    (hpoint : m.point = .looking backoff) (hgoesOn : m.state.cancelled = false)
    (hnothing : m.written = []) : m.supervisor.isConnected m.state.broker = false := by
  rw [hadvances.written_eq, hpoint] at hnothing
  have hnone := (List.append_eq_nil_iff.mp hnothing).1
  simp only [Consuming.asks, hgoesOn] at hnone
  unfold Supervisor.isConnected
  split
  · rename_i connection hslot
    simpa [Supervisor.open?, hslot] using hnone
  · rfl

/-- A subscription takes an identifier for its tag, unless its tag is fixed. -/
theorem Advances.tags_cases (hadvances : m.Advances config queue) :
    m.tags = [] ∨ m.tags = [(m.state.ids.given, (Consuming.nextTag config m.state.ids).1)] ∧
      m.turn.state.ids = (Consuming.nextTag config m.state.ids).2 := by
  obtain ⟨s, handler, state, point, state', point', log⟩ := m
  have hadvance : Consuming.Advance s config queue handler state point state' point' := hadvances
  cases point with
  | subscribing backoff channel =>
      rw [tags, hadvances.written_eq]
      cases hadvance <;> exact .inr ⟨rfl, rfl⟩
  | _ =>
      exact .inl (hadvance.writes.filterMap_drop_eq_nil fun entry hmay => by
        cases entry <;> first | rfl | cases hmay)

end LoopTurn

/-- The tags are made from the identifiers whose turn it has been, which have all been given out. -/
structure TagsDrawn (config : ConsumerConfig) (ids : IdSource) (turns : List LoopTurn) : Prop where
  made : ∀ drawn ∈ tagsOf turns,
    drawn.2 = (Consuming.nextTag config { ids with given := drawn.1 }).1
  given : config.tag = none → ∀ drawn ∈ tagsOf turns, drawn.1 < ids.given
  fresh : config.tag = none → (tagsOf turns).Pairwise fun drawn later => drawn.1 < later.1

theorem TagsDrawn.precedes {config : ConsumerConfig} {ids ids' : IdSource} {turns : List LoopTurn}
    (htags : TagsDrawn config ids turns) (hprecedes : ids.Precedes ids') :
    TagsDrawn config ids' turns where
  made drawn hmem := by
    rw [htags.made drawn hmem, hprecedes.seed]
  given hnone drawn hmem := (htags.given hnone drawn hmem).trans_le hprecedes.given_le
  fresh := htags.fresh

theorem TagsDrawn.advance {config : ConsumerConfig} {queue : String} {turns : List LoopTurn}
    {m : LoopTurn} (htags : TagsDrawn config m.state.ids turns)
    (hadvances : m.Advances config queue) :
    TagsDrawn config m.turn.state.ids (turns ++ [m]) := by
  have hkept := htags.precedes (Consuming.Advance.precedes hadvances)
  have hconcat : tagsOf (turns ++ [m]) = tagsOf turns ++ m.tags := by simp [tagsOf]
  rcases hadvances.tags_cases with hnothing | ⟨hdrawn, hids⟩
  · rw [hnothing, List.append_nil] at hconcat
    exact ⟨hconcat ▸ hkept.made, hconcat ▸ hkept.given, hconcat ▸ hkept.fresh⟩
  · -- the identifier that is taken now comes after those that have been
    rw [hdrawn] at hconcat
    refine ⟨fun drawn hmem => ?_, fun hnone drawn hmem => ?_, fun hnone => ?_⟩
    · rw [hconcat] at hmem
      rcases List.mem_append.mp hmem with hold | hnew
      · exact hkept.made drawn hold
      · rw [List.mem_singleton.mp hnew, (Consuming.Advance.precedes hadvances).seed]
    · rw [hconcat] at hmem
      rcases List.mem_append.mp hmem with hold | hnew
      · exact hkept.given hnone drawn hold
      · rw [List.mem_singleton.mp hnew, hids]
        simp [Consuming.nextTag, hnone, IdSource.next]
    · rw [hconcat]
      refine List.pairwise_append.mpr ⟨htags.fresh hnone, List.pairwise_singleton _ _, ?_⟩
      intro drawn hmem later hnew
      rw [List.mem_singleton.mp hnew]
      exact htags.given hnone drawn hmem

/-! ## Every run -/

/-- All that has happened is in a session: those that have ended have the form of one, and the one under
way is what the point of the loop says. -/
structure SessionLog.Fits (log : SessionLog) (config : ConsumerConfig) (queue : String)
    (past : List LoopTurn) (point : Consuming) : Prop where
  ended : ∀ events ∈ log.ended, IsSession config queue events
  current : point.InSession config queue log.current
  complete : past.flatMap LoopTurn.events = log.ended.flatten ++ log.current

theorem SessionLog.Fits.advance {log : SessionLog} {config : ConsumerConfig} {queue : String}
    {past : List LoopTurn} {m : LoopTurn} (hfits : log.Fits config queue past m.point)
    (hadvances : m.Advances config queue) :
    (log.after m).Fits config queue (past ++ [m]) m.turn.point := by
  by_cases hended : ∃ backoff outcome, m.point = .ended backoff outcome
  · -- the session under way is over, and nothing more happens in it
    obtain ⟨backoff, outcome, hpoint⟩ := hended
    have hafter : log.after m = ⟨log.ended ++ [log.current], []⟩ := by rw [after, hpoint]
    have hcurrent := hfits.current
    rw [hpoint] at hcurrent
    have hnext : m.turn.point.InSession config queue [] := by
      obtain ⟨s, handler, state, point, state', point', log⟩ := m
      obtain rfl : point = .ended backoff outcome := hpoint
      have hadvance : Consuming.Advance s config queue handler state (.ended backoff outcome)
        state' point' := hadvances
      cases hadvance <;> rfl
    have hnothing : m.events = [] := by
      rcases hadvances.events_cases with ⟨_, _, _, hopening, _⟩ | ⟨hevents, _⟩
      · cases hpoint.symm.trans hopening
      · rw [hevents, hpoint]
        rfl
    rw [hafter]
    refine ⟨fun events hmem => ?_, hnext, ?_⟩
    · rcases List.mem_append.mp hmem with hold | hnew
      · exact hfits.ended events hold
      · rw [List.mem_singleton.mp hnew]
        exact hcurrent
    · simp [hfits.complete, hnothing]
  · have hunder (backoff : Backoff Float) (outcome : Except BrokerError Nat) :
        m.point ≠ .ended backoff outcome := fun hpoint => hended ⟨backoff, outcome, hpoint⟩
    have hafter : log.after m = { log with current := log.current ++ m.events } := by
      unfold after
      split
      · rename_i hpoint
        exact absurd hpoint (hunder _ _)
      · rfl
    rw [hafter]
    exact ⟨hfits.ended, hadvances.inSession hfits.current hunder, by simp [hfits.complete]⟩

theorem LoopRun.fitsSessions {config : ConsumerConfig} {queue : String} {past : List LoopTurn}
    {point : Consuming} (hrun : LoopRun config queue past point) :
    (sessionLog past).Fits config queue past point := by
  induction hrun with
  | start => exact ⟨nofun, rfl, rfl⟩
  | snoc _ hstep ih =>
      rw [sessionLog_concat]
      exact ih.advance (Consuming.step_advance hstep)

/-- What a loop has done at the broker. -/
structure FollowsProtocol (config : ConsumerConfig) (queue : String) (w : System)
    (turns : List LoopTurn) (point : Consuming) : Prop where
  /-- What has happened is a row of sessions and the one under way. -/
  complete : turns.flatMap LoopTurn.events =
    (sessionLog turns).ended.flatten ++ (sessionLog turns).current
  sessions : ∀ events ∈ (sessionLog turns).ended, IsSession config queue events
  under_way : ∃ more, IsSession config queue ((sessionLog turns).current ++ more)
  /-- A channel is asked for on the connection in use, which is open; and only where there is none, or
  it is closed, does a session ask for nothing. -/
  connection : ∀ m ∈ turns, ∀ connection, .openChannel connection ∈ m.written →
    m.supervisor.slot = some connection ∧ m.state.broker.connectionClosed connection = false
  no_connection : ∀ m ∈ turns, ∀ backoff, m.point = .looking backoff →
    m.state.cancelled = false → m.written = [] → m.supervisor.isConnected m.state.broker = false
  /-- The tag of a subscription is made from the identifier whose turn it is, and if no tag is fixed then
  no identifier is taken twice. -/
  tags : ∀ drawn ∈ tagsOf turns,
    drawn.2 = (Consuming.nextTag config { w.ids with given := drawn.1 }).1
  fresh_tags : config.tag = none → (tagsOf turns).Pairwise fun drawn later => drawn.1 < later.1
  /-- Each channel is new, and none but the one that the session under way works on is open. -/
  fresh_channels : (openedOf turns).Pairwise (· < ·)
  closed : ∀ channel ∈ openedOf turns, point.channel? ≠ some channel →
    w.broker.channelClosed channel = true

namespace Run

variable {w₀ w : System} {past : List Moment} {i t token : Nat} {setup : ConsumerSetup}
  {point : Consuming}

/-- Nobody has made a close fail, and so none has failed. -/
theorem not_failsToClose (hrun : Run w₀ past w) (hloop : LoopRun setup.config setup.queue
      (loopTurns t past) point) (hgrants : w₀.broker.Grants .closeChannel)
    (hcloses : ∀ m ∈ past, m.what.fails .closeChannel = false) :
    ∀ m ∈ loopTurns t past, ∀ channel, ¬ m.FailsToClose channel := by
  intro m hmem channel
  obtain ⟨earlier, before, _, later, heq, hearlier, _, _, hturn⟩ := hrun.of_mem_loopTurns hmem
  have hbefore : before.broker.Grants .closeChannel := hearlier.grants hgrants fun m' hm' =>
    hcloses m' (heq ▸ List.mem_append_left _ hm')
  refine (hloop.advances hmem).not_failsToClose ?_
  rwa [(System.loopTurn?_meets hturn).2]

theorem tagsDrawn (hrun : Run w₀ past w) (hfresh : w₀.Fresh)
    (hsetup : w₀.consumers[i]? = some setup)
    (htask : w.tasks[t]? = some (.consume i token point)) :
    TagsDrawn setup.config w.ids (loopTurns t past) := by
  refine hrun.loop_induction (P := fun w turns _ => TagsDrawn setup.config w.ids turns) hfresh
    hsetup htask (fun _ _ _ => ⟨nofun, nofun, fun _ => .nil⟩) (fun hafter ih => ?_)
    fun {w _ _ point turn} _ hturn _ hids ih => ?_
  · exact ih.precedes (System.after_precedes hafter)
  · rw [hids]
    exact TagsDrawn.advance
      (m := ⟨w.supervisor, w.handler, w.consumeState token, point, turn⟩) ih
      (Consuming.step_advance hturn)

/-- Whatever the broker does, and whatever else happens: what a loop does at the broker is a row of
sessions, each on a channel of its own that is closed before the loop rests or goes on. -/
theorem followsProtocol (hrun : Run w₀ past w) (hfresh : w₀.Fresh)
    (hgrants : w₀.broker.Grants .closeChannel)
    (hcloses : ∀ m ∈ past, m.what.fails .closeChannel = false)
    (hsetup : w₀.consumers[i]? = some setup)
    (htask : w.tasks[t]? = some (.consume i token point)) :
    FollowsProtocol setup.config setup.queue w (loopTurns t past) point := by
  have hloop := hrun.loopRun hfresh hsetup htask
  have hfits := hloop.fitsSessions
  have htags := hrun.tagsDrawn hfresh hsetup htask
  have hfails := hrun.not_failsToClose hloop hgrants hcloses
  exact {
    complete := hfits.complete
    sessions := hfits.ended
    under_way := hfits.current.exists_isSession
    connection := by
      intro m hmem connection
      exact (hloop.advances hmem).connection
    no_connection := by
      intro m hmem backoff
      exact (hloop.advances hmem).no_connection
    tags := htags.made
    fresh_tags := htags.fresh
    fresh_channels := (hrun.channelsOf hfresh hsetup htask).fresh
    closed := by
      intro channel hmem hnot
      by_contra hopen
      exact hnot (hrun.channel_of_open hfresh hsetup htask hfails hmem (by simpa using hopen)) }

/-- The broker refuses the limits of the first session. -/
def refusedLimits : List Happening :=
  [.call .connect] ++ List.replicate 4 (.turn 0) ++
  [.incident (.queueFailure .qos (.channelClosed "x")), .call (.consume 0)] ++
  List.replicate 6 (.turn 1)

theorem refusedLimits_closed :
    0 ∈ openedOf (loopTurns 1 (System.listener.played refusedLimits).1) ∧
      (System.listener.played refusedLimits).2.broker.channelClosed 0 = true := by
  have hfollows := (System.listener.run_played refusedLimits).followsProtocol
    System.listener_fresh (by simp [Broker.Grants, System.listener]) (by decide) (i := 0) (t := 1)
    rfl rfl
  have hopened : 0 ∈ openedOf (loopTurns 1 (System.listener.played refusedLimits).1) := by decide
  exact ⟨hopened, hfollows.closed 0 hopened (by decide)⟩

end Run

end BrokerClient
