import BrokerClient.Proofs.Consumer.Requests

/-!
# The channels of a consumption loop

A loop works on one channel at a time.  Each channel that is opened for it is new to the broker, and
the loop leaves it only after the broker has been asked to close it, or after it has been closed anyway.
So a channel of the loop that is open is the one that it works on, unless the close of it has failed.
-/

namespace BrokerClient

namespace LoopTurn

variable {config : ConsumerConfig} {queue : String} {m : LoopTurn} {channel : Nat}

/-- The broker is asked to close the channel, which is open all the same after the turn. -/
def FailsToClose (m : LoopTurn) (channel : Nat) : Prop :=
  .closeChannel channel ∈ m.written ∧ m.turn.state.broker.channelClosed channel = false

theorem Advances.mem_requests (hadvances : m.Advances config queue) {entry : Broker.Entry}
    (hmem : entry ∈ m.written) (hrequest : entry.isRequest = true) :
    entry ∈ m.point.asks m.supervisor config queue m.state :=
  hadvances.requests_eq ▸ List.mem_filter.mpr ⟨hmem, hrequest⟩

/-- A loop asks to close only a channel that is open. -/
theorem Advances.closing_of_mem (hadvances : m.Advances config queue)
    (hmem : .closeChannel channel ∈ m.written) :
    m.state.broker.channelClosed channel = false ∧
      m.turn.state.broker = (m.state.broker.closeChannel channel).1 := by
  have hasks := hadvances.mem_requests hmem rfl
  obtain ⟨s, handler, state, point, state', point', log⟩ := m
  have hadvance : Consuming.Advance s config queue handler state point state' point' := hadvances
  cases hadvance <;> simp_all [Consuming.asks]

/-- A close that is not made to fail closes the channel. -/
theorem Advances.not_failsToClose (hadvances : m.Advances config queue)
    (hgrants : m.state.broker.Grants .closeChannel) : ¬ m.FailsToClose channel := by
  rintro ⟨hmem, hopen⟩
  obtain ⟨_, hbroker⟩ := hadvances.closing_of_mem hmem
  have hnoted : (m.state.broker.note (.closeChannel channel)).Grants .closeChannel := hgrants
  rw [hbroker, Broker.closeChannel, hnoted.takeFailure] at hopen
  simp at hopen

theorem Advances.keepsChannels (hadvances : m.Advances config queue) :
    m.state.broker.KeepsChannels m.turn.state.broker :=
  (Consuming.Advance.keepsConnections hadvances).channels

/-- A loop leaves its channel only after that has been closed, or after the close of it has failed. -/
theorem Advances.leaves (hadvances : m.Advances config queue)
    (hchannel : m.point.channel? = some channel) :
    m.turn.point.channel? = some channel ∨ m.turn.state.broker.channelClosed channel = true ∨
      m.FailsToClose channel := by
  have hwritten := hadvances.written_eq
  obtain ⟨s, handler, state, point, state', point', log⟩ := m
  have hadvance : Consuming.Advance s config queue handler state point state' point' := hadvances
  cases hadvance with
  | leaveChannel hclosed =>
      obtain rfl := Option.some.inj hchannel
      exact .inr (.inl hclosed)
  | @closeChannel _ closing _ hopen =>
      obtain rfl := Option.some.inj hchannel
      cases hclosed : (state.broker.closeChannel closing).1.channelClosed closing with
      | true => exact .inr (.inl rfl)
      | false => exact .inr (.inr ⟨by rw [hwritten]; simp [Consuming.asks, hopen], hclosed⟩)
  | start | cancelLooking | notReady | refuseOpen | beginOpen | waitOpen | endOpen | cancelEnded
  | rest | cancelResting | again | stop => cases hchannel
  | _ => exact .inl hchannel

end LoopTurn

/-! ## What becomes of the channels -/

/-- The channels that have been opened for a loop, by the turns that it has taken and the point that it
has come to. -/
structure ChannelsOf (b : Broker) (past : List LoopTurn) (point : Consuming) : Prop where
  /-- The channel of the loop has been opened for it. -/
  own : ∀ channel, point.channel? = some channel → channel ∈ openedOf past
  opened : ∀ channel ∈ openedOf past, channel < b.channels.length
  /-- Each channel is new, so that none comes back. -/
  fresh : (openedOf past).Pairwise (· < ·)
  /-- A channel that is open and is not the one of the loop has withstood its close. -/
  closed : ∀ channel ∈ openedOf past, b.channelClosed channel = true ∨
    point.channel? = some channel ∨ ∃ m ∈ past, m.FailsToClose channel

namespace ChannelsOf

variable {b b' : Broker} {past : List LoopTurn} {point : Consuming}

theorem start (b : Broker) : ChannelsOf b [] .starting :=
  ⟨nofun, nofun, .nil, nofun⟩

/-- Nothing that others do opens a channel again. -/
theorem keeps (hchannels : ChannelsOf b past point) (hkeeps : b.KeepsChannels b') :
    ChannelsOf b' past point where
  own := hchannels.own
  opened channel hmem := (hchannels.opened channel hmem).trans_le hkeeps.length_le
  fresh := hchannels.fresh
  closed channel hmem := (hchannels.closed channel hmem).imp_left
    (hkeeps.closed channel (hchannels.opened channel hmem))

theorem openedOf_concat (past : List LoopTurn) (m : LoopTurn) :
    openedOf (past ++ [m]) = openedOf past ++ m.opened := by
  simp [openedOf]

theorem advance {config : ConsumerConfig} {queue : String} {m : LoopTurn}
    (hchannels : ChannelsOf m.state.broker past m.point) (hadvances : m.Advances config queue) :
    ChannelsOf m.turn.state.broker (past ++ [m]) m.turn.point := by
  have hkeeps := hadvances.keepsChannels
  -- what becomes of the channels of before
  have hbefore (channel : Nat) (hmem : channel ∈ openedOf past) :
      m.turn.state.broker.channelClosed channel = true ∨ m.turn.point.channel? = some channel ∨
        ∃ m' ∈ past ++ [m], m'.FailsToClose channel := by
    rcases hchannels.closed channel hmem with hclosed | hown | ⟨m', hmem', hfails⟩
    · exact .inl (hkeeps.closed channel (hchannels.opened channel hmem) hclosed)
    · rcases hadvances.leaves hown with hstill | hclosed | hfails
      · exact .inr (.inl hstill)
      · exact .inl hclosed
      · exact .inr (.inr ⟨m, List.mem_append_right _ (List.mem_singleton_self m), hfails⟩)
    · exact .inr (.inr ⟨m', List.mem_append_left _ hmem', hfails⟩)
  rcases hadvances.opened_cases with ⟨backoff, _, _, _, hpoint', hopened, _⟩ |
    ⟨hopened, hsame⟩
  · -- the new channel is the one of the loop from now on
    have hmem_iff (channel : Nat) : channel ∈ openedOf (past ++ [m]) ↔
        channel ∈ openedOf past ∨ channel = m.state.broker.channels.length := by
      rw [openedOf_concat, hopened, List.mem_append, List.mem_singleton]
    have hlength : m.turn.state.broker.channels.length = m.state.broker.channels.length + 1 := by
      have hone := congrArg List.length hopened
      rw [LoopTurn.opened, List.length_drop, List.length_range, List.length_singleton] at hone
      omega
    refine ⟨fun channel hown => ?_, fun channel hmem => ?_, ?_, fun channel hmem => ?_⟩
    · rw [hpoint'] at hown
      exact (hmem_iff channel).mpr (.inr (Option.some.inj hown).symm)
    · rw [hlength]
      rcases (hmem_iff channel).mp hmem with hold | rfl
      · exact (hchannels.opened channel hold).trans (Nat.lt_succ_self _)
      · exact Nat.lt_succ_self _
    · rw [openedOf_concat, hopened]
      refine List.pairwise_append.mpr ⟨hchannels.fresh, List.pairwise_singleton _ _, ?_⟩
      intro channel hmem other hnew
      rw [List.mem_singleton.mp hnew]
      exact hchannels.opened channel hmem
    · rcases (hmem_iff channel).mp hmem with hold | rfl
      · exact hbefore channel hold
      · exact .inr (.inl (by rw [hpoint']; rfl))
  · have hsame_list : openedOf (past ++ [m]) = openedOf past := by
      rw [openedOf_concat, hopened, List.append_nil]
    refine ⟨fun channel hown => ?_, fun channel hmem => ?_, hsame_list ▸ hchannels.fresh,
      fun channel hmem => hbefore channel (hsame_list ▸ hmem)⟩
    · rw [hsame_list]
      exact hchannels.own channel (hsame channel hown)
    · rw [hsame_list] at hmem
      exact (hchannels.opened channel hmem).trans_le hkeeps.length_le

end ChannelsOf

/-! ## Every run -/

namespace Run

variable {w₀ w : System} {past : List Moment} {i t token : Nat} {setup : ConsumerSetup}
  {point : Consuming}

theorem channelsOf (hrun : Run w₀ past w) (hfresh : w₀.Fresh)
    (hsetup : w₀.consumers[i]? = some setup)
    (htask : w.tasks[t]? = some (.consume i token point)) :
    ChannelsOf w.broker (loopTurns t past) point := by
  refine hrun.loop_induction (P := fun w turns point => ChannelsOf w.broker turns point) hfresh
    hsetup htask (fun _ _ _ => .start _) (fun hafter hchannels => ?_)
    fun {w _ _ point turn} _ hturn hbroker _ hchannels => ?_
  · exact hchannels.keeps (System.after_supervisionChange hafter).keepsClosed.channels
  · rw [hbroker]
    exact ChannelsOf.advance
      (m := ⟨w.supervisor, w.handler, w.consumeState token, point, turn⟩) hchannels
      (Consuming.step_advance hturn)

/-- As long as nobody makes a close fail, a channel of the loop that is open is the one that it works
on. -/
theorem channel_of_open (hrun : Run w₀ past w) (hfresh : w₀.Fresh)
    (hsetup : w₀.consumers[i]? = some setup)
    (htask : w.tasks[t]? = some (.consume i token point))
    (hcloses : ∀ m ∈ loopTurns t past, ∀ channel, ¬ m.FailsToClose channel) {channel : Nat}
    (hmem : channel ∈ openedOf (loopTurns t past))
    (hopen : w.broker.channelClosed channel = false) : point.channel? = some channel := by
  rcases (hrun.channelsOf hfresh hsetup htask).closed channel hmem with hclosed | hown |
    ⟨m, hm, hfails⟩
  · cases hopen.symm.trans hclosed
  · exact hown
  · exact absurd hfails (hcloses m hm channel)

end Run

end BrokerClient
