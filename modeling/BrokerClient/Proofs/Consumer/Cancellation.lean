import BrokerClient.Proofs.Consumer.Requests
import BrokerClient.Proofs.Consumer.Settling

/-!
# What a loop still asks for once it has been told to stop

A loop looks whether its token has been cancelled before it begins a session, while it waits for a
delivery, and while it rests.  It does not look while it sets a session up: a token that is cancelled
in the course of that keeps neither the limits nor the subscription from being asked for, though both
are given up at once.  In every other state all that is still asked for is to settle the delivery at
hand and to close the channel.
-/

namespace BrokerClient

/-- Is it one of the requests by which a session is set up? -/
def Broker.Entry.setsUp : Broker.Entry → Bool
  | .openChannel _ | .qos _ _ | .consume _ => true
  | _ => false

/-- The requests of the loop by which sessions are set up, in order. -/
def setUpOf (path : List LoopTurn) : List Broker.Entry :=
  (requestsOf path).filter Broker.Entry.setsUp

namespace Consuming

/-- Is the loop setting a session up? -/
def isSettingUp : Consuming → Bool
  | opening _ _ _ | limiting _ _ | subscribing _ _ => true
  | _ => false

/-- `point.StillAsks config queue opened asked`: these are requests by which a loop that has been told
to stop at this point may still set its session up, on its channel or on one of those that have been
opened since. -/
def StillAsks (config : ConsumerConfig) (queue : String) (opened : List Nat)
    (asked : List Broker.Entry) : Consuming → Prop
  | opening _ _ _ => asked = [] ∨ ∃ channel ∈ opened, ∃ ids,
      asked <+: [.qos channel config.prefetch,
        .consume (request config queue channel (nextTag config ids).1)]
  | limiting _ channel => ∃ ids,
      asked <+: [.qos channel config.prefetch,
        .consume (request config queue channel (nextTag config ids).1)]
  | subscribing _ channel => ∃ ids,
      asked <+: [.consume (request config queue channel (nextTag config ids).1)]
  | _ => asked = []

/-- `point.WindsUp opened entry`: a request to close the channel of the loop, or one of those that
have been opened since it was at this point, or to settle the delivery that was at hand there. -/
inductive WindsUp (point : Consuming) (opened : List Nat) : Broker.Entry → Prop
  | close {channel : Nat} (hchannel : point.channel? = some channel ∨ channel ∈ opened) :
      WindsUp point opened (.closeChannel channel)
  | settle {delivery : Delivery} {settlement : Settlement}
      (hdelivery : point.delivery? = some delivery) :
      WindsUp point opened (.settle delivery.tag settlement)

theorem stillAsks_nil (config : ConsumerConfig) (queue : String) (point : Consuming) :
    point.StillAsks config queue [] [] := by
  cases point with
  | opening backoff connection wait => exact .inl rfl
  | limiting backoff channel => exact ⟨{}, List.nil_prefix⟩
  | subscribing backoff channel => exact ⟨{}, List.nil_prefix⟩
  | _ => rfl

/-- Whoever is not setting a session up asks for nothing by which one is set up. -/
theorem StillAsks.isSettingUp {config : ConsumerConfig} {queue : String} {opened : List Nat}
    {asked : List Broker.Entry} {point : Consuming}
    (hasks : point.StillAsks config queue opened asked) (hsome : asked ≠ []) :
    point.isSettingUp = true := by
  cases point with
  | opening | limiting | subscribing => rfl
  | _ => exact absurd hasks hsome

end Consuming

/-! ## One turn -/

namespace LoopTurn

variable {config : ConsumerConfig} {queue : String} {m : LoopTurn}

/-- A turn of a loop that has been told to stop: what is asked for in it, and what may be asked for
after it, may be asked for from it on. -/
theorem Advances.stillAsks (hadvances : m.Advances config queue)
    (hcancelled : m.state.cancelled = true) {opened : List Nat} {asked : List Broker.Entry}
    (hrest : m.turn.point.StillAsks config queue opened asked) :
    m.point.StillAsks config queue (m.opened ++ opened)
      (m.requests.filter Broker.Entry.setsUp ++ asked) := by
  have hopened := hadvances.opened_cases
  rw [hadvances.requests_eq]
  obtain ⟨s, handler, state, point, state', point', log⟩ := m
  have hadvance : Consuming.Advance s config queue handler state point state' point' := hadvances
  replace hcancelled : state.cancelled = true := hcancelled
  cases hadvance with
  | notReady hgoesOn | refuseOpen hgoesOn | beginOpen hgoesOn | take hgoesOn | fault hgoesOn
  | endOfStream hgoesOn | rest hgoesOn | again hgoesOn => cases hcancelled.symm.trans hgoesOn
  | cancelLooking =>
      simpa [Consuming.StillAsks, Consuming.asks, hcancelled] using hrest
  | waitOpen hwait =>
      rcases hrest with hnone | ⟨channel, hmem, ids, hprefix⟩
      · exact .inl hnone
      · exact .inr ⟨channel, List.mem_append_right _ hmem, ids, hprefix⟩
  | endOpen hwait =>
      obtain ⟨ids, hprefix⟩ := hrest
      rcases hopened with ⟨_, _, _, _, hpoint', hnew, _⟩ | ⟨_, hkeeps⟩
      · cases hpoint'
        exact .inr ⟨_, List.mem_append_left _ (hnew ▸ List.mem_singleton_self _), ids, hprefix⟩
      · cases hkeeps _ rfl
  | refuseLimits hqos =>
      obtain rfl : asked = [] := hrest
      exact ⟨{}, List.prefix_append [_] _⟩
  | limit hqos =>
      obtain ⟨ids, hprefix⟩ := hrest
      exact ⟨ids, List.prefix_cons_inj _ |>.mpr hprefix⟩
  | refuseSubscribe hconsume =>
      obtain rfl : asked = [] := hrest
      exact ⟨state.ids, List.prefix_rfl⟩
  | subscribe hconsume =>
      obtain rfl : asked = [] := hrest
      exact ⟨state.ids, List.prefix_rfl⟩
  | @settle _ _ _ _ _ after htime => exact hrest
  | conclude =>
      simp only [Consuming.asks]
      split <;> exact hrest
  | leaveChannel hclosed => simpa [Consuming.StillAsks, Consuming.asks, hclosed] using hrest
  | closeChannel hopen =>
      simpa [Consuming.StillAsks, Consuming.asks, hopen, Broker.Entry.setsUp] using hrest
  | _ => exact hrest

/-- Whatever else is asked for in a turn is to close the channel or to settle the delivery. -/
theorem Advances.windsUp (hadvances : m.Advances config queue)
    (hcancelled : m.state.cancelled = true) {entry : Broker.Entry} (hmem : entry ∈ m.requests) :
    entry.setsUp = true ∨ m.point.WindsUp m.opened entry := by
  rw [hadvances.requests_eq] at hmem
  unfold Consuming.asks at hmem
  split at hmem
  · rw [if_pos hcancelled] at hmem
    cases hmem
  · obtain rfl := List.mem_singleton.mp hmem
    exact .inl rfl
  · obtain rfl := List.mem_singleton.mp hmem
    exact .inl rfl
  · rename_i hpoint
    obtain rfl := List.mem_singleton.mp hmem
    exact .inr (.settle (by rw [hpoint]; rfl))
  · rename_i hpoint
    split at hmem
    · cases hmem
    · obtain rfl := List.mem_singleton.mp hmem
      exact .inr (.settle (by rw [hpoint]; rfl))
  · rename_i hpoint
    split at hmem
    · cases hmem
    · obtain rfl := List.mem_singleton.mp hmem
      exact .inr (.close (.inl (by rw [hpoint]; rfl)))
  · cases hmem

/-- A loop that has been told to stop takes no delivery. -/
theorem Advances.delivery_eq (hadvances : m.Advances config queue)
    (hcancelled : m.state.cancelled = true) {delivery : Delivery}
    (hdelivery : m.turn.point.delivery? = some delivery) :
    m.point.delivery? = some delivery := by
  obtain ⟨s, handler, state, point, state', point', log⟩ := m
  have hadvance : Consuming.Advance s config queue handler state point state' point' := hadvances
  replace hcancelled : state.cancelled = true := hcancelled
  cases hadvance with
  | take hgoesOn => cases hcancelled.symm.trans hgoesOn
  | call | finish | sleep | askToStop | settle => exact hdelivery
  | _ => cases hdelivery

end LoopTurn

/-! ## Every path -/

namespace LoopPath

variable {config : ConsumerConfig} {queue : String} {point last : Consuming} {path : List LoopTurn}

theorem stillAsks (hpath : LoopPath config queue point path last)
    (hcancelled : ∀ m ∈ path, m.state.cancelled = true) :
    point.StillAsks config queue (openedOf path) (setUpOf path) := by
  induction hpath with
  | @refl point => exact point.stillAsks_nil config queue
  | @cons point last s handler state turn path hfirst _ ih =>
      rw [List.forall_mem_cons] at hcancelled
      have hadvances : (⟨s, handler, state, point, turn⟩ : LoopTurn).Advances config queue :=
        Consuming.step_advance hfirst
      rw [setUpOf, requestsOf, List.flatMap_cons, List.filter_append]
      exact hadvances.stillAsks hcancelled.1 (ih hcancelled.2)

theorem windsUp (hpath : LoopPath config queue point path last)
    (hcancelled : ∀ m ∈ path, m.state.cancelled = true) :
    ∀ entry ∈ requestsOf path, entry.setsUp = true ∨ point.WindsUp (openedOf path) entry := by
  induction hpath with
  | refl => exact fun entry hmem => absurd hmem List.not_mem_nil
  | @cons point last s handler state turn path hfirst _ ih =>
      rw [List.forall_mem_cons] at hcancelled
      have hadvances : (⟨s, handler, state, point, turn⟩ : LoopTurn).Advances config queue :=
        Consuming.step_advance hfirst
      intro entry hmem
      rw [openedOf, List.flatMap_cons]
      rcases List.mem_append.mp hmem with hfirst | hlater
      · refine (hadvances.windsUp hcancelled.1 hfirst).imp_right fun hwinds => ?_
        cases hwinds with
        | close hchannel => exact .close (hchannel.imp_right (List.mem_append_left _))
        | settle hdelivery => exact .settle hdelivery
      · -- the loop has its channel and its delivery from before, or the channel is new
        refine (ih hcancelled.2 entry hlater).imp_right fun hwinds => ?_
        cases hwinds with
        | settle hdelivery => exact .settle (hadvances.delivery_eq hcancelled.1 hdelivery)
        | @close channel hchannel =>
            rcases hchannel with hhad | hnew
            · rcases hadvances.opened_cases with ⟨backoff, _, _, _, hpoint', hopened, _⟩ |
                ⟨_, hkeeps⟩
              · rw [hpoint'] at hhad
                obtain rfl := Option.some.inj hhad
                exact .close (.inr (List.mem_append_left _
                  (hopened ▸ List.mem_singleton_self _)))
              · exact .close (.inl (hkeeps channel hhad))
            · exact .close (.inr (List.mem_append_right _ hnew))

/-- A loop that is setting a session up asks for something more before it comes to its end. -/
theorem setUpOf_ne_nil (hpath : LoopPath config queue point path .finished)
    (hsettingUp : point.isSettingUp = true) : setUpOf path ≠ [] := by
  generalize hlast : Consuming.finished = last at hpath
  induction hpath with
  | refl =>
      subst hlast
      cases hsettingUp
  | @cons point last s handler state turn path hfirst _ ih =>
      have hadvance := Consuming.step_advance hfirst
      have hadvances : (⟨s, handler, state, point, turn⟩ : LoopTurn).Advances config queue :=
        hadvance
      rw [setUpOf, requestsOf, List.flatMap_cons, List.filter_append, hadvances.requests_eq]
      cases point with
      | opening backoff connection wait =>
          -- the opening goes on or the limits come next
          refine fun hnone => ih ?_ hlast (List.append_eq_nil_iff.mp hnone).2
          generalize turn.state = state', turn.point = point' at hadvance
          cases hadvance <;> rfl
      | limiting backoff channel => exact List.cons_ne_nil _ _
      | subscribing backoff channel => exact List.cons_ne_nil _ _
      | _ => cases hsettingUp

end LoopPath

/-! ## Every run -/

/-- What a loop asks for from a moment on at which its token has been cancelled. -/
structure AsksAfterCancel (config : ConsumerConfig) (queue : String) (point : Consuming)
    (path : List LoopTurn) : Prop where
  /-- Of the requests that set a session up only those that were still to come in the one that was
  being set up. -/
  set_up : point.StillAsks config queue (openedOf path) (setUpOf path)
  /-- And beside those only to settle the delivery at hand and to close the channel. -/
  otherwise : ∀ entry ∈ requestsOf path,
    entry.setsUp = true ∨ point.WindsUp (openedOf path) entry

namespace Run

variable {w₀ w w' : System} {past more : List Moment}

/-- After its token has been cancelled a loop asks for no channel, and for limits and a subscription
only if it has been setting a session up at that moment, and then it does so before it comes to its
end. -/
theorem asksAfterCancel (hmore : Run w more w') {i t token : Nat} {setup : ConsumerSetup}
    {point : Consuming} (hsetup : w.consumers[i]? = some setup)
    (htask : w.tasks[t]? = some (.consume i token point))
    (hcancelled : w.tokens[token]? = some true) :
    AsksAfterCancel setup.config setup.queue point (loopTurns t more) ∧
      (w'.tasks[t]? = some (.consume i token .finished) →
        (setUpOf (loopTurns t more) ≠ [] ↔ point.isSettingUp = true)) := by
  obtain ⟨_, hpath, _⟩ := hmore.loopPath hsetup htask
  have hfound := hmore.loopTurns_cancelled hsetup htask hcancelled
  have hasks := hpath.stillAsks hfound
  refine ⟨⟨hasks, hpath.windsUp hfound⟩, fun hfinished => ⟨hasks.isSettingUp, fun hsettingUp => ?_⟩⟩
  exact (hmore.loopPath_to hsetup htask hfinished).setUpOf_ne_nil hsettingUp

/-- A loop begins to open a channel while no channels are given out. -/
def untilOpening : List Happening :=
  [.call .connect] ++ List.replicate 4 (.turn 0) ++
  [.incident (.setPace .opening { shut := true }), .call (.consume 0)] ++
  List.replicate 2 (.turn 1) ++ [.cancel 0]

/-- Channels are given out again, and the loop comes to its end. -/
def afterOpening : List Happening :=
  .incident (.setPace .opening {}) :: List.replicate 9 (.turn 1)

theorem untilOpening_asks_limits :
    setUpOf (loopTurns 1 (((System.listener.played untilOpening).2).played afterOpening).1) ≠
      [] := by
  have hmore := (System.listener.played untilOpening).2.run_played afterOpening
  have hasks := hmore.asksAfterCancel (i := 0) (t := 1) rfl rfl (by decide)
  exact (hasks.2 rfl).mpr rfl

theorem not_forall_cancelled_asks_nothing :
    ¬ ∀ (w₀ w w' : System) (past more : List Moment) (i t token : Nat) (setup : ConsumerSetup)
        (point : Consuming), Run w₀ past w → w₀.Fresh → Run w more w' →
      Cooperative (past ++ more) → w.consumers[i]? = some setup →
      w.tasks[t]? = some (.consume i token point) → w.tokens[token]? = some true →
      setUpOf (loopTurns t more) = [] := by
  intro hclaim
  have hnone := hclaim _ _ _ _ _ 0 1 0 _ _ (System.listener.run_played untilOpening)
    System.listener_fresh ((System.listener.played untilOpening).2.run_played afterOpening)
    (by decide) rfl rfl (by decide)
  -- the limits and the subscription have been asked for
  have htwo : (setUpOf (loopTurns 1
      (((System.listener.played untilOpening).2).played afterOpening).1)).length = 2 := by decide
  rw [hnone] at htwo
  cases htwo

end Run

end BrokerClient
