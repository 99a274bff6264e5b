import BrokerClient.Proofs.Consumer.Loop

/-!
# Each delivery is settled once, in its turn

A delivery passes four stations: it is taken off the stream, the handler is called with it, the
handler finishes, and the broker is asked to settle it.  Before each station but the first there is
room for one delivery, and the point of the loop says whether it is there; nothing overtakes and
nothing is left behind.  So whatever happens in between, the lists of what has passed two stations
that follow each other are the same, up to the one delivery between them.
-/

namespace BrokerClient

/-- How the work on a delivery is going to end; `none` if it settles the delivery itself. -/
def Work.outcome? : Work → Option (Except Report Unit)
  | done outcome => some outcome
  | sleep _ after | cancel after => after.outcome?
  | settle _ _ => none

/-- The settlement that an entry of the record says has been asked for. -/
def Broker.Entry.settled? : Broker.Entry → Option (UInt64 × Settlement)
  | .settle tag settlement => some (tag, settlement)
  | _ => none

/-- What is to be asked of the broker once these calls of the handler have finished: one settlement
for each of them, in order, unless the broker takes deliveries as settled anyway. -/
def due (config : ConsumerConfig) (finished : List (Delivery × Except Report Unit)) :
    List (UInt64 × Settlement) :=
  if config.options.autoAck then []
  else finished.map fun (delivery, outcome) => (delivery.tag, .ofOutcome outcome)

theorem due_append (config : ConsumerConfig)
    (finished more : List (Delivery × Except Report Unit)) :
    due config (finished ++ more) = due config finished ++ due config more := by
  unfold due
  split <;> simp

theorem due_nil (config : ConsumerConfig) : due config [] = [] := by
  simp [due]

/-! ## The stations -/

namespace LoopTurn

/-- The delivery that is taken off the stream. -/
def takes? (m : LoopTurn) : Option Delivery :=
  match m.point with
  | .listening _ session =>
    if m.state.cancelled then none
    else
      match m.state.broker.receive session.subscription with
      | some (_, .item (.delivery delivery)) => some delivery
      | _ => none
  | _ => none

/-- The delivery that the handler is called with, and what it is going to do for it. -/
def calls? (m : LoopTurn) : Option (Delivery × Work) :=
  match m.point with
  | .received _ _ delivery => some (delivery, m.handler delivery)
  | _ => none

/-- The delivery that the handler has finished with, and how. -/
def finishes? (m : LoopTurn) : Option (Delivery × Except Report Unit) :=
  match m.point with
  | .handling _ _ delivery _ (.done outcome) => some (delivery, outcome)
  | _ => none

/-- The settlements that the broker is asked for. -/
def settles (m : LoopTurn) : List (UInt64 × Settlement) :=
  m.written.filterMap Broker.Entry.settled?

end LoopTurn

/-- The deliveries that have been taken off the streams, in order. -/
def takenOf (past : List LoopTurn) : List Delivery :=
  past.filterMap LoopTurn.takes?

/-- The calls of the handler, in order. -/
def calledOf (past : List LoopTurn) : List (Delivery × Work) :=
  past.filterMap LoopTurn.calls?

/-- The calls of the handler that have finished, in order. -/
def finishedOf (past : List LoopTurn) : List (Delivery × Except Report Unit) :=
  past.filterMap LoopTurn.finishes?

/-- The settlements that the broker has been asked for, in order. -/
def settledOf (past : List LoopTurn) : List (UInt64 × Settlement) :=
  past.flatMap LoopTurn.settles

theorem takenOf_concat (past : List LoopTurn) (m : LoopTurn) :
    takenOf (past ++ [m]) = takenOf past ++ m.takes?.toList :=
  filterMap_concat _ _ _

theorem calledOf_concat (past : List LoopTurn) (m : LoopTurn) :
    calledOf (past ++ [m]) = calledOf past ++ m.calls?.toList :=
  filterMap_concat _ _ _

theorem finishedOf_concat (past : List LoopTurn) (m : LoopTurn) :
    finishedOf (past ++ [m]) = finishedOf past ++ m.finishes?.toList :=
  filterMap_concat _ _ _

theorem settledOf_concat (past : List LoopTurn) (m : LoopTurn) :
    settledOf (past ++ [m]) = settledOf past ++ m.settles := by
  simp [settledOf]

namespace Consuming

/-- The delivery that the handler is yet to be called with. -/
def toCall : Consuming → List Delivery
  | received _ _ delivery => [delivery]
  | _ => []

/-- The delivery that the handler is at work on, and how that is going to end. -/
def atWork : Consuming → List (Delivery × Option (Except Report Unit))
  | handling _ _ delivery _ work => [(delivery, work.outcome?)]
  | _ => []

/-- The delivery that the handler has finished with and that is yet to be settled. -/
def toSettle : Consuming → List (Delivery × Except Report Unit)
  | handled _ _ delivery outcome => [(delivery, outcome)]
  | _ => []

theorem toCall_of_rests {point : Consuming} (hrests : point.rests = true) : point.toCall = [] := by
  cases point <;> first | rfl | cases hrests

theorem toSettle_of_rests {point : Consuming} (hrests : point.rests = true) :
    point.toSettle = [] := by
  cases point <;> first | rfl | cases hrests

theorem atWork_length_le (point : Consuming) : point.atWork.length ≤ 1 := by
  cases point <;> simp [atWork]

end Consuming

/-! ## One turn -/

namespace LoopTurn

variable {config : ConsumerConfig} {queue : String} {m : LoopTurn}

/-- The handler is called with what has been taken off the stream. -/
theorem Advances.called (hadvances : m.Advances config queue) :
    m.point.toCall ++ m.takes?.toList =
      m.calls?.toList.map Prod.fst ++ m.turn.point.toCall := by
  obtain ⟨s, handler, state, point, state', point', log⟩ := m
  have hadvance : Consuming.Advance s config queue handler state point state' point' := hadvances
  cases hadvance with
  | cancelListening hcancelled => simp [Consuming.toCall, takes?, calls?, hcancelled]
  | take hgoesOn hreceive => simp [Consuming.toCall, takes?, calls?, hgoesOn, hreceive]
  | fault hgoesOn hreceive => simp [Consuming.toCall, takes?, calls?, hgoesOn, hreceive]
  | endOfStream hgoesOn hreceive => simp [Consuming.toCall, takes?, calls?, hgoesOn, hreceive]
  | _ => rfl

/-- The handler finishes with what it has been called with, and in the way that it was going to. -/
theorem Advances.finished (hadvances : m.Advances config queue)
    (hleaves : ∀ work ∈ m.point.atWork, work.2.isSome = true) :
    m.point.atWork ++ m.calls?.toList.map (fun call => (call.1, call.2.outcome?)) =
      m.finishes?.toList.map (fun finished => (finished.1, some finished.2)) ++
        m.turn.point.atWork := by
  obtain ⟨s, handler, state, point, state', point', log⟩ := m
  have hadvance : Consuming.Advance s config queue handler state point state' point' := hadvances
  cases hadvance with
  | settle htime =>
      -- the handler leaves it to the loop to settle the delivery
      cases hleaves _ (List.mem_singleton_self _)
  | _ => rfl

/-- The broker is asked to settle what the handler has finished with, and for nothing else. -/
theorem Advances.settled (hadvances : m.Advances config queue)
    (hleaves : ∀ work ∈ m.point.atWork, work.2.isSome = true) :
    due config (m.point.toSettle ++ m.finishes?.toList) =
      m.settles ++ due config m.turn.point.toSettle := by
  obtain ⟨s, handler, state, point, state', point', log⟩ := m
  have hadvance : Consuming.Advance s config queue handler state point state' point' := hadvances
  cases point with
  | handling backoff session delivery time work =>
      cases hadvance with
      | finish htime => simp [settles, written, finishes?, Consuming.toSettle]
      | sleep htime => simp [settles, written, finishes?, Consuming.toSettle]
      | askToStop htime => simp [settles, written, finishes?, Consuming.toSettle]
      | settle htime => cases hleaves _ (List.mem_singleton_self _)
  | handled backoff session delivery outcome =>
      cases hadvance with
      | conclude =>
          have hentries := Consuming.conclude_entries config state.broker delivery outcome
          cases hauto : config.options.autoAck <;>
            simp [settles, written, finishes?, Consuming.toSettle, due, hentries, hauto,
              Broker.Entry.settled?]
  | _ =>
      have hnone : (state'.broker.entries.drop state.broker.entries.length).filterMap
          Broker.Entry.settled? = [] :=
        hadvance.writes.filterMap_drop_eq_nil fun entry hmay => by
          cases entry <;> first | rfl | cases hmay
      rw [settles, written, hnone]
      cases hadvance <;> simp [finishes?, Consuming.toSettle]

end LoopTurn

/-! ## Every run -/

/-- Between two stations is what the point of the loop names. -/
structure Stations (config : ConsumerConfig) (past : List LoopTurn) (point : Consuming) : Prop where
  called : takenOf past = (calledOf past).map Prod.fst ++ point.toCall
  finished : (calledOf past).map (fun call => (call.1, call.2.outcome?)) =
    (finishedOf past).map (fun finished => (finished.1, some finished.2)) ++ point.atWork
  settled : due config (finishedOf past) = settledOf past ++ due config point.toSettle

/-- What the handler is at work on is among what it has been called with. -/
theorem Stations.leaves {config : ConsumerConfig} {past : List LoopTurn} {point : Consuming}
    (hstations : Stations config past point)
    (hleaves : ∀ call ∈ calledOf past, call.2.outcome?.isSome = true) :
    ∀ work ∈ point.atWork, work.2.isSome = true := by
  intro work hwork
  have hmem : work ∈ (calledOf past).map fun call => (call.1, call.2.outcome?) := by
    rw [hstations.finished]
    exact List.mem_append_right _ hwork
  obtain ⟨call, hcall, rfl⟩ := List.mem_map.mp hmem
  exact hleaves call hcall

theorem Stations.advance {config : ConsumerConfig} {queue : String} {past : List LoopTurn}
    {m : LoopTurn} (hstations : Stations config past m.point) (hadvances : m.Advances config queue)
    (hleaves : ∀ call ∈ calledOf past, call.2.outcome?.isSome = true) :
    Stations config (past ++ [m]) m.turn.point := by
  have hwork := hstations.leaves hleaves
  refine ⟨?_, ?_, ?_⟩
  · calc takenOf (past ++ [m])
      _ = (calledOf past).map Prod.fst ++ (m.point.toCall ++ m.takes?.toList) := by
          rw [takenOf_concat, hstations.called, List.append_assoc]
      _ = (calledOf (past ++ [m])).map Prod.fst ++ m.turn.point.toCall := by
          rw [hadvances.called, calledOf_concat, List.map_append, List.append_assoc]
  · calc (calledOf (past ++ [m])).map (fun call => (call.1, call.2.outcome?))
      _ = (finishedOf past).map (fun finished => (finished.1, some finished.2)) ++
            (m.point.atWork ++ m.calls?.toList.map fun call => (call.1, call.2.outcome?)) := by
          rw [calledOf_concat, List.map_append, hstations.finished, List.append_assoc]
      _ = (finishedOf (past ++ [m])).map (fun finished => (finished.1, some finished.2)) ++
            m.turn.point.atWork := by
          rw [hadvances.finished hwork, finishedOf_concat, List.map_append, List.append_assoc]
  · calc due config (finishedOf (past ++ [m]))
      _ = settledOf past ++ due config (m.point.toSettle ++ m.finishes?.toList) := by
          rw [finishedOf_concat, due_append, hstations.settled, List.append_assoc, due_append]
      _ = settledOf (past ++ [m]) ++ due config m.turn.point.toSettle := by
          rw [hadvances.settled hwork, settledOf_concat, List.append_assoc]

theorem LoopRun.stations {config : ConsumerConfig} {queue : String} {past : List LoopTurn}
    {point : Consuming} (hrun : LoopRun config queue past point)
    (hleaves : ∀ call ∈ calledOf past, call.2.outcome?.isSome = true) :
    Stations config past point := by
  induction hrun with
  | start => exact ⟨rfl, rfl, (due_nil config).trans (due_nil config).symm⟩
  | snoc _ hstep ih =>
      have hbefore : ∀ call ∈ calledOf _, call.2.outcome?.isSome = true := fun call hcall =>
        hleaves call (by rw [calledOf_concat]; exact List.mem_append_left _ hcall)
      exact (ih hbefore).advance (Consuming.step_advance hstep) hbefore

/-- How the deliveries of a consumption loop have been dealt with. -/
structure SettlesInOrder (config : ConsumerConfig) (past : List LoopTurn) (point : Consuming) :
    Prop where
  /-- The handler is called with the deliveries in the order in which they come off the streams. -/
  called_in_order : (calledOf past).map Prod.fst <+: takenOf past
  /-- Where the loop can be suspended, it has been called with all of them. -/
  called : point.rests = true → (calledOf past).map Prod.fst = takenOf past
  /-- It finishes with them in that order, and with each as it was going to. -/
  finished_in_order : (finishedOf past).map (fun finished => (finished.1, some finished.2)) <+:
    (calledOf past).map fun call => (call.1, call.2.outcome?)
  /-- It is called again only when it has finished. -/
  one_at_a_time : (calledOf past).length ≤ (finishedOf past).length + 1
  /-- The broker is asked for the settlements that are due, in the order of the calls. -/
  settled_in_order : settledOf past <+: due config (finishedOf past)
  /-- Where the loop can be suspended, it has been asked for all of them. -/
  settled : point.rests = true → settledOf past = due config (finishedOf past)

/-- Whatever happens in between: the handler is called with each delivery, one at a time and in
order, and for each call that has finished the broker is asked once to settle the delivery, as the
call has ended.  The handler must leave it to the loop to settle. -/
theorem LoopRun.settlesInOrder {config : ConsumerConfig} {queue : String} {past : List LoopTurn}
    {point : Consuming} (hrun : LoopRun config queue past point)
    (hleaves : ∀ call ∈ calledOf past, call.2.outcome?.isSome = true) :
    SettlesInOrder config past point := by
  have hstations := hrun.stations hleaves
  refine ⟨⟨_, hstations.called.symm⟩, fun hrests => ?_, ⟨_, hstations.finished.symm⟩, ?_,
    ⟨_, hstations.settled.symm⟩, fun hrests => ?_⟩
  · rw [hstations.called, Consuming.toCall_of_rests hrests, List.append_nil]
  · have hlength := congrArg List.length hstations.finished
    have hone := point.atWork_length_le
    simp only [List.length_map, List.length_append] at hlength
    omega
  · rw [hstations.settled, Consuming.toSettle_of_rests hrests, due_nil, List.append_nil]

namespace System

/-- A client of one endpoint with a consumer, whose handler does not like empty messages. -/
def listener : System where
  broker := { reachable := ["amqp://a"] }
  supervisor := { endpoints := ["amqp://a"] }
  publishers := []
  consumers := [{ queue := "q", config := .standard, token := 0 }]
  handler := fun delivery =>
    if delivery.data = [] then .sleep 5 (.fail (.ofMessage "empty")) else .succeed
  tokens := [false]

theorem listener_fresh : listener.Fresh where
  tasks := rfl
  connections := rfl
  channels := rfl
  slot := rfl
  terminated := rfl
  watcher := rfl
  lockedBy := rfl
  publishers := by simp [listener]

end System

/-- Two deliveries; the first acknowledgement fails, and the token is cancelled while the handler is
at work on the second one. -/
def twoDeliveries : List Happening :=
  [.call .connect] ++ List.replicate 4 (.turn 0) ++ [.call (.consume 0)] ++
  List.replicate 5 (.turn 1) ++
  [.incident (.queueFailure .ack (.channelClosed "x")),
    .incident (.send "q" (.delivery (.new 1 [1]))),
    .incident (.send "q" (.delivery (.new 2 [])))] ++
  List.replicate 7 (.turn 1) ++ [.cancel 0, .incident (.passTime 5)] ++ List.replicate 7 (.turn 1)

theorem twoDeliveries_settled :
    settledOf (loopTurns 1 (System.listener.played twoDeliveries).1) =
      [(1, .ack), (2, .nack true)] := by
  have hrun : LoopRun .standard "q" (loopTurns 1 (System.listener.played twoDeliveries).1)
      .finished :=
    (System.listener.run_played twoDeliveries).loopRun System.listener_fresh (i := 0) rfl rfl
  exact ((hrun.settlesInOrder (by decide)).settled rfl).trans (by decide)

end BrokerClient
