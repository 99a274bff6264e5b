import BrokerClient.Proofs.Consumer.Channels
import BrokerClient.Proofs.Consumer.Settling

/-!
# How a consumption loop comes to its end

A loop takes a delivery off the stream only while it has not been told to stop, and it does not rest
before it has called the handler with it.  So when a token is cancelled, no delivery waits for its call,
and none is taken any more.  What is left is to let the handler finish, to settle its delivery and to
close the channel; the loop does each of these and then stops, without another rest or session.
-/

namespace BrokerClient

/-! ## One turn -/

namespace Consuming

section Turns

variable {s : Supervisor} {config : ConsumerConfig} {queue : String} {handler : Handler}
  {state state' : ConsumeState} {point point' : Consuming}

/-- A delivery is taken only by a loop that has not been told to stop. -/
theorem Advance.toCall_of_cancelled
    (hadvance : Advance s config queue handler state point state' point')
    (hcancelled : state'.cancelled = true) : point'.toCall = [] := by
  cases hadvance with
  | take hgoesOn => cases hcancelled.symm.trans hgoesOn
  | _ => rfl

/-- A loop that has been told to stop does not rest. -/
theorem Advance.not_resting
    (hadvance : Advance s config queue handler state point state' point')
    (hcancelled : state.cancelled = true) (backoff : Backoff Float) (time : Nat) :
    point' ≠ resting backoff time := by
  rintro rfl
  cases hadvance with
  | rest hgoesOn => cases hcancelled.symm.trans hgoesOn

/-- A loop that has been told to stop begins no session. -/
theorem Advance.stops_looking
    (hadvance : Advance s config queue handler state point state' point')
    (hcancelled : state.cancelled = true) {backoff : Backoff Float}
    (hpoint : point = looking backoff) : point' = stopping := by
  subst hpoint
  cases hadvance with
  | cancelLooking => rfl
  | notReady hgoesOn | refuseOpen hgoesOn | beginOpen hgoesOn =>
      cases hcancelled.symm.trans hgoesOn

/-- What a loop that has been told to stop may have to wait for: that its channel is opened, or that
the handler goes on. -/
def IsHeldUp (b : Broker) : Consuming → Prop
  | opening _ _ wait => b.progress wait = .blocked
  | handling _ _ _ time _ => b.clock < time
  | finished => True
  | _ => False

theorem isHeldUp_of_step_eq_none (hcancelled : state.cancelled = true)
    (hstep : point.step s config queue handler state = none) : point.IsHeldUp state.broker := by
  cases point with
  | opening backoff connection wait =>
      simp only [step] at hstep
      split at hstep
      · assumption
      · cases hstep
      · cases hstep
  | limiting backoff channel =>
      simp only [step] at hstep
      split at hstep <;> cases hstep
  | subscribing backoff channel =>
      simp only [step] at hstep
      split at hstep <;> cases hstep
  | handling backoff session delivery time work =>
      simp only [step] at hstep
      split at hstep
      · assumption
      · cases work <;> cases hstep
  | closing backoff channel outcome =>
      simp only [step] at hstep
      split at hstep <;> cases hstep
  | ended backoff outcome => simp [step, hcancelled] at hstep
  | finished => trivial
  | _ => simp [step, leave, hcancelled] at hstep

end Turns

/-- A loop that has been told to stop can go from `point` to `point'` in one turn. -/
def Follows (config : ConsumerConfig) (queue : String) (point' point : Consuming) : Prop :=
  ∃ s handler state state', state.cancelled = true ∧
    Advance s config queue handler state point state' point'

section Ends

variable {config : ConsumerConfig} {queue : String}

theorem acc_of_advance {point : Consuming}
    (hnext : ∀ {s : Supervisor} {handler : Handler} {state state' : ConsumeState}
      {point' : Consuming}, state.cancelled = true →
      Advance s config queue handler state point state' point' →
      Acc (Follows config queue) point') : Acc (Follows config queue) point :=
  ⟨_, fun _ ⟨_, _, _, _, hcancelled, hadvance⟩ => hnext hcancelled hadvance⟩

theorem acc_finished : Acc (Follows config queue) finished := by
  refine acc_of_advance fun _ hadvance => ?_
  cases hadvance

theorem acc_stopping : Acc (Follows config queue) stopping := by
  refine acc_of_advance fun _ hadvance => ?_
  cases hadvance with
  | stop => exact acc_finished

theorem acc_looking (backoff : Backoff Float) : Acc (Follows config queue) (looking backoff) := by
  refine acc_of_advance fun hcancelled hadvance => ?_
  rw [hadvance.stops_looking hcancelled rfl]
  exact acc_stopping

theorem acc_ended (backoff : Backoff Float) (outcome : Except BrokerError Nat) :
    Acc (Follows config queue) (ended backoff outcome) := by
  refine acc_of_advance fun hcancelled hadvance => ?_
  cases hadvance with
  | cancelEnded => exact acc_stopping
  | rest hgoesOn => cases hcancelled.symm.trans hgoesOn

theorem acc_closing (backoff : Backoff Float) (channel : Nat) (outcome : Except BrokerError Nat) :
    Acc (Follows config queue) (closing backoff channel outcome) := by
  refine acc_of_advance fun _ hadvance => ?_
  cases hadvance with
  | leaveChannel | closeChannel => exact acc_ended backoff outcome

theorem acc_listening (backoff : Backoff Float) (session : Session) :
    Acc (Follows config queue) (listening backoff session) := by
  refine acc_of_advance fun hcancelled hadvance => ?_
  cases hadvance with
  | cancelListening | fault | endOfStream => exact acc_closing backoff _ _
  | take hgoesOn => cases hcancelled.symm.trans hgoesOn

theorem acc_handled (backoff : Backoff Float) (session : Session) (delivery : Delivery)
    (outcome : Except Report Unit) :
    Acc (Follows config queue) (handled backoff session delivery outcome) := by
  refine acc_of_advance fun _ hadvance => ?_
  cases hadvance with
  | conclude => exact acc_listening backoff _

/-- The handler comes to the end of its work, whatever the broker answers to it. -/
theorem acc_handling (backoff : Backoff Float) (session : Session) (delivery : Delivery)
    (time : Nat) (work : Work) :
    Acc (Follows config queue) (handling backoff session delivery time work) := by
  induction work generalizing time with
  | done outcome =>
      refine acc_of_advance fun _ hadvance => ?_
      cases hadvance with
      | finish => exact acc_handled backoff session delivery outcome
  | sleep millis after ih =>
      refine acc_of_advance fun _ hadvance => ?_
      cases hadvance with
      | sleep => exact ih _
  | cancel after ih =>
      refine acc_of_advance fun _ hadvance => ?_
      cases hadvance with
      | askToStop => exact ih _
  | settle settlement after ih =>
      refine acc_of_advance fun _ hadvance => ?_
      cases hadvance with
      | settle => exact ih _ _

theorem acc_subscribing (backoff : Backoff Float) (channel : Nat) :
    Acc (Follows config queue) (subscribing backoff channel) := by
  refine acc_of_advance fun _ hadvance => ?_
  cases hadvance with
  | refuseSubscribe => exact acc_closing backoff channel _
  | subscribe => exact acc_listening backoff _

/-- A loop that has been told to stop takes no turns without end, except to look whether channels are
given out again. -/
theorem acc_follows (point : Consuming)
    (hopening : ∀ backoff connection wait, point ≠ opening backoff connection wait) :
    Acc (Follows config queue) point := by
  cases point with
  | starting =>
      refine acc_of_advance fun _ hadvance => ?_
      cases hadvance with
      | start => exact acc_looking _
  | looking backoff => exact acc_looking backoff
  | opening backoff connection wait => exact absurd rfl (hopening backoff connection wait)
  | limiting backoff channel =>
      refine acc_of_advance fun _ hadvance => ?_
      cases hadvance with
      | refuseLimits => exact acc_closing backoff channel _
      | limit => exact acc_subscribing backoff channel
  | subscribing backoff channel => exact acc_subscribing backoff channel
  | listening backoff session => exact acc_listening backoff session
  | received backoff session delivery =>
      refine acc_of_advance fun _ hadvance => ?_
      cases hadvance with
      | call => exact acc_handling backoff session delivery _ _
  | handling backoff session delivery time work =>
      exact acc_handling backoff session delivery time work
  | handled backoff session delivery outcome =>
      exact acc_handled backoff session delivery outcome
  | closing backoff channel outcome => exact acc_closing backoff channel outcome
  | ended backoff outcome => exact acc_ended backoff outcome
  | resting backoff time =>
      refine acc_of_advance fun hcancelled hadvance => ?_
      cases hadvance with
      | cancelResting => exact acc_stopping
      | again hgoesOn => cases hcancelled.symm.trans hgoesOn
  | stopping => exact acc_stopping
  | finished => exact acc_finished

end Ends

end Consuming

namespace LoopTurn

variable {config : ConsumerConfig} {queue : String} {m : LoopTurn}

/-- The settlement that the loop asks for itself, once the handler has finished. -/
def concludes (m : LoopTurn) : List (UInt64 × Settlement) :=
  match m.point with
  | .handled _ _ _ _ => m.settles
  | _ => []

theorem calls?_of_toCall (htoCall : m.point.toCall = []) : m.calls? = none := by
  unfold calls?
  split
  · rename_i hpoint
    rw [hpoint] at htoCall
    cases htoCall
  · rfl

/-- The handler is at work on a delivery until it finishes with it. -/
theorem Advances.completed (hadvances : m.Advances config queue) :
    m.point.atWork.map Prod.fst ++ m.calls?.toList.map Prod.fst =
      m.finishes?.toList.map Prod.fst ++ m.turn.point.atWork.map Prod.fst := by
  obtain ⟨s, handler, state, point, state', point', log⟩ := m
  have hadvance : Consuming.Advance s config queue handler state point state' point' := hadvances
  cases hadvance <;> rfl

/-- The loop settles what the handler has finished with. -/
theorem Advances.concluded (hadvances : m.Advances config queue) :
    due config (m.point.toSettle ++ m.finishes?.toList) =
      m.concludes ++ due config m.turn.point.toSettle := by
  have hwritten := hadvances.written_eq
  obtain ⟨s, handler, state, point, state', point', log⟩ := m
  have hadvance : Consuming.Advance s config queue handler state point state' point' := hadvances
  cases hadvance with
  | conclude =>
      simp only [concludes, settles, hwritten, Consuming.asks, Consuming.grants]
      cases hauto : config.options.autoAck <;>
        simp [finishes?, Consuming.toSettle, due, hauto, Broker.Entry.settled?]
  | _ => simp [concludes, finishes?, Consuming.toSettle, due]

/-- Unless the handler settles its delivery itself, there is no other settlement. -/
theorem Advances.settles_eq (hadvances : m.Advances config queue)
    (hleaves : ∀ work ∈ m.point.atWork, work.2.isSome = true) : m.settles = m.concludes := by
  have h := (hadvances.settled hleaves).symm.trans hadvances.concluded
  exact List.append_cancel_right h

end LoopTurn

/-- The settlements that the loop has asked for itself, in order. -/
def concludedOf (path : List LoopTurn) : List (UInt64 × Settlement) :=
  path.flatMap LoopTurn.concludes

/-! ## Every path -/

namespace LoopPath

variable {config : ConsumerConfig} {queue : String} {point last : Consuming} {path : List LoopTurn}

/-- If no delivery waits for its call, the handler is not called any more. -/
theorem calledOf_eq_nil (hpath : LoopPath config queue point path last)
    (hcancelled : ∀ m ∈ path, m.state.cancelled = true) (htoCall : point.toCall = []) :
    calledOf path = [] := by
  induction hpath with
  | refl => rfl
  | @cons point last s handler state turn path hfirst _ ih =>
      rw [List.forall_mem_cons] at hcancelled
      have hadvance := Consuming.step_advance hfirst
      have hnext := hadvance.toCall_of_cancelled (hadvance.cancelled hcancelled.1)
      rw [calledOf, List.filterMap_cons_none (LoopTurn.calls?_of_toCall htoCall)]
      exact ih hcancelled.2 hnext

/-- What the handler was at work on, and what it has been called with, it finishes with in turn. -/
theorem completed (hpath : LoopPath config queue point path last) :
    point.atWork.map Prod.fst ++ (calledOf path).map Prod.fst =
      (finishedOf path).map Prod.fst ++ last.atWork.map Prod.fst := by
  induction hpath with
  | refl => simp [calledOf, finishedOf]
  | @cons point last s handler state turn path hfirst _ ih =>
      let m : LoopTurn := ⟨s, handler, state, point, turn⟩
      have hadvances : m.Advances config queue := Consuming.step_advance hfirst
      have hcalled : calledOf (m :: path) = m.calls?.toList ++ calledOf path :=
        filterMap_cons _ _ _
      have hfinished : finishedOf (m :: path) = m.finishes?.toList ++ finishedOf path :=
        filterMap_cons _ _ _
      calc point.atWork.map Prod.fst ++ (calledOf (m :: path)).map Prod.fst
        _ = (m.point.atWork.map Prod.fst ++ m.calls?.toList.map Prod.fst) ++
              (calledOf path).map Prod.fst := by rw [hcalled, List.map_append, List.append_assoc]
        _ = m.finishes?.toList.map Prod.fst ++ (finishedOf path).map Prod.fst ++
              last.atWork.map Prod.fst := by
            rw [hadvances.completed, List.append_assoc, ih, List.append_assoc]
        _ = _ := by rw [hfinished, List.map_append]

/-- Each call that has finished is settled by the loop, once and in its turn. -/
theorem concluded (hpath : LoopPath config queue point path last) :
    due config (point.toSettle ++ finishedOf path) =
      concludedOf path ++ due config last.toSettle := by
  induction hpath with
  | refl => simp [finishedOf, concludedOf]
  | @cons point last s handler state turn path hfirst _ ih =>
      let m : LoopTurn := ⟨s, handler, state, point, turn⟩
      have hadvances : m.Advances config queue := Consuming.step_advance hfirst
      have hfinished : finishedOf (m :: path) = m.finishes?.toList ++ finishedOf path :=
        filterMap_cons _ _ _
      calc due config (point.toSettle ++ finishedOf (m :: path))
        _ = due config (m.point.toSettle ++ m.finishes?.toList) ++ due config (finishedOf path) := by
            rw [hfinished, ← List.append_assoc, due_append]
        _ = m.concludes ++ due config (turn.point.toSettle ++ finishedOf path) := by
            rw [hadvances.concluded, due_append, List.append_assoc]
        _ = m.concludes ++ concludedOf path ++ due config last.toSettle := by
            rw [ih, List.append_assoc]

/-- As long as the handler is not called, it goes on with the work that was at hand. -/
theorem settledOf_eq (hpath : LoopPath config queue point path last)
    (hcancelled : ∀ m ∈ path, m.state.cancelled = true) (htoCall : point.toCall = [])
    (hleaves : ∀ work ∈ point.atWork, work.2.isSome = true) :
    settledOf path = concludedOf path := by
  induction hpath with
  | refl => rfl
  | @cons point last s handler state turn path hfirst _ ih =>
      rw [List.forall_mem_cons] at hcancelled
      let m : LoopTurn := ⟨s, handler, state, point, turn⟩
      have hadvance := Consuming.step_advance hfirst
      have hadvances : m.Advances config queue := hadvance
      have hnext := hadvance.toCall_of_cancelled (hadvance.cancelled hcancelled.1)
      have hwork := hadvances.finished hleaves
      rw [LoopTurn.calls?_of_toCall htoCall, Option.toList_none, List.map_nil,
        List.append_nil] at hwork
      have hstill : ∀ work ∈ turn.point.atWork, work.2.isSome = true := fun work hmem =>
        hleaves work (hwork ▸ List.mem_append_right _ hmem)
      rw [settledOf, List.flatMap_cons, hadvances.settles_eq hleaves]
      exact congrArg _ (ih hcancelled.2 hnext hstill)

end LoopPath

/-! ## Every run -/

/-- A loop is the only one that can hold itself up. -/
theorem System.loopStep_eq_none {w : System} {t i token : Nat} {point : Consuming} {queue : String}
    {config : ConsumerConfig} (htask : w.tasks[t]? = some (.consume i token point))
    (hsetup : (w.consumers[i]?).map (fun setup => (setup.queue, setup.config)) =
      some (queue, config)) (hstep : w.step t = none) :
    point.step w.supervisor config queue w.handler (w.consumeState token) = none := by
  obtain ⟨setup, hfound, heq⟩ := Option.map_eq_some_iff.mp hsetup
  cases heq
  simp only [step, htask, hfound] at hstep
  exact Option.map_eq_none_iff.mp hstep

/-- How a loop comes to its end in `w` after its token has been cancelled at `point`: by the turns of
`path` it has come to `last`, and by `turns` it has come there from its beginning. -/
structure StopsCleanly (config : ConsumerConfig) (queue : String) (w : System) (t : Nat)
    (turns : List LoopTurn) (point : Consuming) (path : List LoopTurn) (last : Consuming) :
    Prop where
  /-- The handler is not called any more. -/
  not_called : calledOf path = []
  /-- The call that was under way is completed. -/
  completed : last = .finished → (finishedOf path).map Prod.fst = point.atWork.map Prod.fst
  /-- The loop settles its delivery, once and as the call has ended, unless the broker takes deliveries
  as settled anyway; and nothing else is settled, unless the handler does so itself. -/
  concluded : last = .finished → concludedOf path = due config (point.toSettle ++ finishedOf path)
  settled : (∀ work ∈ point.atWork, work.2.isSome = true) → settledOf path = concludedOf path
  /-- Each channel that has been opened for the loop is closed, unless the close of it has failed. -/
  closed : last = .finished → ∀ channel ∈ openedOf turns,
    w.broker.channelClosed channel = true ∨ ∃ m ∈ turns, m.FailsToClose channel
  no_rest : ∀ m ∈ path, ∀ backoff time, m.turn.point ≠ .resting backoff time
  no_session : ∀ m ∈ path, ∀ backoff, m.point = .looking backoff → m.turn.point = .stopping
  /-- Until its end the loop waits for nothing but its channel and the handler, and its turns come to
  an end, too. -/
  held_up : w.step t = none → last.IsHeldUp w.broker
  ends : (∀ backoff connection wait, last ≠ .opening backoff connection wait) →
    Acc (Consuming.Follows config queue) last

namespace Run

variable {w₀ w w' : System} {past more : List Moment} {i t token : Nat} {setup : ConsumerSetup}
  {point last : Consuming}

/-- When a token is cancelled, no delivery of its loop waits for the call of the handler. -/
theorem toCall_eq_nil (hrun : Run w₀ past w) (hfresh : w₀.Fresh) (hcooperative : Cooperative past)
    (hsetup : w₀.consumers[i]? = some setup)
    (htask : w.tasks[t]? = some (.consume i token point))
    (hcancelled : w.tokens[token]? = some true) : point.toCall = [] := by
  cases hrun with
  | refl => exact absurd htask hfresh.not_task
  | @snoc past w₁ _ what hpast hafter =>
      have horderly := (cooperative_concat.mp hcooperative).2
      rcases System.after_task_cases hafter htask with ⟨hother, hkept⟩ |
        ⟨rfl, before, hbefore, hbegun⟩ | hdropped | ⟨_, hnew⟩
      · exact Consuming.toCall_of_rests (horderly.rests hother hkept)
      · obtain ⟨point₀, rfl⟩ := Task.begun_eq_consume hbegun.symm
        obtain ⟨turn, hturn, _, _, _, htokens, htask'⟩ :=
          System.step_loopTurn hbefore (hpast.setup_eq hsetup) hafter
        cases htask.symm.trans htask'
        refine (Consuming.step_advance hturn).toCall_of_cancelled ?_
        rw [htokens, List.getElem?_set_self'] at hcancelled
        obtain ⟨_, _, hset⟩ := Option.map_eq_some_iff.mp hcancelled
        exact hset
      · cases hdropped
      · cases hnew
        rfl

/-- A loop comes to its end only after its token has been cancelled.  Then the call that is under way
is completed and settled and the channel is closed, and neither a call nor a rest nor a session
follows. -/
theorem stopsCleanly (hrun : Run w₀ past w) (hfresh : w₀.Fresh) (hhas : w₀.HasTokens)
    (hcooperative : Cooperative past) (hsetup : w₀.consumers[i]? = some setup)
    (htask : w.tasks[t]? = some (.consume i token point)) :
    (point = .finished → w.tokens[token]? = some true) ∧
      (w.tokens[token]? = some true → ∀ more w' last, Run w more w' →
        w'.tasks[t]? = some (.consume i token last) →
        StopsCleanly setup.config setup.queue w' t (loopTurns t (past ++ more)) point
          (loopTurns t more) last) := by
  refine ⟨fun hfinished => (hrun.loop_token hfresh hhas hsetup htask).2 (hfinished ▸ rfl),
    fun hcancelled more w' last hmore hlast => ?_⟩
  obtain ⟨setup', hsetup', heq⟩ := Option.map_eq_some_iff.mp (hrun.setup_eq hsetup)
  obtain ⟨hqueue, hconfig⟩ := Prod.mk.inj heq
  have htoCall := hrun.toCall_eq_nil hfresh hcooperative hsetup htask hcancelled
  have hfound := hmore.loopTurns_cancelled hsetup' htask hcancelled
  have hpath := hmore.loopPath_to hsetup' htask hlast
  rw [hqueue, hconfig] at hpath
  have hcalled := hpath.calledOf_eq_nil hfound htoCall
  have hcompleted := hpath.completed
  have hconcluded := hpath.concluded
  exact {
    not_called := hcalled
    completed := by
      rintro rfl
      simpa [hcalled, Consuming.atWork] using hcompleted.symm
    concluded := by
      rintro rfl
      simpa [Consuming.toSettle, due_nil] using hconcluded.symm
    settled := hpath.settledOf_eq hfound htoCall
    closed := by
      -- at its end the loop has no channel
      rintro rfl channel hmem
      rcases ((hrun.append hmore).channelsOf hfresh hsetup hlast).closed channel hmem with
        hclosed | hown | hfails
      · exact .inl hclosed
      · cases hown
      · exact .inr hfails
    no_rest := by
      intro m hmem
      exact (hpath.advances hmem).not_resting (hfound m hmem)
    no_session := by
      intro m hmem backoff hpoint
      exact Consuming.Advance.stops_looking (hpath.advances hmem) (hfound m hmem) hpoint
    held_up := by
      intro hnone
      have hkept := hmore.keepsTokens.cancelled token hcancelled
      exact Consuming.isHeldUp_of_step_eq_none (System.consumeState_cancelled hkept)
        (System.loopStep_eq_none hlast ((hrun.append hmore).setup_eq hsetup) hnone)
    ends := Consuming.acc_follows last }

/-- The token is cancelled while the handler is at work on one delivery and another one waits. -/
def untilWork : List Happening :=
  [.call .connect] ++ List.replicate 4 (.turn 0) ++ [.call (.consume 0)] ++
  List.replicate 5 (.turn 1) ++
  [.incident (.send "q" (.delivery (.new 1 []))), .incident (.send "q" (.delivery (.new 2 [1])))] ++
  List.replicate 3 (.turn 1) ++ [.cancel 0]

/-- The handler gets the time that it needs, and the loop comes to its end. -/
def afterWork : List Happening :=
  .incident (.passTime 5) :: List.replicate 6 (.turn 1)

theorem untilWork_concluded :
    concludedOf (loopTurns 1 (((System.listener.played untilWork).2).played afterWork).1) =
      [(1, .nack true)] := by
  have hmore := (System.listener.played untilWork).2.run_played afterWork
  have hstops := (System.listener.run_played untilWork).stopsCleanly System.listener_fresh
    (by decide) (by decide) (i := 0) (t := 1) rfl rfl
  rw [((hstops.2 (by decide) _ _ .finished hmore rfl).concluded rfl)]
  decide

/-- The token is cancelled while the loop waits for a delivery and a close is going to fail. -/
def untilWaiting : List Happening :=
  [.call .connect] ++ List.replicate 4 (.turn 0) ++ [.call (.consume 0)] ++
  List.replicate 5 (.turn 1) ++
  [.incident (.queueFailure .closeChannel (.channelClosed "x")), .cancel 0]

theorem not_forall_stopped_closed :
    ¬ ∀ (w₀ w w' : System) (past more : List Moment) (i t token : Nat) (setup : ConsumerSetup)
        (point : Consuming), Run w₀ past w → w₀.Fresh → w₀.HasTokens → Run w more w' →
      Cooperative (past ++ more) → w₀.consumers[i]? = some setup →
      w.tasks[t]? = some (.consume i token point) → w.tokens[token]? = some true →
      w'.tasks[t]? = some (.consume i token .finished) →
      ∀ channel ∈ openedOf (loopTurns t (past ++ more)),
        w'.broker.channelClosed channel = true := by
  intro hclaim
  have hclosed := hclaim _ _ _ _ _ 0 1 0 _ _ (System.listener.run_played untilWaiting)
    System.listener_fresh (by decide)
    ((System.listener.played untilWaiting).2.run_played (List.replicate 4 (.turn 1)))
    (by decide) rfl rfl (by decide) rfl 0 (by decide)
  -- the loop has stopped with its channel open
  have hopen : (((System.listener.played untilWaiting).2).played
      (List.replicate 4 (.turn 1))).2.broker.channelClosed 0 = false := by decide
  rw [hopen] at hclosed
  cases hclosed

end Run

end BrokerClient
