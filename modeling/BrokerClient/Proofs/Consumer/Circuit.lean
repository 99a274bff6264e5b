import BrokerClient.Proofs.Consumer.Loop
import Mathlib.Data.List.DropRight

/-!
# When the circuit of a consumption loop is open

The back-off counts waits and not failed sessions.  A session whose subscription the broker has
accepted ends the row of failures, but the wait after it is counted like any other, so that the
count after an accepted session is one and not zero.  The circuit is therefore open after `n`
sessions of which only the last `n - 1` need to have failed.

Whether the broker has accepted a subscription is read off what it has written down in the course of
the session, and not off what the loop makes of it.
-/

namespace BrokerClient

/-! ## Sessions -/

/-- Has the broker granted the limits? -/
def Broker.Entry.grantsLimits : Broker.Entry → Bool
  | .qosGranted _ _ => true
  | _ => false

/-- Has the broker granted a subscription? -/
def Broker.Entry.grantsSubscription : Broker.Entry → Bool
  | .consumeGranted _ => true
  | _ => false

/-- Has the broker accepted the limits and the subscription of a session, in the course of which
this has been written down? -/
def isAccepted (written : List Broker.Entry) : Bool :=
  written.any Broker.Entry.grantsLimits && written.any Broker.Entry.grantsSubscription

/-- The sessions of a loop. -/
structure Sessions where
  /-- What has been written down in the course of the session under way. -/
  current : List Broker.Entry := []
  /-- For each session that has ended, whether the broker has accepted its subscription. -/
  ended : List Bool := []

/-- The sessions after a turn at a point in which this has been written down: one begins when the
loop looks for a connection, and ends when the loop takes stock of it. -/
def Sessions.after (sessions : Sessions) (point : Consuming) (written : List Broker.Entry) :
    Sessions :=
  match point with
  | .looking _ => { sessions with current := written }
  | .ended _ _ => ⟨[], sessions.ended ++ [isAccepted sessions.current]⟩
  | _ => { sessions with current := sessions.current ++ written }

/-- The sessions in the course of these turns. -/
def sessionsIn (past : List LoopTurn) : Sessions :=
  past.foldl (fun sessions m => sessions.after m.point m.written) {}

/-- For each session that has ended, whether the broker has accepted its subscription, in order. -/
def sessionsOf (past : List LoopTurn) : List Bool :=
  (sessionsIn past).ended

theorem sessionsIn_concat (past : List LoopTurn) (m : LoopTurn) :
    sessionsIn (past ++ [m]) = (sessionsIn past).after m.point m.written := by
  simp [sessionsIn]

/-- Without a subscription a session is not accepted. -/
theorem isAccepted_eq_false {written : List Broker.Entry}
    (hnone : written.any Broker.Entry.grantsSubscription = false) : isAccepted written = false := by
  rw [isAccepted, hnone, Bool.and_false]

/-- A session that has been accepted stays so. -/
theorem isAccepted_append {written : List Broker.Entry} (haccepted : isAccepted written = true)
    (more : List Broker.Entry) : isAccepted (written ++ more) = true := by
  simp only [isAccepted, Bool.and_eq_true] at haccepted
  simp [isAccepted, haccepted.1, haccepted.2]

theorem any_append_of_none {view : Broker.Entry → Bool} {more : List Broker.Entry}
    (hnone : more.any view = false) (written : List Broker.Entry) :
    (written ++ more).any view = written.any view := by
  rw [List.any_append, hnone, Bool.or_false]

/-! ## What the loop makes of a session -/

/-- What the point of the loop says about the session under way is what the broker has written
down. -/
def Consuming.Knows (written : List Broker.Entry) : Consuming → Prop
  | opening _ _ _ | limiting _ _ => written.any Broker.Entry.grantsSubscription = false
  | subscribing _ _ => written.any Broker.Entry.grantsLimits = true ∧
      written.any Broker.Entry.grantsSubscription = false
  | listening _ _ | received _ _ _ | handling _ _ _ _ _ | handled _ _ _ _ =>
      isAccepted written = true
  | closing _ _ outcome | ended _ outcome => isAccepted written = outcome.isOk
  | _ => True

/-- Where nothing of a kind may be written down there is nothing of it. -/
private theorem any_eq_false_of_kind {written : List Broker.Entry}
    {may view : Broker.Entry → Bool} (hkind : ∀ entry ∈ written, may entry = true)
    (hother : ∀ entry, may entry = true → view entry = false) : written.any view = false := by
  refine List.any_eq_false.mpr fun entry hmem => ?_
  rw [hother entry (hkind entry hmem)]
  exact Bool.false_ne_true

section Turns

variable {s : Supervisor} {config : ConsumerConfig} {queue : String} {handler : Handler}
  {state state' : ConsumeState} {point point' : Consuming} {written current : List Broker.Entry}
  {sessions : Sessions}

/-- The broker grants the limits, or refuses them and with them the session. -/
private theorem Consuming.Advance.knows_of_limiting {backoff : Backoff Float} {channel : Nat}
    (hadvance : Advance s config queue handler state (limiting backoff channel) state' point')
    (hentries : state'.broker.entries = state.broker.entries ++ written)
    (hnone : current.any Broker.Entry.grantsSubscription = false) :
    point'.Knows (current ++ written) := by
  cases hadvance with
  | refuseLimits hqos =>
      obtain rfl := List.append_cancel_left
        (hentries.symm.trans (Broker.qos_entries_of_error _ hqos))
      exact isAccepted_eq_false ((any_append_of_none rfl current).trans hnone)
  | limit hqos =>
      obtain rfl := List.append_cancel_left
        (hentries.symm.trans (Broker.qos_entries_of_ok _ hqos))
      refine ⟨(?_ : (current ++ _).any _ = true), (any_append_of_none rfl current).trans hnone⟩
      rw [List.any_append]
      exact Bool.or_true _

/-- The broker grants the subscription, and the session is accepted, or refuses both. -/
private theorem Consuming.Advance.knows_of_subscribing {backoff : Backoff Float} {channel : Nat}
    (hadvance : Advance s config queue handler state (subscribing backoff channel) state' point')
    (hentries : state'.broker.entries = state.broker.entries ++ written)
    (hlimits : current.any Broker.Entry.grantsLimits = true)
    (hnone : current.any Broker.Entry.grantsSubscription = false) :
    point'.Knows (current ++ written) := by
  cases hadvance with
  | refuseSubscribe hconsume =>
      obtain rfl := List.append_cancel_left
        (hentries.symm.trans (Broker.consume_entries_of_error _ hconsume))
      exact isAccepted_eq_false ((any_append_of_none rfl current).trans hnone)
  | subscribe hconsume =>
      obtain rfl := List.append_cancel_left
        (hentries.symm.trans (Broker.consume_entries_of_ok _ hconsume))
      show isAccepted (current ++ _) = true
      rw [isAccepted, List.any_append, List.any_append, hlimits]
      exact Bool.or_true _

/-- What the loop makes of a session stays right. -/
theorem Consuming.Advance.knows
    (hadvance : Advance s config queue handler state point state' point')
    (hentries : state'.broker.entries = state.broker.entries ++ written)
    (hkind : ∀ entry ∈ written, point.mayWrite entry = true)
    (hknows : point.Knows sessions.current) :
    point'.Knows (sessions.after point written).current := by
  cases point with
  | starting | ended backoff outcome | resting backoff time | stopping | finished =>
      cases hadvance <;> trivial
  | looking backoff =>
      -- a session begins, and the broker has granted nothing yet
      have hnone : written.any Broker.Entry.grantsSubscription = false :=
        any_eq_false_of_kind hkind fun entry hmay => by cases entry <;> first | rfl | cases hmay
      cases hadvance with
      | cancelLooking hcancelled => trivial
      | notReady hgoesOn hconnection => exact isAccepted_eq_false hnone
      | refuseOpen hgoesOn hconnection hbegin => exact isAccepted_eq_false hnone
      | beginOpen hgoesOn hconnection hbegin => exact hnone
  | opening backoff connection wait =>
      have hnone : written.any Broker.Entry.grantsSubscription = false :=
        any_eq_false_of_kind hkind fun entry hmay => by cases entry <;> first | rfl | cases hmay
      have hstill := (any_append_of_none hnone sessions.current).trans hknows
      cases hadvance with
      | waitOpen hwait => exact hstill
      | endOpen hwait => exact hstill
  | limiting backoff channel => exact hadvance.knows_of_limiting hentries hknows
  | subscribing backoff channel => exact hadvance.knows_of_subscribing hentries hknows.1 hknows.2
  | closing backoff channel outcome =>
      -- the broker is only asked to close the channel
      have hlimits : written.any Broker.Entry.grantsLimits = false :=
        any_eq_false_of_kind hkind fun entry hmay => by cases entry <;> first | rfl | cases hmay
      have hnone : written.any Broker.Entry.grantsSubscription = false :=
        any_eq_false_of_kind hkind fun entry hmay => by cases entry <;> first | rfl | cases hmay
      have hsame : isAccepted (sessions.current ++ written) = isAccepted sessions.current := by
        rw [isAccepted, any_append_of_none hlimits, any_append_of_none hnone, isAccepted]
      cases hadvance with
      | leaveChannel hclosed => exact hsame.trans hknows
      | closeChannel hopen => exact hsame.trans hknows
  | listening backoff session => cases hadvance <;> exact isAccepted_append hknows _
  | received backoff session delivery =>
      cases hadvance with
      | call => exact isAccepted_append hknows _
  | handling backoff session delivery time work =>
      cases hadvance <;> exact isAccepted_append hknows _
  | handled backoff session delivery outcome =>
      cases hadvance with
      | conclude => exact isAccepted_append hknows _

end Turns

/-! ## The count of failures -/

/-- What the count of failures comes to in the wait after these sessions: each wait counts, and an
accepted session starts the count again. -/
def failuresAfter (sessions : List Bool) : Nat :=
  sessions.foldl
    (fun count accepted => min ((if accepted then 0 else count) + 1) Backoff.countLimit) 0

theorem failuresAfter_concat (sessions : List Bool) (accepted : Bool) :
    failuresAfter (sessions ++ [accepted]) =
      min ((if accepted then 0 else failuresAfter sessions) + 1) Backoff.countLimit := by
  simp [failuresAfter]

/-- The count reaches `n` when there have been so many sessions, and all but the first of the last
`n` have failed. -/
theorem le_failuresAfter_iff {n : Nat} (hpos : 0 < n) (hlimit : n ≤ Backoff.countLimit)
    (sessions : List Bool) :
    n ≤ failuresAfter sessions ↔
      n ≤ sessions.length ∧ ∀ accepted ∈ sessions.rtake (n - 1), accepted = false := by
  induction sessions using List.reverseRecOn generalizing n with
  | nil =>
      have hnone : ¬ n ≤ 0 := by omega
      simp [failuresAfter, hnone]
  | append_singleton sessions last ih =>
      rw [failuresAfter_concat, List.length_append, List.length_singleton]
      obtain ⟨k, rfl⟩ : ∃ k, n = k + 1 := ⟨n - 1, by omega⟩
      rw [Nat.le_min, and_iff_left hlimit, Nat.add_le_add_iff_right, Nat.add_le_add_iff_right,
        Nat.add_sub_cancel]
      cases k with
      | zero => simp
      | succ k =>
          rw [List.rtake_concat_succ]
          cases last with
          | true => simp
          | false =>
              have hearlier := ih (n := k + 1) (by omega) (by omega)
              rw [Nat.add_sub_cancel] at hearlier
              simpa [or_imp, forall_and] using hearlier

/-- The back-off that the loop has at a point. -/
def Consuming.backoff? : Consuming → Option (Backoff Float)
  | looking backoff | opening backoff _ _ | limiting backoff _ | subscribing backoff _
  | listening backoff _ | received backoff _ _ | handling backoff _ _ _ _ | handled backoff _ _ _
  | closing backoff _ _ | ended backoff _ | resting backoff _ => some backoff
  | starting | stopping | finished => none

/-- What the loop knows of its sessions is right, and its back-off has counted them. -/
structure Sessions.Fit (sessions : Sessions) (config : ConsumerConfig) (point : Consuming) :
    Prop where
  knows : point.Knows sessions.current
  starting : point = .starting → sessions.ended = []
  counted : ∀ backoff, point.backoff? = some backoff →
    backoff.policy = config.backoff ∧ backoff.failures = failuresAfter sessions.ended

theorem Consuming.Advance.counted {s : Supervisor} {config : ConsumerConfig} {queue : String}
    {handler : Handler} {state state' : ConsumeState} {point point' : Consuming}
    {written : List Broker.Entry} {sessions : Sessions}
    (hadvance : Advance s config queue handler state point state' point')
    (hfit : sessions.Fit config point) {backoff : Backoff Float}
    (hbackoff : point'.backoff? = some backoff) :
    backoff.policy = config.backoff ∧
      backoff.failures = failuresAfter (sessions.after point written).ended := by
  cases hadvance with
  | start =>
      cases hbackoff
      have hnone : (sessions.after .starting written).ended = [] := hfit.starting rfl
      rw [hnone]
      exact ⟨rfl, rfl⟩
  | @rest before outcome hgoesOn =>
      -- the session is over, and the wait is counted
      cases hbackoff
      obtain ⟨hpolicy, hfailures⟩ := hfit.counted before rfl
      have haccepted : isAccepted sessions.current = outcome.isOk := hfit.knows
      rw [Sessions.after, failuresAfter_concat, haccepted, ← hfailures]
      cases outcome with
      | ok count => exact ⟨hpolicy, rfl⟩
      | error e => exact ⟨hpolicy, rfl⟩
  | cancelLooking | cancelEnded | cancelResting | stop => cases hbackoff
  | _ => exact hfit.counted _ hbackoff

theorem LoopRun.fit {config : ConsumerConfig} {queue : String} {past : List LoopTurn}
    {point : Consuming} (hrun : LoopRun config queue past point) :
    (sessionsIn past).Fit config point := by
  induction hrun with
  | start => exact ⟨trivial, fun _ => rfl, nofun⟩
  | @snoc past point s handler state turn _ hstep ih =>
      have hadvance := Consuming.step_advance hstep
      obtain ⟨written, hentries, hkind⟩ := hadvance.writes
      have hwritten : (⟨s, handler, state, point, turn⟩ : LoopTurn).written = written := by
        rw [LoopTurn.written, hentries, List.drop_left]
      rw [sessionsIn_concat, hwritten]
      refine ⟨hadvance.knows hentries hkind ih.knows, fun hstarting => ?_,
        fun backoff => hadvance.counted ih⟩
      -- a loop starts only once
      generalize turn.state = state', turn.point = point' at hadvance hstarting
      subst hstarting
      cases hadvance

/-! ## The circuit -/

theorem Backoff.threshold_le_countLimit (policy : BackoffPolicy Float) :
    policy.threshold.toNat ≤ Backoff.countLimit := by
  have hlt := policy.threshold.toNat_lt
  unfold Backoff.countLimit UInt32.size
  omega

/-- The circuit is open if the count of failures has reached the threshold. -/
theorem LoopRun.isCircuitOpen_eq {config : ConsumerConfig} {queue : String} {past : List LoopTurn}
    {backoff : Backoff Float} {time : Nat}
    (hrun : LoopRun config queue past (.resting backoff time))
    (hthreshold : 0 < config.backoff.threshold) :
    backoff.isCircuitOpen =
      decide (config.backoff.threshold.toNat ≤ failuresAfter (sessionsOf past)) := by
  obtain ⟨hpolicy, hfailures⟩ := hrun.fit.counted backoff rfl
  rw [Backoff.isCircuitOpen, hpolicy, hfailures, decide_eq_true hthreshold, Bool.true_and,
    sessionsOf]

/-- While a loop waits between two sessions, its circuit is open if there have been as many sessions
as the threshold says and the last of them have failed, all but the first; the wait is the cool-down
then.  Whether the first one has failed too makes no difference. -/
theorem LoopRun.circuit_open_iff {config : ConsumerConfig} {queue : String} {past : List LoopTurn}
    {backoff : Backoff Float} {time : Nat}
    (hrun : LoopRun config queue past (.resting backoff time))
    (hthreshold : 0 < config.backoff.threshold) :
    (backoff.isCircuitOpen = true ↔
      config.backoff.threshold.toNat ≤ (sessionsOf past).length ∧
        ∀ accepted ∈ (sessionsOf past).rtake (config.backoff.threshold.toNat - 1),
          accepted = false) ∧
      (backoff.isCircuitOpen = true → backoff.baseMillis = config.backoff.cooldown.millis) := by
  have hpos : 0 < config.backoff.threshold.toNat := hthreshold
  have hlimit := Backoff.threshold_le_countLimit config.backoff
  constructor
  · rw [hrun.isCircuitOpen_eq hthreshold, decide_eq_true_iff]
    exact le_failuresAfter_iff hpos hlimit _
  · intro hopen
    rw [Backoff.baseMillis, if_pos hopen, (hrun.fit.counted backoff rfl).1]

/-- A client of one endpoint with a consumer whose circuit opens with the first failure. -/
def System.impatient : System where
  broker := { reachable := ["amqp://a"] }
  supervisor := { endpoints := ["amqp://a"] }
  publishers := []
  consumers := [{
    queue := "q"
    config := .withBackoff .standard { BackoffPolicy.standard with threshold := 1 }
    token := 0 }]
  handler := fun _ => .succeed
  tokens := [false]

theorem System.impatient_fresh : System.impatient.Fresh where
  tasks := rfl
  connections := rfl
  channels := rfl
  slot := rfl
  terminated := rfl
  watcher := rfl
  lockedBy := rfl
  publishers := by simp [System.impatient]

/-- A session whose subscription is accepted, and whose channel closes then. -/
def acceptedOnce : List Happening :=
  [.call .connect] ++ List.replicate 4 (.turn 0) ++ [.call (.consume 0)] ++
  List.replicate 5 (.turn 1) ++ [.incident (.dropChannel 0 .graceful)] ++
  List.replicate 3 (.turn 1)

theorem acceptedOnce_rests :
    ∃ backoff time, LoopRun (.withBackoff .standard { BackoffPolicy.standard with threshold := 1 })
      "q" (loopTurns 1 (System.impatient.played acceptedOnce).1) (.resting backoff time) :=
  ⟨_, _, (System.impatient.run_played acceptedOnce).loopRun System.impatient_fresh (i := 0) rfl rfl⟩

theorem acceptedOnce_opens_circuit :
    ∃ backoff time, LoopRun (.withBackoff .standard { BackoffPolicy.standard with threshold := 1 })
        "q" (loopTurns 1 (System.impatient.played acceptedOnce).1) (.resting backoff time) ∧
      backoff.isCircuitOpen = true := by
  obtain ⟨backoff, time, hrun⟩ := acceptedOnce_rests
  exact ⟨backoff, time, hrun, (hrun.circuit_open_iff (by decide)).1.mpr (by decide)⟩

theorem not_forall_circuit_open_iff_failed :
    ¬ ∀ (config : ConsumerConfig) (queue : String) (past : List LoopTurn) (backoff : Backoff Float)
        (time : Nat), LoopRun config queue past (.resting backoff time) →
      0 < config.backoff.threshold →
      (backoff.isCircuitOpen = true ↔
        config.backoff.threshold.toNat ≤ (sessionsOf past).length ∧
          ∀ accepted ∈ (sessionsOf past).rtake config.backoff.threshold.toNat,
            accepted = false) := by
  intro hclaim
  obtain ⟨backoff, time, hrun⟩ := acceptedOnce_rests
  have hopen : backoff.isCircuitOpen = true := by
    rw [hrun.isCircuitOpen_eq (by decide)]
    decide
  -- the one session there has been was accepted
  have hfailed := ((hclaim _ _ _ backoff time hrun (by decide)).mp hopen).2 true (by decide)
  cases hfailed

end BrokerClient
