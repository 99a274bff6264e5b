import BrokerClient.Proofs.Supervisor.Termination

/-!
# Shutdown is final

Once a shutdown has returned the slot is empty for good.  A connect that is still under way, or that
is begun later, dials as it always does, but what answers it is asked to close again; the connect
ends as terminated.  A shutdown that is begun later finds nothing to do.

A close that fails is only logged, so that a late connection can stay open then.
-/

namespace BrokerClient

/-! ## Connections that come too late -/

/-- Has the failover got this connection without having put it in place? -/
def Failover.hasGot (c : Nat) : Failover → Bool
  | answered _ connection | refusing connection => connection = c
  | _ => false

@[inherit_doc Failover.hasGot]
def Task.hasGot (c : Nat) : Task → Bool
  | connect point => point.hasGot c
  | watcher (.reconnecting _ point) => point.hasGot c
  | _ => false

/-- Has the broker been asked at the moment to close the connection, which had been dialed? -/
structure Moment.AsksToClose (m : Moment) (c : Nat) : Prop where
  dialed : c < m.before.broker.connections.length
  asked : m.after.broker = (m.before.broker.closeConnection c).1

/-- A failover that refuses a connection asks the broker to close it. -/
theorem Failover.Advance.hasGot {s s' : Supervisor} {b b' : Broker} {point point' : Failover}
    {c : Nat} (hadvance : point.Advance s b s' b' point') (hterminated : s.terminated = true)
    (hgot : point.hasGot c = true) :
    point'.hasGot c = true ∨ b' = (b.closeConnection c).1 := by
  cases hadvance with
  | refuse => exact .inl hgot
  | fill hopen => cases hopen.symm.trans hterminated
  | replace hopen => cases hopen.symm.trans hterminated
  | discard =>
      obtain rfl := of_decide_eq_true hgot
      exact .inr rfl
  | _ => cases hgot

/-- Only the end of a dial brings a connection, and then the failover has got it. -/
theorem Failover.Advance.hasGot_of_new {s s' : Supervisor} {b b' : Broker} {point point' : Failover}
    {c : Nat} (hadvance : point.Advance s b s' b' point') (hold : b.connections.length ≤ c)
    (hnew : c < b'.connections.length) : point'.hasGot c = true := by
  have hsame (hlength : b'.connections.length = b.connections.length) : False := by omega
  cases hadvance with
  | reach hwait hdial =>
      have hadds := Broker.endDial_ok hdial
      have hlength := hadds.length
      have heq := hadds.eq_length
      exact decide_eq_true (by omega)
  | miss hwait hdial => exact (hsame (by rw [(Broker.endDial_error hdial).connections])).elim
  | discard => exact (hsame (b.closeConnection_mayClose _).length).elim
  | close hopen => exact (hsame (b.closeConnection_mayClose _).length).elim
  | _ => exact (hsame rfl).elim

theorem Watcher.Advance.hasGot {s s' : Supervisor} {b b' : Broker} {point point' : Watcher}
    {c : Nat} (hadvance : point.Advance s b s' b' point') (hterminated : s.terminated = true)
    (hgot : (Task.watcher point).hasGot c = true) :
    (Task.watcher point').hasGot c = true ∨ b' = (b.closeConnection c).1 := by
  cases hadvance with
  | failover hgoesOn hadvance => exact hadvance.hasGot hterminated hgot
  | @leaveFailover attempt failover _ hsafe =>
      cases failover <;> simp_all [Task.hasGot, Failover.hasGot, Failover.isSafe]
  | _ => cases hgot

theorem Watcher.Advance.hasGot_of_new {s s' : Supervisor} {b b' : Broker} {point point' : Watcher}
    {c : Nat} (hadvance : point.Advance s b s' b' point') (hold : b.connections.length ≤ c)
    (hnew : c < b'.connections.length) : (Task.watcher point').hasGot c = true := by
  cases hadvance with
  | failover hgoesOn hadvance => exact hadvance.hasGot_of_new hold hnew
  | _ => omega

theorem Task.rests_of_hasGot {task : Task} {c : Nat} (hgot : task.hasGot c = true) :
    task.rests = false := by
  cases task with
  | connect point => cases point <;> simp_all [hasGot, Failover.hasGot, rests, Failover.rests]
  | watcher point =>
      cases point with
      | reconnecting attempt failover =>
          cases failover <;> simp_all [hasGot, Failover.hasGot, rests, Watcher.rests]
      | _ => cases hgot
  | _ => cases hgot

namespace System

variable {w w' : System} {t c : Nat}

/-- A task that has got a connection after the end has been signalled still has got it after its
turn, or has asked the broker to close it. -/
theorem SupervisionTurn.hasGot {task : Task} (hturn : w.SupervisionTurn t w')
    (htask : w.tasks[t]? = some task) (hterminated : w.supervisor.terminated = true)
    (hgot : task.hasGot c = true) :
    (∃ task', w'.tasks[t]? = some task' ∧ task'.hasGot c = true) ∨
      w'.broker = (w.broker.closeConnection c).1 := by
  cases hturn with
  | @connect _ point' _ _ hbefore hadvance hsupervisor hbroker htasks =>
      cases htask.symm.trans hbefore
      refine (hadvance.hasGot hterminated hgot).imp (fun hgot' => ?_) (hbroker.trans ·)
      exact ⟨.connect point', by rw [htasks]; exact task_set_self htask, hgot'⟩
  | start hbefore =>
      cases htask.symm.trans hbefore
      cases hgot
  | shutdown hbefore =>
      cases htask.symm.trans hbefore
      cases hgot
  | watcher hbefore hadvance hsupervisor hbroker htasks =>
      cases htask.symm.trans hbefore
      refine (hadvance.hasGot hterminated hgot).imp (fun hgot' => ?_) (hbroker.trans ·)
      exact ⟨_, by rw [htasks]; exact task_set_self htask, hgot'⟩
  | other hbefore hother =>
      cases htask.symm.trans hbefore
      cases task <;> simp_all [Task.hasGot, Task.isSupervision]

/-- Whoever brings a connection has got it. -/
theorem SupervisionChange.hasGot_of_new {what : Happening} (hchange : w.SupervisionChange what w')
    (hold : w.broker.connections.length ≤ c) (hnew : c < w'.broker.connections.length) :
    ∃ (t : Nat) (task : Task), w'.tasks[t]? = some task ∧ task.hasGot c = true := by
  have hsame (hlength : w'.broker.connections.length = w.broker.connections.length) : False := by
    omega
  cases hchange with
  | turn hturn =>
      cases hturn with
      | @connect _ point' _ _ htask hadvance hsupervisor hbroker htasks =>
          rw [hbroker] at hnew
          exact ⟨_, .connect point', by rw [htasks]; exact task_set_self htask,
            hadvance.hasGot_of_new hold hnew⟩
      | start htask hadvance hsupervisor hbroker htasks => exact (hsame (by rw [hbroker])).elim
      | shutdown htask hadvance hsupervisor hbroker htasks =>
          refine (hsame ?_).elim
          rw [hbroker]
          cases hadvance with
          | close hopen => exact (w.broker.closeConnection_mayClose _).length
          | _ => rfl
      | watcher htask hadvance hsupervisor hbroker htasks =>
          rw [hbroker] at hnew
          exact ⟨_, _, by rw [htasks]; exact task_set_self htask, hadvance.hasGot_of_new hold hnew⟩
      | other htask hother hother' hspawned hsupervisor hkeeps htasks =>
          exact (hsame (by rw [hkeeps.connections])).elim
  | call hsupervisor hbroker htasks => exact (hsame (by rw [hbroker])).elim
  | abort htask hrests hpending hsupervisor hkeeps htasks =>
      exact (hsame (by rw [hkeeps.connections])).elim
  | incident hsupervisor hbroker htasks =>
      exact (hsame (by rw [hbroker, w.broker.after_length])).elim
  | tokens hwhat hsupervisor hbroker htasks => exact (hsame (by rw [hbroker])).elim

end System

namespace Run

variable {w₀ w w' : System} {past more : List Moment}

/-- A connection that is dialed after the end has been signalled is in the hands of the task that
has got it, or the broker has been asked to close it. -/
theorem late_connection (hmore : Run w more w') (hterminated : w.supervisor.terminated = true)
    {c : Nat} (hlate : w.broker.connections.length ≤ c)
    (hdialed : c < w'.broker.connections.length) :
    (∃ (t : Nat) (task : Task), w'.tasks[t]? = some task ∧ task.hasGot c = true) ∨
      ∃ m ∈ more, m.AsksToClose c := by
  induction hmore with
  | refl => omega
  | @snoc more w₁ w₂ what hmore hafter ih =>
      have hchange := System.after_supervisionChange hafter
      rcases lt_or_ge c w₁.broker.connections.length with hold | hnew
      · rcases ih hold with ⟨t, task, htask, hgot⟩ | ⟨m, hmem, hasks⟩
        · -- only its own turn takes the connection away from the task that has got it
          by_cases hturn : what = .turn t
          · subst hturn
            rcases hchange.of_turn.hasGot htask (hmore.lasts.2 hterminated) hgot with
              ⟨task', htask', hgot'⟩ | hasked
            · exact .inl ⟨t, task', htask', hgot'⟩
            · exact .inr ⟨⟨w₁, .turn t, w₂⟩, by simp, hold, hasked⟩
          · have hkept := hchange.task_kept hturn (.inl (Task.rests_of_hasGot hgot)) htask
            exact .inl ⟨t, task, hkept, hgot⟩
        · exact .inr ⟨m, List.mem_append_left _ hmem, hasks⟩
      · exact .inl (hchange.hasGot_of_new hnew hdialed)

/-- Once all tasks rest, the broker has been asked to close every late connection, and each is
closed whose close did not fail. -/
theorem late_connection_closed (hmore : Run w more w')
    (hterminated : w.supervisor.terminated = true) (hrest : w'.AtRest) {c : Nat}
    (hlate : w.broker.connections.length ≤ c) (hdialed : c < w'.broker.connections.length) :
    ∃ m ∈ more, m.AsksToClose c ∧ ((m.before.broker.takeFailure .closeConnection).1 = none →
      w'.broker.connectionClosed c = true) := by
  rcases hmore.late_connection hterminated hlate hdialed with ⟨t, task, htask, hgot⟩ |
    ⟨m, hmem, hasks⟩
  · cases (Task.rests_of_hasGot hgot).symm.trans (hrest.rests htask)
  · refine ⟨m, hmem, hasks, fun hsucceeds => ?_⟩
    obtain ⟨_, _, _, _, _, hlater⟩ := hmore.exists_of_mem hmem
    have hclosed := Broker.connectionClosed_closeConnection c hsucceeds
    rw [← hasks.asked] at hclosed
    refine hlater.keepsClosed.closed c ?_ hclosed
    rw [hasks.asked, (m.before.broker.closeConnection_mayClose c).length]
    exact hasks.dialed

end Run

/-! ## Shutdowns that come later -/

/-- The supervisor after a shutdown has returned. -/
structure Supervisor.IsShut (s : Supervisor) : Prop where
  terminated : s.terminated = true
  slot : s.slot = none
  watcher : s.watcher = none

/-- Is it a point of a shutdown that has found nothing to do? -/
def Shutdown.isIdle : Shutdown → Bool
  | signalling | takingWatcher | takingConnection | finished (.ok ()) => true
  | _ => false

/-- How many turns a shutdown that finds nothing to do still takes. -/
def Shutdown.turnsLeft : Shutdown → Nat
  | signalling => 3
  | takingWatcher => 2
  | takingConnection => 1
  | _ => 0

theorem Shutdown.Advance.isIdle {s s' : Supervisor} {b b' : Broker} {hasEnded : Nat → Bool}
    {point point' : Shutdown} (hadvance : point.Advance s b hasEnded s' b' point')
    (hshut : s.IsShut) (hidle : point.isIdle = true) : point'.isIdle = true ∧ b' = b := by
  cases hadvance with
  | takeWatcher hlock hwatcher => cases hshut.watcher.symm.trans hwatcher
  | takeConnection hslot => cases hshut.slot.symm.trans hslot
  | signal | noWatcher | noConnection => exact ⟨rfl, rfl⟩
  | _ => cases hidle

theorem Shutdown.eq_finished {point : Shutdown} (hidle : point.isIdle = true)
    (hturns : point.turnsLeft = 0) : point = .finished (.ok ()) := by
  unfold isIdle at hidle
  split at hidle
  · cases hturns
  · cases hturns
  · cases hturns
  · rfl
  · cases hidle

/-- A shutdown that finds nothing to do is not held up as long as nobody holds the lock. -/
theorem Shutdown.step_of_isShut {s : Supervisor} {b : Broker} {hasEnded : Nat → Bool}
    {point : Shutdown} (hshut : s.IsShut) (hlock : s.lockedBy = none) (hidle : point.isIdle = true)
    (hrunning : 0 < point.turnsLeft) :
    ∃ s' point' log, point.step s b hasEnded = some ⟨(s', b), point', log⟩ ∧ s'.IsShut ∧
      s'.lockedBy = none ∧ point'.isIdle = true ∧ point'.turnsLeft < point.turnsLeft := by
  cases point with
  | signalling =>
      exact ⟨_, takingWatcher, [], rfl, ⟨rfl, hshut.slot, hshut.watcher⟩, hlock, rfl,
        by simp [turnsLeft]⟩
  | takingWatcher =>
      exact ⟨{ s with watcher := none }, takingConnection, [], by simp [step, hlock, hshut.watcher],
        ⟨hshut.terminated, hshut.slot, rfl⟩, hlock, rfl, by simp [turnsLeft]⟩
  | takingConnection =>
      exact ⟨s, finished (.ok ()), [], by simp [step, hshut.slot], hshut, hlock, rfl,
        by simp [turnsLeft]⟩
  | _ => cases hrunning

/-- The supervisor is shut, nobody holds the lock, the broker is `b`, and the shutdown `t`, which
has found nothing to do, has so many turns left. -/
structure System.ReturnsIn (t : Nat) (b : Broker) (left : Nat) (w : System) : Prop where
  shut : w.supervisor.IsShut
  lock : w.supervisor.lockedBy = none
  broker : w.broker = b
  shutdown : ∃ point : Shutdown, w.tasks[t]? = some (.shutdown point) ∧ point.isIdle = true ∧
    point.turnsLeft = left

theorem System.ReturnsIn.turn {w : System} {t left : Nat} {b : Broker}
    (hreturns : ReturnsIn t b (left + 1) w) :
    ∃ w' left', w.step t = some w' ∧ left' ≤ left ∧ ReturnsIn t b left' w' := by
  obtain ⟨hshut, hlock, hb, point, htask, hidle, hleft⟩ := hreturns
  obtain ⟨s', point', log, hstep, hshut', hlock', hidle', hlt⟩ :=
    Shutdown.step_of_isShut (b := w.broker) hshut hlock hidle (by omega)
  obtain ⟨w', hturn, hsupervisor, hbroker, htask'⟩ := step_of_shutdown htask hstep
  exact ⟨w', _, hturn, by omega, hsupervisor ▸ hshut', hsupervisor ▸ hlock', hbroker.trans hb,
    point', htask', hidle', rfl⟩

/-- A shutdown that finds nothing to do returns as soon as it runs, and asks the broker for
nothing. -/
theorem System.shutdown_returns {w : System} {t : Nat} {point : Shutdown}
    (htask : w.tasks[t]? = some (.shutdown point)) (hshut : w.supervisor.IsShut)
    (hlock : w.supervisor.lockedBy = none) (hidle : point.isIdle = true) {turns : Nat}
    (hturns : point.turnsLeft ≤ turns) :
    (Schedule.runTask turns w t).tasks[t]? = some (.shutdown (.finished (.ok ()))) ∧
      (Schedule.runTask turns w t).broker = w.broker := by
  have hended (w' : System) (hreturns : ReturnsIn t w.broker 0 w') : w'.step t = none := by
    obtain ⟨_, _, _, point', htask', hidle', hfinished⟩ := hreturns
    obtain rfl := Shutdown.eq_finished hidle' hfinished
    simp [System.step, htask', Shutdown.step]
  obtain ⟨_, _, hbroker, point', htask', hidle', hfinished⟩ :=
    Schedule.runTask_ends (ReturnsIn t w.broker) hended (fun _ _ hreturns => hreturns.turn)
      ⟨hshut, hlock, rfl, point, htask, hidle, rfl⟩ hturns
  exact ⟨Shutdown.eq_finished hidle' hfinished ▸ htask', hbroker⟩

namespace Run

variable {w₀ w w' : System} {past more : List Moment}

/-- A shutdown that has returned has returned for good. -/
theorem finished_stays (hmore : Run w more w') {t : Nat} {result : Except BrokerError Unit}
    (htask : w.tasks[t]? = some (.shutdown (.finished result))) :
    w'.tasks[t]? = some (.shutdown (.finished result)) := by
  induction hmore with
  | refl => exact htask
  | @snoc more w₁ w₂ what hmore hafter ih =>
      have hchange := System.after_supervisionChange hafter
      refine hchange.task_kept (fun hturn => ?_) (.inr rfl) ih
      subst hturn
      have hblocked : w₁.step t = none := by simp [System.step, ih, Shutdown.step]
      cases hblocked.symm.trans hafter

theorem isShut (hrun : Run w₀ past w) (hfresh : w₀.Fresh) (hcooperative : Cooperative past)
    {t : Nat} {result : Except BrokerError Unit}
    (htask : w.tasks[t]? = some (.shutdown (.finished result))) : w.supervisor.IsShut := by
  have hleaves := hrun.shutdown_leaves hfresh hcooperative htask
  exact ⟨hrun.allFit hfresh t _ htask nofun, hleaves.slot rfl, hleaves.watcher rfl⟩

theorem late_shutdown_isIdle (hpast : Run w₀ past w) (hmore : Run w more w') (hfresh : w₀.Fresh)
    (hcooperative : Cooperative (past ++ more)) {t u : Nat} {result : Except BrokerError Unit}
    (hreturned : w.tasks[u]? = some (.shutdown (.finished result))) (hlate : w.tasks.length ≤ t)
    {point : Shutdown} (htask : w'.tasks[t]? = some (.shutdown point)) : point.isIdle = true := by
  induction hmore generalizing point with
  | refl =>
      rw [List.getElem?_eq_none hlate] at htask
      cases htask
  | @snoc more w₁ w₂ what hmore hafter ih =>
      rw [← List.append_assoc] at hcooperative
      replace hcooperative := (cooperative_concat.mp hcooperative).1
      have hshut := (hpast.append hmore).isShut hfresh hcooperative (hmore.finished_stays hreturned)
      rcases (System.after_supervisionChange hafter).task_cases htask with ⟨_, hkept⟩ |
        ⟨rfl, task, hbefore, hmoved⟩ | ⟨_, call, _, hcall⟩ | ⟨_, hwatcher, _⟩ | hother
      · exact ih hcooperative hkept
      · cases hmoved with
        | shutdown hadvance hsupervisor hbroker =>
            exact (hadvance.isIdle hshut (ih hcooperative hbefore)).1
        | other hother' => cases hother'
      · cases call <;> cases hcall
        rfl
      · cases hwatcher
      · cases hother

/-- A shutdown that is begun later asks the broker for nothing. -/
theorem late_shutdown_closes_nothing (hpast : Run w₀ past w) (hmore : Run w more w')
    (hfresh : w₀.Fresh) (hcooperative : Cooperative (past ++ more)) {t u : Nat}
    {result : Except BrokerError Unit}
    (hreturned : w.tasks[u]? = some (.shutdown (.finished result)))
    (hlate : w.tasks.length ≤ t) {m : Moment} (hmem : m ∈ more) (hturn : m.what = .turn t)
    {point : Shutdown} (htask : m.before.tasks[t]? = some (.shutdown point)) :
    m.after.broker = m.before.broker := by
  obtain ⟨earlier, later, rfl, hearlier, hafter, _⟩ := hmore.exists_of_mem hmem
  have hcooperative' : Cooperative (past ++ earlier) := fun m' hmem' =>
    hcooperative m' (by rw [← List.append_assoc]; exact List.mem_append_left _ hmem')
  have hidle := hpast.late_shutdown_isIdle hearlier hfresh hcooperative' hreturned hlate htask
  have hshut := (hpast.append hearlier).isShut hfresh hcooperative'
    (hearlier.finished_stays hreturned)
  rw [hturn] at hafter
  cases (System.after_supervisionChange hafter).of_turn with
  | shutdown hbefore hadvance hsupervisor hbroker htasks =>
      cases htask.symm.trans hbefore
      rw [hbroker, (hadvance.isIdle hshut hidle).2]
  | other hbefore hother =>
      cases htask.symm.trans hbefore
      cases hother
  | connect hbefore => cases htask.symm.trans hbefore
  | start hbefore => cases htask.symm.trans hbefore
  | watcher hbefore => cases htask.symm.trans hbefore

/-- Nobody holds the lock while all tasks rest. -/
theorem lockedBy_of_atRest (hrun : Run w₀ past w) (hfresh : w₀.Fresh) (hrest : w.AtRest) :
    w.supervisor.lockedBy = none := by
  cases hlocked : w.supervisor.lockedBy with
  | none => rfl
  | some t =>
      obtain ⟨point, htask, hlocks⟩ := (hrun.oneWatcher hfresh).lock t hlocked
      have hrests := hrest.rests htask
      cases point <;> simp_all [Start.locks, Task.rests, Start.rests]

/-- A connect that is begun after the end has been signalled ends as terminated when an endpoint has
answered, and with the last error when none has. -/
theorem late_connect_result (hmore : Run w more w') (hterminated : w.supervisor.terminated = true)
    (hendpoints : w.supervisor.endpoints ≠ []) {t : Nat} (hlate : w.tasks.length ≤ t)
    {result : Except BrokerError Unit}
    (htask : w'.tasks[t]? = some (.connect (.finished result))) :
    (Found w.supervisor.endpoints (dialedBy t more) (answersTo t more) ∧
        result = .error .terminated) ∨
      ∃ errors e, Tried w.supervisor.endpoints (dialedBy t more) (answersTo t more) errors ∧
        errors.length = w.supervisor.endpoints.length ∧ errors.getLast? = some e ∧
        result = .error e := by
  rcases hmore.connect_history hlate htask with ⟨hfound, ⟨_, hopen⟩ | hresult⟩ |
    ⟨errors, htried, hlength, hresult⟩
  · exact absurd hterminated hopen
  · exact .inl ⟨hfound, hresult⟩
  · have hne : errors ≠ [] := by
      rintro rfl
      exact hendpoints (List.length_eq_zero_iff.mp hlength.symm)
    have hlast := List.getLast?_eq_some_getLast hne
    exact .inr ⟨errors, _, htried, hlength, hlast, by rw [hresult, failureResult, hlast]⟩

end Run

/-! ## The whole -/

/-- What holds at `w'` if the end has been signalled at `w` and `more` has happened since: no
watcher has been set going, none has begun a dial, and one that runs comes to its end. -/
structure WatcherEnds (w : System) (more : List Moment) (w' : System) : Prop where
  spawned : ∀ t, w'.WatcherAt t → w.WatcherAt t
  dials : ∀ m ∈ more, ∀ t, m.what = .turn t → m.before.WatcherAt t → m.dials = []
  exits : w'.AtRest → ∀ t, w'.WatcherAt t → ∀ turns ≥ 4,
    (Schedule.runTask turns w' t).tasks[t]? = some (.watcher .stopped) ∧
      (Schedule.runTask turns w' t).broker = w'.broker

/-- What holds at `w'` if a shutdown had returned at `w` and `more` has happened since. -/
structure StaysShut (w : System) (more : List Moment) (w' : System) : Prop where
  /-- There is no connection in use. -/
  slot : w'.supervisor.slot = none
  disconnected : w'.supervisor.isConnected w'.broker = false
  /-- The broker has been asked to close what has been dialed since. -/
  dialed : w'.AtRest → ∀ c, w.broker.connections.length ≤ c → c < w'.broker.connections.length →
    ∃ m ∈ more, m.AsksToClose c ∧ ((m.before.broker.takeFailure .closeConnection).1 = none →
      w'.broker.connectionClosed c = true)
  /-- A connect that has been begun since is at its end, waits for a dial or comes nearer to its end
  with its next turn. -/
  advances : ∀ (t : Nat) (point : Failover), w.tasks.length ≤ t →
    w'.tasks[t]? = some (.connect point) → (∃ result, point = .finished result) ∨
      (∃ index last wait, point = .dialing index last wait ∧ w'.broker.progress wait ≠ .passed) ∨
      ∃ w'' point', w'.after? (.turn t) = some w'' ∧ w''.tasks[t]? = some (.connect point') ∧
        point'.turnsLeft w.supervisor.endpoints.length <
          point.turnsLeft w.supervisor.endpoints.length
  /-- It has dialed up to the first endpoint that has answered and ends as terminated, or has dialed
  them all and ends with the last error. -/
  connects : w.supervisor.endpoints ≠ [] → ∀ (t : Nat) (result : Except BrokerError Unit),
    w.tasks.length ≤ t → w'.tasks[t]? = some (.connect (.finished result)) →
    (Found w.supervisor.endpoints (dialedBy t more) (answersTo t more) ∧
        result = .error .terminated) ∨
      ∃ errors e, Tried w.supervisor.endpoints (dialedBy t more) (answersTo t more) errors ∧
        errors.length = w.supervisor.endpoints.length ∧ errors.getLast? = some e ∧
        result = .error e
  /-- A shutdown that has been begun since asks the broker for nothing and returns without error. -/
  closes : ∀ m ∈ more, ∀ (t : Nat) (point : Shutdown), w.tasks.length ≤ t → m.what = .turn t →
    m.before.tasks[t]? = some (.shutdown point) → m.after.broker = m.before.broker
  returns : w'.AtRest → ∀ (t : Nat) (point : Shutdown), w.tasks.length ≤ t →
    w'.tasks[t]? = some (.shutdown point) → ∀ turns ≥ 3,
    (Schedule.runTask turns w' t).tasks[t]? = some (.shutdown (.finished (.ok ()))) ∧
      (Schedule.runTask turns w' t).broker = w'.broker

/-- However tasks take turns where they rest: from the end of any shutdown on the supervisor stays
shut, and from the signal on its watcher does nothing but end. -/
theorem Run.shutdown_is_final {w₀ w w' : System} {past more : List Moment} (hpast : Run w₀ past w)
    (hmore : Run w more w') (hfresh : w₀.Fresh) (hcooperative : Cooperative (past ++ more)) :
    (w.supervisor.terminated = true → WatcherEnds w more w') ∧
      ∀ (u : Nat) (result : Except BrokerError Unit),
        w.tasks[u]? = some (.shutdown (.finished result)) → StaysShut w more w' := by
  constructor
  · intro hterminated
    refine ⟨fun t => hpast.watcherAt_of_terminated hmore hfresh hcooperative hterminated,
      fun m hmem t => hmore.watcher_dials_nothing hterminated hmem, ?_⟩
    rintro hrest t ⟨task, htask, hwatches⟩ turns hturns
    cases task with
    | watcher point =>
        exact System.watcher_exits htask (hmore.lasts.2 hterminated)
          (Watcher.canExit_of_rests (hrest.rests htask)) (point.turnsToExit_le.trans hturns)
    | _ => cases hwatches
  · intro u result hreturned
    have hterminated := hpast.allFit hfresh u _ hreturned nofun
    have hshut := (hpast.append hmore).isShut hfresh hcooperative (hmore.finished_stays hreturned)
    refine ⟨hshut.slot, by simp [Supervisor.isConnected, hshut.slot],
      fun hrest c => hmore.late_connection_closed hterminated hrest,
      fun t point hlate => hmore.connect_advances hlate,
      fun hendpoints t result hlate => hmore.late_connect_result hterminated hendpoints hlate,
      fun m hmem t point hlate hturn htask => hpast.late_shutdown_closes_nothing hmore hfresh
        hcooperative hreturned hlate hmem hturn htask, ?_⟩
    intro hrest t point hlate htask turns hturns
    have hidle := hpast.late_shutdown_isIdle hmore hfresh hcooperative hreturned hlate htask
    refine System.shutdown_returns htask hshut
      ((hpast.append hmore).lockedBy_of_atRest hfresh hrest) hidle (le_trans ?_ hturns)
    cases point <;> simp [Shutdown.turnsLeft]

/-- A client that has connected, set its watcher going and shut down. -/
def untilShutdown : List Happening :=
  [.call .connect] ++ List.replicate 4 (.turn 0) ++ [.call .start] ++ List.replicate 4 (.turn 1) ++
  List.replicate 2 (.turn 2) ++ [.call .shutdown] ++ List.replicate 2 (.turn 3) ++
  List.replicate 2 (.turn 2) ++ List.replicate 3 (.turn 3)

/-- It connects and shuts down again. -/
def sinceShutdown : List Happening :=
  [.call .connect] ++ List.replicate 4 (.turn 4) ++ [.call .shutdown] ++ List.replicate 3 (.turn 5)

theorem sinceShutdown_refused :
    (∃ m ∈ ((System.single.played untilShutdown).2.played sinceShutdown).1, m.AsksToClose 1) ∧
      (Schedule.runTask 4 ((System.single.played untilShutdown).2.played sinceShutdown).2 2).tasks[2]?
        = some (.watcher .stopped) := by
  obtain ⟨hends, hshut⟩ := (System.single.run_played untilShutdown).shutdown_is_final
    ((System.single.played untilShutdown).2.run_played sinceShutdown) System.single_fresh (by decide)
  obtain ⟨m, hmem, hasks, _⟩ :=
    (hshut 3 (.ok ()) rfl).dialed (by decide) 1 (by decide) (by decide)
  exact ⟨⟨m, hmem, hasks⟩, ((hends (by decide)).exits (by decide) 2 ⟨_, rfl, rfl⟩ 4 le_rfl).1⟩

/-- A late connection whose close fails stays open. -/
theorem not_forall_late_connection_closed :
    ¬ ∀ (w₀ w w' : System) (past more : List Moment) (u c : Nat)
      (result : Except BrokerError Unit), w₀.Fresh → Run w₀ past w → Run w more w' →
      Cooperative (past ++ more) → w.tasks[u]? = some (.shutdown (.finished result)) →
      w'.AtRest → w.broker.connections.length ≤ c → c < w'.broker.connections.length →
      w'.broker.connectionClosed c = true := by
  intro hclaim
  have hclosed := hclaim _ _ _ _ _ 3 1 (.ok ()) System.single_fresh
    (System.single.run_played untilShutdown)
    ((System.single.played untilShutdown).2.run_played
      (.incident (.queueFailure .closeConnection (.unknown "refused")) :: sinceShutdown))
    (by decide) rfl (by decide) (by decide) (by decide)
  exact absurd hclosed (by decide)

end BrokerClient
