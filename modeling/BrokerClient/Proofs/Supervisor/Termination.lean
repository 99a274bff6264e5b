import BrokerClient.Proofs.Supervisor.DialHistory

/-!
# After the end has been signalled

Once the supervisor has been told to end, nothing is put in its slot any more, and no start goes on
to set a watcher going.  The second needs that a start is not interrupted between its check and the
spawn, so it is for cooperative runs.  A shutdown that has taken the handle leaves none behind, and
one that has taken the connection leaves the slot empty, both for good.
-/

namespace BrokerClient

/-! ## Turns -/

/-- After the end has been signalled a failover refuses what has answered. -/
theorem Failover.Advance.slot_eq {s s' : Supervisor} {b b' : Broker} {point point' : Failover}
    (hadvance : point.Advance s b s' b' point') (hterminated : s.terminated = true) :
    s'.slot = s.slot := by
  cases hadvance with
  | fill hopen hslot => cases hopen.symm.trans hterminated
  | replace hopen hslot => cases hopen.symm.trans hterminated
  | _ => rfl

theorem Watcher.Advance.slot_eq {s s' : Supervisor} {b b' : Broker} {point point' : Watcher}
    (hadvance : point.Advance s b s' b' point') (hterminated : s.terminated = true) :
    s'.slot = s.slot := by
  cases hadvance with
  | failover hgoesOn hadvance => exact hadvance.slot_eq hterminated
  | _ => rfl

/-- After the end has been signalled the watcher begins no dial. -/
theorem Watcher.Advance.dialLog_eq {s s' : Supervisor} {b b' : Broker} {point point' : Watcher}
    (hadvance : point.Advance s b s' b' point') (hterminated : s.terminated = true) :
    b'.dialLog = b.dialLog := by
  cases hadvance with
  | @failover attempt failover _ _ _ hgoesOn hadvance =>
      rw [hadvance.dialLog]
      cases failover with
      | next index last => simp [hterminated, Failover.isSafe] at hgoesOn
      | _ => simp [Failover.dials]
  | _ => rfl

namespace System

variable {w w' : System} {t : Nat}

/-- An empty slot stays empty once the end has been signalled. -/
theorem SupervisionTurn.slot_none (hturn : w.SupervisionTurn t w')
    (hterminated : w.supervisor.terminated = true) (hslot : w.supervisor.slot = none) :
    w'.supervisor.slot = none := by
  cases hturn with
  | connect htask hadvance hsupervisor hbroker htasks =>
      rw [hsupervisor, hadvance.slot_eq hterminated, hslot]
  | start htask hadvance hsupervisor hbroker htasks =>
      rw [hsupervisor]
      cases hadvance <;> exact hslot
  | shutdown htask hadvance hsupervisor hbroker htasks =>
      rw [hsupervisor]
      cases hadvance with
      | takeConnection => rfl
      | _ => exact hslot
  | watcher htask hadvance hsupervisor hbroker htasks =>
      rw [hsupervisor, hadvance.slot_eq hterminated, hslot]
  | other htask hother hother' hspawned hsupervisor hkeeps htasks => rw [hsupervisor, hslot]

/-- Where there is no handle there is none after a turn, unless a start sets a watcher going. -/
theorem SupervisionTurn.watcher_none (hturn : w.SupervisionTurn t w')
    (hspawning : w.tasks[t]? ≠ some (Task.start .spawning))
    (hwatcher : w.supervisor.watcher = none) : w'.supervisor.watcher = none := by
  cases hturn with
  | connect htask hadvance hsupervisor hbroker htasks =>
      rw [hsupervisor, hadvance.keepsControl.watcher, hwatcher]
  | start htask hadvance hsupervisor hbroker htasks =>
      rw [hsupervisor]
      cases hadvance with
      | spawn => exact absurd htask hspawning
      | _ => exact hwatcher
  | shutdown htask hadvance hsupervisor hbroker htasks =>
      rw [hsupervisor]
      cases hadvance with
      | takeWatcher => rfl
      | _ => exact hwatcher
  | watcher htask hadvance hsupervisor hbroker htasks =>
      rw [hsupervisor, hadvance.keepsControl.watcher, hwatcher]
  | other htask hother hother' hspawned hsupervisor hkeeps htasks => rw [hsupervisor, hwatcher]

variable {what : Happening}

theorem SupervisionChange.slot_none (hchange : w.SupervisionChange what w')
    (hterminated : w.supervisor.terminated = true) (hslot : w.supervisor.slot = none) :
    w'.supervisor.slot = none := by
  rcases hchange.turn_or_outside with ⟨t, rfl, hturn⟩ | houtside
  · exact hturn.slot_none hterminated hslot
  · rw [houtside.supervisor, hslot]

theorem SupervisionChange.watcher_none (hchange : w.SupervisionChange what w')
    (hspawning : ∀ t : Nat, w.tasks[t]? ≠ some (Task.start .spawning))
    (hwatcher : w.supervisor.watcher = none) : w'.supervisor.watcher = none := by
  rcases hchange.turn_or_outside with ⟨t, rfl, hturn⟩ | houtside
  · exact hturn.watcher_none (hspawning t) hwatcher
  · rw [houtside.supervisor, hwatcher]

end System

/-! ## What shutdowns leave behind -/

/-- Has the shutdown taken the handle of the watcher? -/
def Shutdown.hasTaken : Shutdown → Bool
  | joining _ | takingConnection | closing _ | finished _ => true
  | _ => false

/-- Has the shutdown emptied the slot? -/
def Shutdown.hasEmptied : Shutdown → Bool
  | closing _ | finished _ => true
  | _ => false

/-- What a shutdown leaves behind. -/
structure Shutdown.Leaves (s : Supervisor) (point : Shutdown) : Prop where
  watcher : point.hasTaken = true → s.watcher = none
  slot : point.hasEmptied = true → s.slot = none

theorem Shutdown.Advance.leaves {s s' : Supervisor} {b b' : Broker} {hasEnded : Nat → Bool}
    {point point' : Shutdown} (hadvance : point.Advance s b hasEnded s' b' point')
    (hleaves : point.Leaves s) : point'.Leaves s' := by
  cases hadvance with
  | signal => exact ⟨nofun, nofun⟩
  | takeWatcher hlock hwatcher => exact ⟨fun _ => rfl, nofun⟩
  | noWatcher hlock hwatcher => exact ⟨fun _ => hwatcher, nofun⟩
  | join hended => exact ⟨fun _ => hleaves.watcher rfl, nofun⟩
  | noConnection hslot => exact ⟨fun _ => hleaves.watcher rfl, fun _ => hslot⟩
  | takeConnection hslot => exact ⟨fun _ => hleaves.watcher rfl, fun _ => rfl⟩
  | leave hclosed => exact ⟨fun _ => hleaves.watcher rfl, fun _ => hleaves.slot rfl⟩
  | close hopen => exact ⟨fun _ => hleaves.watcher rfl, fun _ => hleaves.slot rfl⟩

namespace Run

variable {w₀ w : System} {past : List Moment}

/-- A start that is about to set a watcher going has not been interrupted since its check. -/
theorem terminated_of_spawning (hrun : Run w₀ past w) (hfresh : w₀.Fresh)
    (hcooperative : Cooperative past) {t : Nat}
    (htask : w.tasks[t]? = some (Task.start .spawning)) : w.supervisor.terminated = false := by
  cases hrun with
  | refl => exact absurd htask hfresh.not_task
  | @snoc past w₁ _ what hpast hafter =>
      have horderly := (cooperative_concat.mp hcooperative).2
      rcases (System.after_supervisionChange hafter).task_cases htask with
        ⟨hother, hkept⟩ | ⟨rfl, task, hbefore, hmoved⟩ | ⟨_, call, _, hcall⟩ | ⟨_, hwatcher, _⟩ |
        hother
      · -- a start between its check and the spawn does not rest, so that nobody else takes a turn
        cases horderly.rests hother hkept
      · cases hmoved with
        | start hadvance hsupervisor hbroker =>
            cases hadvance with
            | approve hwatcher hterminated => rw [hsupervisor, hterminated]
        | other hother' => cases hother'
      · cases call <;> cases hcall
      · cases hwatcher
      · cases hother

/-- What a shutdown has left behind stays so. -/
theorem shutdown_leaves (hrun : Run w₀ past w) (hfresh : w₀.Fresh) (hcooperative : Cooperative past)
    {t : Nat} {point : Shutdown} (htask : w.tasks[t]? = some (.shutdown point)) :
    point.Leaves w.supervisor := by
  induction hrun generalizing point with
  | refl => exact absurd htask hfresh.not_task
  | @snoc past w₁ w₂ what hpast hafter ih =>
      replace hcooperative := (cooperative_concat.mp hcooperative).1
      have hchange := System.after_supervisionChange hafter
      rcases hchange.task_cases htask with ⟨_, hkept⟩ | ⟨rfl, task, hbefore, hmoved⟩ |
        ⟨_, call, _, hcall⟩ | ⟨_, hwatcher, _⟩ | hother
      · -- others put nothing back: no failover fills the slot and no start sets a watcher going
        have hleaves := ih hcooperative hkept
        have hfits := hpast.allFit hfresh t _ hkept
        refine ⟨fun htaken => ?_, fun hemptied => ?_⟩
        · refine hchange.watcher_none (fun u hspawning => ?_) (hleaves.watcher htaken)
          have hopen := hpast.terminated_of_spawning hfresh hcooperative hspawning
          rw [hfits (by rintro rfl; cases htaken)] at hopen
          cases hopen
        · exact hchange.slot_none (hfits (by rintro rfl; cases hemptied)) (hleaves.slot hemptied)
      · cases hmoved with
        | shutdown hadvance hsupervisor hbroker =>
            rw [hsupervisor]
            exact hadvance.leaves (ih hcooperative hbefore)
        | other hother' => cases hother'
      · cases call <;> cases hcall
        exact ⟨nofun, nofun⟩
      · cases hwatcher
      · cases hother

end Run

/-! ## The end of the watcher -/

/-- Does the watcher come to its end from this point without anything else happening? -/
def Watcher.canExit : Watcher → Bool
  | reconnecting _ failover => failover.isSafe
  | lost _ _ => false
  | _ => true

/-- How many turns the watcher then takes at most. -/
def Watcher.turnsToExit : Watcher → Nat
  | starting => 4
  | looking => 3
  | stopping => 1
  | stopped => 0
  | _ => 2

theorem Watcher.canExit_of_rests {point : Watcher} (hrests : point.rests = true) :
    point.canExit = true := by
  cases point with
  | reconnecting attempt failover => cases failover <;> simp_all [rests, canExit, Failover.isSafe]
  | _ => simp_all [rests, canExit]

theorem Watcher.eq_stopped {point : Watcher} (hturns : point.turnsToExit = 0) :
    point = .stopped := by
  cases point <;> simp_all [turnsToExit]

theorem Watcher.turnsToExit_le (point : Watcher) : point.turnsToExit ≤ 4 := by
  cases point <;> simp [turnsToExit]

/-- Each turn after the end has been signalled brings the watcher nearer to its own. -/
theorem Watcher.step_of_terminated {s : Supervisor} {b : Broker} {point : Watcher}
    (hterminated : s.terminated = true) (hexit : point.canExit = true)
    (hrunning : 0 < point.turnsToExit) :
    ∃ point' log, point.step s b = some ⟨(s, b), point', log⟩ ∧ point'.canExit = true ∧
      point'.turnsToExit < point.turnsToExit := by
  cases point with
  | starting => exact ⟨looking, _, rfl, rfl, by simp [turnsToExit]⟩
  | looking =>
      cases hslot : s.slot with
      | some connection =>
          exact ⟨watching connection, [], by simp [step, hslot, goOn], rfl, by simp [turnsToExit]⟩
      | none =>
          exact ⟨idle (afterDelay s b), [], by simp [step, hslot, goOn], rfl, by simp [turnsToExit]⟩
  | lost connection reason => cases hexit
  | reconnecting attempt failover =>
      have hsafe : failover.isSafe = true := hexit
      exact ⟨stopping, [], by simp [step, hterminated, hsafe, goOn], rfl, by simp [turnsToExit]⟩
  | stopping => exact ⟨stopped, _, rfl, rfl, by simp [turnsToExit]⟩
  | stopped => cases hrunning
  | _ => exact ⟨stopping, [], by simp [step, hterminated, goOn], rfl, by simp [turnsToExit]⟩

/-- The end has been signalled, the broker is `b`, and the watcher `t` has so many turns left. -/
structure System.ExitsIn (t : Nat) (b : Broker) (left : Nat) (w : System) : Prop where
  terminated : w.supervisor.terminated = true
  broker : w.broker = b
  watcher : ∃ point : Watcher, w.tasks[t]? = some (.watcher point) ∧ point.canExit = true ∧
    point.turnsToExit = left

theorem System.ExitsIn.turn {w : System} {t left : Nat} {b : Broker}
    (hexits : ExitsIn t b (left + 1) w) :
    ∃ w' left', w.step t = some w' ∧ left' ≤ left ∧ ExitsIn t b left' w' := by
  obtain ⟨hterminated, hb, point, htask, hexit, hleft⟩ := hexits
  obtain ⟨point', log, hstep, hexit', hlt⟩ :=
    Watcher.step_of_terminated (b := w.broker) hterminated hexit (by omega)
  obtain ⟨w', hturn, hsupervisor, hbroker, htask'⟩ := step_of_watcher htask hstep
  exact ⟨w', _, hturn, by omega, hsupervisor ▸ hterminated, hbroker.trans hb, point', htask',
    hexit', rfl⟩

/-- Once the end has been signalled, a watcher that rests comes to its end as soon as it runs, and
asks the broker for nothing. -/
theorem System.watcher_exits {w : System} {t : Nat} {point : Watcher}
    (htask : w.tasks[t]? = some (.watcher point)) (hterminated : w.supervisor.terminated = true)
    (hexit : point.canExit = true) {turns : Nat} (hturns : point.turnsToExit ≤ turns) :
    (Schedule.runTask turns w t).tasks[t]? = some (.watcher .stopped) ∧
      (Schedule.runTask turns w t).broker = w.broker := by
  have hended (w' : System) (hexits : ExitsIn t w.broker 0 w') : w'.step t = none := by
    obtain ⟨_, _, point', htask', _, hstopped⟩ := hexits
    obtain rfl := Watcher.eq_stopped hstopped
    simp [System.step, htask', Watcher.step]
  obtain ⟨_, hbroker, point', htask', _, hstopped⟩ := Schedule.runTask_ends (ExitsIn t w.broker)
    hended (fun _ _ hexits => hexits.turn) ⟨hterminated, rfl, point, htask, hexit, rfl⟩ hturns
  exact ⟨Watcher.eq_stopped hstopped ▸ htask', hbroker⟩

namespace Run

variable {w₀ w w' : System} {past more : List Moment}

/-- Once the end has been signalled no watcher is set going any more. -/
theorem watcherAt_of_terminated (hpast : Run w₀ past w) (hmore : Run w more w') (hfresh : w₀.Fresh)
    (hcooperative : Cooperative (past ++ more)) (hterminated : w.supervisor.terminated = true)
    {t : Nat} (hwatcher : w'.WatcherAt t) : w.WatcherAt t := by
  induction hmore with
  | refl => exact hwatcher
  | @snoc more w₁ w₂ what hmore hafter ih =>
      rw [← List.append_assoc] at hcooperative
      replace hcooperative := (cooperative_concat.mp hcooperative).1
      obtain ⟨task, htask, hwatches⟩ := hwatcher
      rcases (System.after_supervisionChange hafter).task_cases htask with ⟨_, hkept⟩ |
        ⟨_, task', hbefore, hmoved⟩ | ⟨_, call, _, rfl⟩ | ⟨_, _, u, _, hspawning⟩ | hother
      · exact ih hcooperative ⟨task, hkept, hwatches⟩
      · cases hmoved with
        | watcher => exact ih hcooperative ⟨_, hbefore, rfl⟩
        | other hother' => cases task <;> simp_all [Task.isWatcher, Task.isSupervision]
        | _ => cases hwatches
      · cases call <;> cases hwatches
      · have hopen :=
          (hpast.append hmore).terminated_of_spawning hfresh hcooperative hspawning
        cases hopen.symm.trans (hmore.lasts.2 hterminated)
      · cases task <;> simp_all [Task.isWatcher, Task.isSupervision]

/-- Once the end has been signalled a watcher asks for no dial. -/
theorem watcher_dials_nothing (hmore : Run w more w') (hterminated : w.supervisor.terminated = true)
    {m : Moment} (hmem : m ∈ more) {t : Nat} (hturn : m.what = .turn t)
    (hwatcher : m.before.WatcherAt t) : m.dials = [] := by
  obtain ⟨earlier, later, _, hearlier, hafter, _⟩ := hmore.exists_of_mem hmem
  obtain ⟨task, htask, hwatches⟩ := hwatcher
  rw [hturn] at hafter
  have hterminated' := hearlier.lasts.2 hterminated
  have hsame : m.after.broker.dialLog = m.before.broker.dialLog := by
    cases (System.after_supervisionChange hafter).of_turn with
    | watcher hbefore hadvance hsupervisor hbroker htasks =>
        rw [hbroker, hadvance.dialLog_eq hterminated']
    | other hbefore hother =>
        cases htask.symm.trans hbefore
        cases task <;> simp_all [Task.isWatcher, Task.isSupervision]
    | connect hbefore => cases htask.symm.trans hbefore; cases hwatches
    | start hbefore => cases htask.symm.trans hbefore; cases hwatches
    | shutdown hbefore => cases htask.symm.trans hbefore; cases hwatches
  rw [Moment.dials, hsame, List.drop_length]

end Run

end BrokerClient
