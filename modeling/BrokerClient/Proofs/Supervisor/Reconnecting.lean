import BrokerClient.Proofs.Supervisor.Lifecycle
import BrokerClient.Proofs.Supervisor.OneConnection

/-!
# What a reconnect replaces

The watcher looks once whether there is an open connection, when it has lost the one that it
watched, and then dials round after round until an endpoint answers.  It does not look again before
it puts the new connection in place.  So what it replaces is closed if nobody else has connected
since that look; otherwise it is the connection of the last connect, be it open or not.
`installedSince` reads that connection off the run.
-/

namespace BrokerClient

/-! ## Looks and connects -/

/-- The connection that a connect puts in place at a moment. -/
def Moment.installed? (m : Moment) : Option Nat :=
  match m.what with
  | .turn t =>
    match m.before.tasks[t]? with
    | some (.connect (.answered _ connection)) =>
      if m.before.supervisor.terminated then none else some connection
    | _ => none
  | _ => none

def Task.hasLost : Task → Bool
  | watcher (.lost _ _) => true
  | _ => false

/-- Does the watcher `t` look at a moment whether there is an open connection? -/
def Moment.isLook (t : Nat) (m : Moment) : Bool :=
  match m.what with
  | .turn u => u = t && (m.before.tasks[u]?).any Task.hasLost
  | _ => false

/-- The connection that a connect has put in place last since the watcher `t` looked. -/
def installedSince (t : Nat) (past : List Moment) : Option Nat :=
  ((past.rtakeWhile fun m => !m.isLook t).filterMap Moment.installed?).getLast?

theorem installedSince_concat (t : Nat) (past : List Moment) (m : Moment) :
    installedSince t (past ++ [m]) =
      if m.isLook t then none else m.installed?.or (installedSince t past) := by
  unfold installedSince
  by_cases hlook : m.isLook t
  · rw [List.rtakeWhile_concat_neg _ _ _ (by simp [hlook]), if_pos hlook]
    rfl
  · rw [List.rtakeWhile_concat_pos _ _ _ (by simp [hlook]), if_neg hlook, List.filterMap_append,
      List.getLast?_append]
    cases hinstalled : m.installed? <;> simp [hinstalled]

/-! ## From the look to the end of the search -/

/-- Is the failover on its way to a connection? -/
def Failover.seeks : Failover → Bool
  | next _ _ | dialing _ _ _ | answered _ _ | refusing _ | finished (.error _) => true
  | _ => false

/-- Is the watcher between its look and the connection that it will put in place? -/
def Watcher.seeks : Watcher → Bool
  | reconnecting _ failover => failover.seeks
  | resting _ _ => true
  | _ => false

theorem Failover.Advance.slot_cases {s s' : Supervisor} {b b' : Broker} {point point' : Failover}
    (hadvance : point.Advance s b s' b' point') (hterminated : s.terminated = false) :
    (∃ index connection, point = .answered index connection ∧ s'.slot = some connection) ∨
      (∀ index connection, point ≠ .answered index connection) ∧ s'.slot = s.slot := by
  cases hadvance with
  | refuse hrefused => cases hrefused.symm.trans hterminated
  | fill _ hslot => exact .inl ⟨_, _, rfl, rfl⟩
  | replace _ hslot => exact .inl ⟨_, _, rfl, rfl⟩
  | _ => exact .inr ⟨nofun, rfl⟩

theorem Failover.Advance.seeks {s s' : Supervisor} {b b' : Broker} {point point' : Failover}
    (hadvance : point.Advance s b s' b' point') (hseeks : point'.seeks = true) :
    point.seeks = true ∧ s'.slot = s.slot := by
  cases hadvance with
  | dialNothing | fill | replace | leave | close | succeed => cases hseeks
  | _ => exact ⟨rfl, rfl⟩

/-- A watcher that seeks has done so before, or has just looked and found no open connection. -/
theorem Watcher.Advance.seeks {s s' : Supervisor} {b b' : Broker} {point point' : Watcher}
    (hadvance : point.Advance s b s' b' point') (hseeks : point'.seeks = true) :
    ((∃ connection reason, point = .lost connection reason) ∧ s.isConnected b = false ∧
        s' = s ∧ b' = b) ∨
      point.seeks = true ∧ s'.slot = s.slot ∧
        ∀ connection reason, point ≠ .lost connection reason := by
  cases hadvance with
  | reconnect hconnected => exact .inl ⟨⟨_, _, rfl⟩, hconnected, rfl, rfl⟩
  | failover hgoesOn hadvance =>
      obtain ⟨hbefore, hslot⟩ := hadvance.seeks hseeks
      exact .inr ⟨hbefore, hslot, nofun⟩
  | rest he => exact .inr ⟨rfl, rfl, nofun⟩
  | retry hterminated htime => exact .inr ⟨rfl, rfl, nofun⟩
  | _ => cases hseeks

/-! ## What is in the slot meanwhile -/

namespace System

/-- In the slot is what a connect has put there since the watcher `t` looked; without such a connect
nothing that is in the slot is open. -/
structure SlotSince (w : System) (past : List Moment) (t : Nat) : Prop where
  installed : ∀ c, installedSince t past = some c → w.supervisor.slot = some c
  closed : installedSince t past = none → ∀ c, w.supervisor.slot = some c →
    w.broker.connectionClosed c = true

variable {w w' : System} {past : List Moment} {t : Nat}

/-- Nothing changes as long as the slot keeps its connection and the watcher does not look. -/
private theorem SlotSince.keep {what : Happening} (hsince : w.SlotSince past t)
    (hdialed : w.HoldsDialed) (hchange : w.SupervisionChange what w')
    (hslot : w'.supervisor.slot = w.supervisor.slot)
    (hlook : Moment.isLook t ⟨w, what, w'⟩ = false)
    (hinstalled : Moment.installed? ⟨w, what, w'⟩ = none) :
    w'.SlotSince (past ++ [⟨w, what, w'⟩]) t := by
  have hsame : installedSince t (past ++ [⟨w, what, w'⟩]) = installedSince t past := by
    simp [installedSince_concat, hlook, hinstalled]
  constructor
  · intro c hc
    rw [hslot, hsince.installed c (hsame ▸ hc)]
  · intro hnone c hc
    rw [hslot] at hc
    exact hchange.keepsClosed.closed c (hdialed c (.inl hc)) (hsince.closed (hsame ▸ hnone) c hc)

/-- A connect that changes the slot is the last that has done so. -/
private theorem SlotSince.connect {what : Happening} {c : Nat}
    (hslot : w'.supervisor.slot = some c) (hlook : Moment.isLook t ⟨w, what, w'⟩ = false)
    (hinstalled : Moment.installed? ⟨w, what, w'⟩ = some c) :
    w'.SlotSince (past ++ [⟨w, what, w'⟩]) t := by
  have hlast : installedSince t (past ++ [⟨w, what, w'⟩]) = some c := by
    simp [installedSince_concat, hlook, hinstalled]
  constructor
  · intro c' hc'
    rw [hslot, ← hlast, hc']
  · intro hnone
    cases hlast.symm.trans hnone

/-- A watcher that has looked has found nothing open. -/
private theorem SlotSince.look {what : Happening} (hlook : Moment.isLook t ⟨w, what, w'⟩ = true)
    (hconnected : w'.supervisor.isConnected w'.broker = false) :
    w'.SlotSince (past ++ [⟨w, what, w'⟩]) t := by
  have hnone : installedSince t (past ++ [⟨w, what, w'⟩]) = none := by
    simp [installedSince_concat, hlook]
  constructor
  · intro c hc
    cases hnone.symm.trans hc
  · intro _ c hc
    simpa [Supervisor.isConnected, hc] using hconnected

theorem SlotSince.turn {u : Nat} {point' : Watcher} (hall : w.AllFit) (hone : w.OneWatcher)
    (hdialed : w.HoldsDialed)
    (ih : ∀ point : Watcher, w.tasks[t]? = some (.watcher point) → point.seeks = true →
      w.supervisor.terminated = false → w.SlotSince past t)
    (hturn : w.SupervisionTurn u w') (htask' : w'.tasks[t]? = some (.watcher point'))
    (hseeks : point'.seeks = true) (hterminated : w'.supervisor.terminated = false) :
    w'.SlotSince (past ++ [⟨w, .turn u, w'⟩]) t := by
  have hchange := SupervisionChange.turn hturn
  rcases hturn.task_cases htask' with ⟨hne, hkept⟩ | ⟨rfl, task, htask, hmoved⟩ | ⟨_, hnew, _⟩ |
    ⟨_, hnew⟩
  · -- it is another task's turn
    have hlook : Moment.isLook t ⟨w, .turn u, w'⟩ = false := by simp [Moment.isLook, Ne.symm hne]
    cases hturn with
    | connect htask hadvance hsupervisor hbroker htasks =>
        have hopen : w.supervisor.terminated = false := by
          rw [← hadvance.keepsControl.terminated, ← hsupervisor, hterminated]
        rcases hadvance.slot_cases hopen with ⟨index, c, rfl, hslot⟩ | ⟨hother, hslot⟩
        · exact .connect (hsupervisor ▸ hslot) hlook (by simp [Moment.installed?, htask, hopen])
        · refine (ih _ hkept hseeks hopen).keep hdialed hchange (hsupervisor ▸ hslot) hlook ?_
          unfold Moment.installed?
          simp only [htask]
          split
          · rename_i heq
            cases heq
            exact absurd rfl (hother _ _)
          · rfl
    | start htask hadvance hsupervisor hbroker htasks =>
        have hsame : w'.supervisor.slot = w.supervisor.slot ∧
            w'.supervisor.terminated = w.supervisor.terminated := by
          rw [hsupervisor]
          cases hadvance <;> exact ⟨rfl, rfl⟩
        exact (ih _ hkept hseeks (hsame.2 ▸ hterminated)).keep hdialed hchange hsame.1 hlook
          (by simp [Moment.installed?, htask])
    | shutdown htask hadvance hsupervisor hbroker htasks =>
        -- a shutdown that has taken a turn has told the supervisor to end
        have hended := hadvance.terminated (hall u _ htask)
        rw [← hsupervisor, hterminated] at hended
        cases hended
    | watcher htask hadvance hsupervisor hbroker htasks =>
        exact absurd (hone.unique t u ⟨_, hkept, rfl⟩ ⟨_, htask, rfl⟩) hne
    | @other task _ _ htask hother hother' hspawned hsupervisor hkeeps htasks =>
        refine (ih _ hkept hseeks (hsupervisor ▸ hterminated)).keep hdialed hchange
          (by rw [hsupervisor]) hlook ?_
        cases task <;> simp_all [Moment.installed?, Task.isSupervision]
  · cases hmoved with
    | @watcher point _ _ _ hadvance hsupervisor hbroker =>
        rcases hadvance.seeks hseeks with ⟨⟨c, reason, rfl⟩, hconnected, rfl, rfl⟩ |
          ⟨hbefore, hslot, hnot⟩
        · refine .look ?_ (by rw [hsupervisor, hbroker, hconnected])
          simp [Moment.isLook, htask, Task.hasLost]
        · have hopen : w.supervisor.terminated = false := by
            rw [← hadvance.keepsControl.terminated, ← hsupervisor, hterminated]
          refine (ih point htask hbefore hopen).keep hdialed hchange (hsupervisor ▸ hslot) ?_
            (by simp [Moment.installed?, htask])
          cases point <;> simp_all [Moment.isLook, Task.hasLost]
    | other hother' => cases hother'
  · cases hnew
    cases hseeks
  · cases hnew

theorem SlotSince.change {what : Happening} {point' : Watcher} (hall : w.AllFit)
    (hone : w.OneWatcher) (hdialed : w.HoldsDialed)
    (ih : ∀ point : Watcher, w.tasks[t]? = some (.watcher point) → point.seeks = true →
      w.supervisor.terminated = false → w.SlotSince past t)
    (hchange : w.SupervisionChange what w') (htask' : w'.tasks[t]? = some (.watcher point'))
    (hseeks : point'.seeks = true) (hterminated : w'.supervisor.terminated = false) :
    w'.SlotSince (past ++ [⟨w, what, w'⟩]) t := by
  rcases hchange.turn_or_outside with ⟨u, rfl, hturn⟩ | houtside
  · exact .turn hall hone hdialed ih hturn htask' hseeks hterminated
  · have hkept : w.tasks[t]? = some (.watcher point') := by
      rcases houtside.task_cases t _ htask' with hkept | ⟨_, hnew⟩ | ⟨call, _, _, hnew⟩
      · exact hkept
      · cases hnew
      · cases call <;> cases hnew
    refine (ih _ hkept hseeks (houtside.supervisor ▸ hterminated)).keep hdialed hchange
      (by rw [houtside.supervisor]) ?_ ?_
    · cases what with
      | turn u => exact absurd rfl (houtside.notTurn u)
      | _ => rfl
    · cases what with
      | turn u => exact absurd rfl (houtside.notTurn u)
      | _ => rfl

end System

/-! ## The turns that put a connection in place -/

theorem Watcher.step_answered {s : Supervisor} {b : Broker} {attempt index connection : Nat}
    (hterminated : s.terminated = false) :
    (reconnecting attempt (.answered index connection)).step s b =
      some ⟨({ s with slot := some connection }, b), reconnecting attempt
        (match s.slot with
        | some previous => .replaced index previous
        | none => .connected index), []⟩ := by
  cases hslot : s.slot <;> simp [step, Failover.step, Failover.isSafe, hterminated, hslot]

theorem Watcher.step_replaced (s : Supervisor) {b : Broker} (attempt index : Nat) {previous : Nat}
    (hopen : b.connectionClosed previous = false) :
    ∃ log, (reconnecting attempt (.replaced index previous)).step s b =
      some ⟨(s, (b.closeConnection previous).1), reconnecting attempt (.connected index), log⟩ := by
  simp [step, Failover.step, Failover.isSafe, hopen]

/-! ## Every run -/

namespace Run

variable {w₀ w : System} {past : List Moment}

theorem slotSince (hrun : Run w₀ past w) (hfresh : w₀.Fresh) {t : Nat} {point : Watcher}
    (htask : w.tasks[t]? = some (.watcher point)) (hseeks : point.seeks = true)
    (hterminated : w.supervisor.terminated = false) : w.SlotSince past t := by
  induction hrun generalizing point with
  | refl => exact absurd htask hfresh.not_task
  | snoc hpast hafter ih =>
      exact .change (hpast.allFit hfresh) (hpast.oneWatcher hfresh) (hpast.holdsDialed hfresh)
        (fun _ htask hseeks hterminated => ih htask hseeks hterminated)
        (System.after_supervisionChange hafter) htask hseeks hterminated

/-- When the watcher puts its connection in place, an open connection is what it replaces, and
closes next, exactly if a connect has put that one there since the watcher looked, as the last. -/
theorem watcher_replaces_open_iff (hrun : Run w₀ past w) (hfresh : w₀.Fresh)
    {t attempt index connection : Nat}
    (htask : w.tasks[t]? = some (.watcher (.reconnecting attempt (.answered index connection))))
    (hterminated : w.supervisor.terminated = false) :
    ∃ w', w.after? (.turn t) = some w' ∧ w'.supervisor.slot = some connection ∧
      ∀ c, w.broker.connectionClosed c = false →
        ((∃ w'', w'.tasks[t]? = some (.watcher (.reconnecting attempt (.replaced index c))) ∧
          w'.after? (.turn t) = some w'' ∧ w''.broker = (w.broker.closeConnection c).1) ↔
        installedSince t past = some c) := by
  have hsince := hrun.slotSince hfresh htask rfl hterminated
  -- for what is open, to be in the slot and to have been put there since the look is the same
  have hinstalled {c : Nat} (hopen : w.broker.connectionClosed c = false) :
      w.supervisor.slot = some c ↔ installedSince t past = some c := by
    refine ⟨fun hslot => ?_, hsince.installed c⟩
    cases hlast : installedSince t past with
    | none => cases hopen.symm.trans (hsince.closed hlast c hslot)
    | some last =>
        rw [← hslot, hsince.installed last hlast]
  obtain ⟨w', hstep, hsupervisor, hbroker, hself⟩ :=
    System.step_of_watcher htask (Watcher.step_answered hterminated)
  refine ⟨w', hstep, by rw [hsupervisor], fun c hopen => ?_⟩
  rw [← hinstalled hopen]
  constructor
  · rintro ⟨_, hreplaced, _⟩
    rw [hself] at hreplaced
    cases hslot : w.supervisor.slot with
    | none => simp [hslot] at hreplaced
    | some previous => simpa [hslot] using hreplaced
  · intro hslot
    rw [hslot] at hself
    obtain ⟨log, hclose⟩ := Watcher.step_replaced w'.supervisor attempt index
      (hbroker ▸ hopen : w'.broker.connectionClosed c = false)
    obtain ⟨w'', hstep', _, hbroker', _⟩ := System.step_of_watcher hself hclose
    exact ⟨w'', hself, hstep', by rw [hbroker', hbroker]⟩

/-- The watcher looks, finds its connection gone and no endpoint to be reached, and rests; a connect
succeeds meanwhile; the next round succeeds too. -/
def connectDuringRest : List Happening :=
  [.call .connect] ++ List.replicate 4 (.turn 0) ++
  [.call .start] ++ List.replicate 4 (.turn 1) ++ List.replicate 2 (.turn 2) ++
  [.incident (.setReachable "amqp://a" false), .incident (.dropConnection 0 .graceful)] ++
  List.replicate 6 (.turn 2) ++
  [.incident (.setReachable "amqp://a" true), .call .connect] ++ List.replicate 5 (.turn 3) ++
  [.incident (.passTime 5000)] ++ List.replicate 3 (.turn 2)

theorem connectDuringRest_replaces_open :
    ∃ w' w'', (System.single.played connectDuringRest).2.after? (.turn 2) = some w' ∧
      w'.supervisor.slot = some 2 ∧ w'.after? (.turn 2) = some w'' ∧
      w''.broker = ((System.single.played connectDuringRest).2.broker.closeConnection 1).1 := by
  obtain ⟨w', hafter, hslot, hiff⟩ :=
    (System.single.run_played connectDuringRest).watcher_replaces_open_iff System.single_fresh
      (t := 2) rfl (by decide)
  obtain ⟨w'', _, hclose, hbroker⟩ := (hiff 1 (by decide)).mpr (by decide)
  exact ⟨w', w'', hafter, hslot, hclose, hbroker⟩

/-- Even when tasks are switched only where they rest, what the watcher replaces can be open. -/
theorem not_forall_watcher_replaces_closed :
    ¬ ∀ (w₀ w w' : System) (past : List Moment) (t attempt index previous : Nat), w₀.Fresh →
      Run w₀ past w → Cooperative past → w.supervisor.terminated = false →
      w.after? (.turn t) = some w' →
      w'.tasks[t]? = some (.watcher (.reconnecting attempt (.replaced index previous))) →
      w.broker.connectionClosed previous = true := by
  intro hclaim
  have hclosed := hclaim _ _ _ _ 2 2 0 1 System.single_fresh
    (System.single.run_played connectDuringRest) (by decide) (by decide)
    (Option.some_get (by decide)).symm rfl
  exact absurd hclosed (by decide)

end Run

end BrokerClient
