import BrokerClient.Proofs.Supervisor.Lifecycle
import BrokerClient.Proofs.Supervisor.OneConnection

/-!
# The watcher notices every loss

The watcher subscribes to the close notice of the connection that it finds in the slot, and that may be
replaced or lost at any moment after.  A connection that has been in the slot never comes back into the
hand of a failover that is yet to put it in place: so one that is watched and open is in the slot or has
been put aside, and whoever has put it aside closes it next.  The watcher therefore waits for a notice
that fires, unless the connection in use is the one that it waits for.
-/

namespace BrokerClient

/-! ## Connections that are yet to be put in place -/

/-- The connection that a failover has been answered with and that has not been in the slot. -/
def Failover.unplaced : Failover → Option Nat
  | answered _ connection | refusing connection => some connection
  | _ => none

@[inherit_doc Failover.unplaced]
def Watcher.unplaced : Watcher → Option Nat
  | reconnecting _ failover => failover.unplaced
  | _ => none

/-- The connection whose close notice the watcher waits for. -/
def Watcher.watched : Watcher → Option Nat
  | watching connection => some connection
  | _ => none

/-- The connection that a task is yet to put in place. -/
def Task.unplaced : Task → Option Nat
  | connect point => point.unplaced
  | watcher point => point.unplaced
  | _ => none

/-- The connection that a task watches. -/
def Task.watched : Task → Option Nat
  | watcher point => point.watched
  | _ => none

theorem Task.inHand_of_unplaced {task : Task} {c : Nat} (hunplaced : task.unplaced = some c) :
    task.inHand = some c := by
  cases task with
  | connect point => cases point <;> simp_all [unplaced, Failover.unplaced, inHand, Failover.inHand]
  | watcher point =>
      cases point with
      | reconnecting attempt failover =>
          cases failover <;> simp_all [unplaced, Watcher.unplaced, Failover.unplaced, inHand,
            Watcher.inHand, Failover.inHand]
      | _ => cases hunplaced
  | _ => cases hunplaced

theorem Task.not_unplaced_of_not_isSupervision {task : Task} (hother : task.isSupervision = false) :
    task.unplaced = none ∧ task.watched = none := by
  cases task <;> simp_all [isSupervision, unplaced, watched]

/-! ## One turn -/

/-- What a turn does to the slot, to the connection `unplaced` that is yet to be put in place, and to
the connection `watched`: it keeps them, or brings a new connection, or puts the one at hand in the
slot. -/
inductive Places (s s' : Supervisor) (b : Broker) (unplaced watched unplaced' watched' : Option Nat) :
    Prop
  | keep (hslot : s'.slot = s.slot ∨ s'.slot = none)
      (hunplaced : unplaced' = none ∨ unplaced' = unplaced)
      (hwatched : watched' = none ∨ watched' = watched ∨ watched' = s.slot)
  | reach (hslot : s'.slot = s.slot) (hunplaced : unplaced' = some b.connections.length)
      (hwatched : watched' = none)
  | place (hslot : s'.slot = unplaced) (hunplaced : unplaced' = none) (hwatched : watched' = none)

theorem Failover.Advance.places {s s' : Supervisor} {b b' : Broker} {point point' : Failover}
    (hadvance : point.Advance s b s' b' point') :
    Places s s' b point.unplaced none point'.unplaced none := by
  cases hadvance with
  | reach hwait hdial =>
      exact .reach rfl (congrArg some (Broker.endDial_ok hdial).eq_length) rfl
  | fill hterminated hslot => exact .place rfl rfl rfl
  | replace hterminated hslot => exact .place rfl rfl rfl
  | refuse hterminated => exact .keep (.inl rfl) (.inr rfl) (.inl rfl)
  | _ => exact .keep (.inl rfl) (.inl rfl) (.inl rfl)

theorem Watcher.Advance.places {s s' : Supervisor} {b b' : Broker} {point point' : Watcher}
    (hadvance : point.Advance s b s' b' point') :
    Places s s' b point.unplaced point.watched point'.unplaced point'.watched := by
  cases hadvance with
  | failover hgoesOn hadvance => exact hadvance.places
  | subscribe hslot => exact .keep (.inl rfl) (.inl rfl) (.inr (.inr hslot.symm))
  | _ => exact .keep (.inl rfl) (.inl rfl) (.inl rfl)

theorem Start.Advance.slot {s s' : Supervisor} {me fresh : Nat} {point point' : Start}
    (hadvance : point.Advance s me fresh s' point') : s'.slot = s.slot := by
  cases hadvance <;> rfl

theorem Shutdown.Advance.slot {s s' : Supervisor} {b b' : Broker} {hasEnded : Nat → Bool}
    {point point' : Shutdown} (hadvance : point.Advance s b hasEnded s' b' point') :
    s'.slot = s.slot ∨ s'.slot = none := by
  cases hadvance with
  | takeConnection hslot => exact .inr rfl
  | _ => exact .inl rfl

namespace System

variable {w w' : System}

/-- Is the task `t` yet to put the connection in place? -/
def UnplacedAt (w : System) (t c : Nat) : Prop :=
  ∃ task, w.tasks[t]? = some task ∧ task.unplaced = some c

/-- Does the task `t` watch the connection? -/
def WatchedAt (w : System) (t c : Nat) : Prop :=
  ∃ task, w.tasks[t]? = some task ∧ task.watched = some c

/-- A connection that is yet to be put in place is in the hand of one task alone: it is not in the
slot, and nobody watches it. -/
structure Placed (w : System) : Prop where
  slot : ∀ {t c : Nat}, w.UnplacedAt t c → w.supervisor.slot ≠ some c
  watched : ∀ {t u c : Nat}, w.UnplacedAt t c → ¬ w.WatchedAt u c
  unique : ∀ {t u c : Nat}, w.UnplacedAt t c → w.UnplacedAt u c → t = u
  /-- What is watched has been dialed. -/
  dialed : ∀ {t c : Nat}, w.WatchedAt t c → c < w.broker.connections.length

theorem HoldsDialed.unplaced (hdialed : w.HoldsDialed) {t c : Nat} (hunplaced : w.UnplacedAt t c) :
    c < w.broker.connections.length := by
  obtain ⟨task, htask, hc⟩ := hunplaced
  exact hdialed c (.inr ⟨t, task, htask, Task.inHand_of_unplaced hc⟩)

/-- The slot is kept or emptied, and what is watched has been watched or in the slot before. -/
theorem Placed.keep (hplaced : w.Placed) (hdialed : w.HoldsDialed)
    (hslot : w'.supervisor.slot = w.supervisor.slot ∨ w'.supervisor.slot = none)
    (hunplaced : ∀ {u c : Nat}, w'.UnplacedAt u c → w.UnplacedAt u c)
    (hwatched : ∀ {u c : Nat}, w'.WatchedAt u c → w.WatchedAt u c ∨ w.supervisor.slot = some c)
    (hlength : w.broker.connections.length ≤ w'.broker.connections.length) : w'.Placed where
  slot := by
    intro t c ht hc
    rcases hslot with hsame | hnone
    · exact hplaced.slot (hunplaced ht) (hsame ▸ hc)
    · cases hnone.symm.trans hc
  watched := by
    intro t u c ht hu
    rcases hwatched hu with hwas | hc
    · exact hplaced.watched (hunplaced ht) hwas
    · exact hplaced.slot (hunplaced ht) hc
  unique := by
    intro t u c ht hu
    exact hplaced.unique (hunplaced ht) (hunplaced hu)
  dialed := by
    intro t c ht
    rcases hwatched ht with hwas | hc
    · exact (hplaced.dialed hwas).trans_le hlength
    · exact (hdialed c (.inl hc)).trans_le hlength

/-- The task `t` has got a connection, which is new, so that nobody else has it. -/
theorem Placed.reach {t : Nat} (hplaced : w.Placed) (hdialed : w.HoldsDialed)
    (hslot : w'.supervisor.slot = w.supervisor.slot)
    (hunplaced : ∀ {u c : Nat}, w'.UnplacedAt u c →
      (u = t ∧ c = w.broker.connections.length) ∨ w.UnplacedAt u c)
    (hwatched : ∀ {u c : Nat}, w'.WatchedAt u c → w.WatchedAt u c)
    (hlength : w.broker.connections.length ≤ w'.broker.connections.length) : w'.Placed where
  slot := by
    intro u c hu hc
    rw [hslot] at hc
    rcases hunplaced hu with ⟨_, rfl⟩ | hwas
    · exact (hdialed _ (.inl hc)).false
    · exact hplaced.slot hwas hc
  watched := by
    intro u v c hu hv
    rcases hunplaced hu with ⟨_, rfl⟩ | hwas
    · exact (hplaced.dialed (hwatched hv)).false
    · exact hplaced.watched hwas (hwatched hv)
  unique := by
    intro u v c hu hv
    rcases hunplaced hu with ⟨rfl, hnew⟩ | hwas
    · rcases hunplaced hv with ⟨rfl, _⟩ | hwas
      · rfl
      · exact absurd (hdialed.unplaced hwas) (by omega)
    · rcases hunplaced hv with ⟨_, hnew⟩ | hwas'
      · exact absurd (hdialed.unplaced hwas) (by omega)
      · exact hplaced.unique hwas hwas'
  dialed := by
    intro u c hu
    exact (hplaced.dialed (hwatched hu)).trans_le hlength

/-- The task `t` has put its connection in the slot, which has been in its hand alone. -/
theorem Placed.place {t : Nat} (hplaced : w.Placed)
    (hslot : ∀ {c : Nat}, w'.supervisor.slot = some c → w.UnplacedAt t c)
    (hunplaced : ∀ {u c : Nat}, w'.UnplacedAt u c → u ≠ t ∧ w.UnplacedAt u c)
    (hwatched : ∀ {u c : Nat}, w'.WatchedAt u c → w.WatchedAt u c)
    (hlength : w.broker.connections.length ≤ w'.broker.connections.length) : w'.Placed where
  slot := by
    intro u c hu hc
    obtain ⟨hne, hwas⟩ := hunplaced hu
    exact hne (hplaced.unique hwas (hslot hc))
  watched := by
    intro u v c hu hv
    exact hplaced.watched (hunplaced hu).2 (hwatched hv)
  unique := by
    intro u v c hu hv
    exact hplaced.unique (hunplaced hu).2 (hunplaced hv).2
  dialed := by
    intro u c hu
    exact (hplaced.dialed (hwatched hu)).trans_le hlength

/-- It is enough to look at the task whose turn it is. -/
theorem Placed.of_places {t : Nat} {task task' : Task} {spawned : List Task} (hplaced : w.Placed)
    (hdialed : w.HoldsDialed) (htask : w.tasks[t]? = some task)
    (htasks : w'.tasks = w.tasks.set t task' ++ spawned)
    (hspawned : ∀ x ∈ spawned, Task.unplaced x = none ∧ Task.watched x = none)
    (hlength : w.broker.connections.length ≤ w'.broker.connections.length)
    (hplaces : Places w.supervisor w'.supervisor w.broker task.unplaced task.watched task'.unplaced
      task'.watched) : w'.Placed := by
  have hunplaced {u c : Nat} (hu : w'.UnplacedAt u c) :
      (u = t ∧ task'.unplaced = some c) ∨ (u ≠ t ∧ w.UnplacedAt u c) := by
    obtain ⟨other, hother, hc⟩ := hu
    rw [htasks] at hother
    rcases task_set_cases hother with ⟨rfl, rfl⟩ | ⟨hne, hkept⟩ | ⟨_, hnew⟩
    · exact .inl ⟨rfl, hc⟩
    · exact .inr ⟨hne, other, hkept, hc⟩
    · rw [(hspawned other (List.mem_of_getElem? hnew)).1] at hc
      cases hc
  have hwatched {u c : Nat} (hu : w'.WatchedAt u c) :
      (u = t ∧ task'.watched = some c) ∨ w.WatchedAt u c := by
    obtain ⟨other, hother, hc⟩ := hu
    rw [htasks] at hother
    rcases task_set_cases hother with ⟨rfl, rfl⟩ | ⟨_, hkept⟩ | ⟨_, hnew⟩
    · exact .inl ⟨rfl, hc⟩
    · exact .inr ⟨other, hkept, hc⟩
    · rw [(hspawned other (List.mem_of_getElem? hnew)).2] at hc
      cases hc
  cases hplaces with
  | keep hslot hunplaced' hwatched' =>
      refine hplaced.keep hdialed hslot ?_ ?_ hlength
      · intro u c hu
        rcases hunplaced hu with ⟨rfl, hc⟩ | ⟨_, hwas⟩
        · rcases hunplaced' with hnone | hsame
          · cases hnone.symm.trans hc
          · exact ⟨task, htask, hsame ▸ hc⟩
        · exact hwas
      · intro u c hu
        rcases hwatched hu with ⟨rfl, hc⟩ | hwas
        · rcases hwatched' with hnone | hsame | hslot
          · cases hnone.symm.trans hc
          · exact .inl ⟨task, htask, hsame ▸ hc⟩
          · exact .inr (hslot ▸ hc)
        · exact .inl hwas
  | reach hslot hunplaced' hwatched' =>
      refine hplaced.reach (t := t) hdialed hslot ?_ ?_ hlength
      · intro u c hu
        rcases hunplaced hu with ⟨heq, hc⟩ | ⟨_, hwas⟩
        · exact .inl ⟨heq, (Option.some.inj (hunplaced'.symm.trans hc)).symm⟩
        · exact .inr hwas
      · intro u c hu
        rcases hwatched hu with ⟨_, hc⟩ | hwas
        · cases hwatched'.symm.trans hc
        · exact hwas
  | place hslot hunplaced' hwatched' =>
      refine hplaced.place (t := t) ?_ ?_ ?_ hlength
      · intro c hc
        exact ⟨task, htask, hslot ▸ hc⟩
      · intro u c hu
        rcases hunplaced hu with ⟨_, hc⟩ | hwas
        · cases hunplaced'.symm.trans hc
        · exact hwas
      · intro u c hu
        rcases hwatched hu with ⟨_, hc⟩ | hwas
        · cases hwatched'.symm.trans hc
        · exact hwas

theorem Placed.turn {t : Nat} (hplaced : w.Placed) (hdialed : w.HoldsDialed)
    (hturn : w.SupervisionTurn t w') : w'.Placed := by
  have hlength := hturn.serves.length_le
  cases hturn with
  | connect htask hadvance hsupervisor hbroker htasks =>
      exact hplaced.of_places hdialed htask htasks (by simp) hlength (hsupervisor ▸ hadvance.places)
  | start htask hadvance hsupervisor hbroker htasks =>
      refine hplaced.of_places hdialed htask htasks (fun x hx => ?_) hlength
        (.keep (.inl (hsupervisor ▸ hadvance.slot)) (.inl rfl) (.inl rfl))
      split at hx
      · rw [List.mem_singleton.mp hx]
        exact ⟨rfl, rfl⟩
      · cases hx
  | shutdown htask hadvance hsupervisor hbroker htasks =>
      exact hplaced.of_places hdialed htask htasks (by simp) hlength
        (.keep (hsupervisor ▸ hadvance.slot) (.inl rfl) (.inl rfl))
  | watcher htask hadvance hsupervisor hbroker htasks =>
      exact hplaced.of_places hdialed htask htasks (by simp) hlength (hsupervisor ▸ hadvance.places)
  | other htask hother hother' hspawned hsupervisor hkeeps htasks =>
      obtain ⟨hunplaced, hwatched⟩ := Task.not_unplaced_of_not_isSupervision hother'
      exact hplaced.of_places hdialed htask htasks
        (fun x hx => Task.not_unplaced_of_not_isSupervision (hspawned x hx)) hlength
        (.keep (.inl (by rw [hsupervisor])) (.inl hunplaced) (.inl hwatched))

theorem Placed.change {what : Happening} (hplaced : w.Placed) (hdialed : w.HoldsDialed)
    (hchange : w.SupervisionChange what w') : w'.Placed := by
  have hlength := hchange.keepsClosed.length_le
  rcases hchange.turn_or_outside with ⟨t, rfl, hturn⟩ | houtside
  · exact hplaced.turn hdialed hturn
  · -- whoever is new, or gone, has nothing and watches nothing
    refine hplaced.keep hdialed (.inl (by rw [houtside.supervisor])) ?_ ?_ hlength
    · rintro u c ⟨other, hother, hc⟩
      rcases houtside.task_cases u other hother with hkept | ⟨_, rfl⟩ | ⟨call, _, _, rfl⟩
      · exact ⟨other, hkept, hc⟩
      · cases hc
      · cases call <;> cases hc
    · rintro u c ⟨other, hother, hc⟩
      rcases houtside.task_cases u other hother with hkept | ⟨_, rfl⟩ | ⟨call, _, _, rfl⟩
      · exact .inl ⟨other, hkept, hc⟩
      · cases hc
      · cases call <;> cases hc

end System

theorem Run.placed {w₀ w : System} {past : List Moment} (hrun : Run w₀ past w)
    (hfresh : w₀.Fresh) : w.Placed := by
  induction hrun with
  | refl =>
      have hnothing {t : Nat} {P : Task → Prop} : ¬ ∃ task, w₀.tasks[t]? = some task ∧ P task :=
        fun ⟨_, htask, _⟩ => hfresh.not_task htask
      exact ⟨fun hu => absurd hu hnothing, fun hu => absurd hu hnothing,
        fun hu => absurd hu hnothing, fun hu => absurd hu hnothing⟩
  | snoc hpast hafter ih =>
      exact ih.change (hpast.holdsDialed hfresh) (System.after_supervisionChange hafter)

/-! ## What the watcher waits for -/

/-- Who waits for the notice of a connection that has been dialed and is closed does not wait. -/
theorem Broker.open_of_connectionReason?_eq_none {b : Broker} {c : Nat}
    (hlt : c < b.connections.length) (hnone : b.connectionReason? c = none) :
    b.connectionClosed c = false := by
  unfold connectionReason? at hnone
  unfold connectionClosed
  rw [List.getElem?_eq_getElem hlt] at hnone ⊢
  simp only [Option.bind_some, CloseNotice.closed?] at hnone
  cases hreason : b.connections[c].notice.reason with
  | none => simp [CloseNotice.isFired, hreason]
  | some reason => simp [hreason] at hnone

/-- Does the watcher wait for a dial? -/
def Watcher.isDialing : Watcher → Bool
  | reconnecting _ (.dialing _ _ _) => true
  | _ => false

/-- Does the watcher wait for one of its timers? -/
def Watcher.sleeps (b : Broker) : Watcher → Bool
  | idle time | resting _ time => b.clock < time
  | _ => false

/-- A failover that takes no turn waits for a dial, or it is at its end. -/
theorem Failover.waits_of_step_eq_none {s : Supervisor} {b : Broker} {point : Failover}
    (hstep : point.step s b = none) :
    (∃ index last wait, point = .dialing index last wait) ∨ ∃ result, point = .finished result := by
  cases point with
  | next index last =>
      simp only [step] at hstep
      split at hstep
      · cases hstep
      · split at hstep <;> cases hstep
  | dialing index last wait => exact .inl ⟨index, last, wait, rfl⟩
  | answered index connection =>
      simp only [step] at hstep
      split at hstep <;> cases hstep
  | replaced index previous =>
      simp only [step] at hstep
      split at hstep <;> cases hstep
  | refusing connection => cases hstep
  | connected index => cases hstep
  | finished result => exact .inr ⟨result, rfl⟩

/-- A watcher that takes no turn is at its end, or it waits for a dial, a timer or a notice. -/
theorem Watcher.waits_of_step_eq_none {s : Supervisor} {b : Broker} {point : Watcher}
    (hstep : point.step s b = none) :
    point = .stopped ∨ point.isDialing = true ∨ point.sleeps b = true ∨
      ∃ c, point = .watching c ∧ b.connectionReason? c = none := by
  cases point with
  | starting => cases hstep
  | looking =>
      simp only [step] at hstep
      split at hstep <;> cases hstep
  | idle time =>
      simp only [step] at hstep
      split at hstep
      · cases hstep
      · split at hstep
        · rename_i htime
          exact .inr (.inr (.inl (by simpa [sleeps] using htime)))
        · cases hstep
  | watching c =>
      simp only [step] at hstep
      split at hstep
      · cases hstep
      · refine .inr (.inr (.inr ⟨c, rfl, ?_⟩))
        cases hreason : b.connectionReason? c with
        | none => rfl
        | some reason => simp [hreason, goOn] at hstep
  | lost connection reason =>
      simp only [step] at hstep
      split at hstep <;> cases hstep
  | reconnecting attempt failover =>
      simp only [step] at hstep
      split at hstep
      · cases hstep
      · split at hstep
        · cases hstep
        · cases hstep
        · cases hstep
        · rename_i hnotOk _ hnotError
          rcases Failover.waits_of_step_eq_none (Option.map_eq_none_iff.mp hstep) with
            ⟨index, last, wait, rfl⟩ | ⟨result, rfl⟩
          · exact .inr (.inl rfl)
          · cases result with
            | ok _ => exact (hnotOk rfl).elim
            | error e => exact (hnotError e rfl).elim
  | resting attempt time =>
      simp only [step] at hstep
      split at hstep
      · cases hstep
      · split at hstep
        · rename_i htime
          exact .inr (.inr (.inl (by simpa [sleeps] using htime)))
        · cases hstep
  | stopping => cases hstep
  | stopped => exact .inl rfl

/-- A connect has put another connection in the place of this one, and closes it in its next turn. -/
def System.AboutToClose (w : System) (c : Nat) : Prop :=
  ∃ t index, w.tasks[t]? = some (.connect (.replaced index c)) ∧
    ∃ w', w.step t = some w' ∧ w'.broker.connectionClosed c = true

theorem System.aboutToClose {w : System} {t index c : Nat}
    (htask : w.tasks[t]? = some (.connect (.replaced index c)))
    (hreliable : w.broker.ClosesReliably) : w.AboutToClose c := by
  refine ⟨t, index, htask, ?_⟩
  cases hclosed : w.broker.connectionClosed c with
  | true =>
      obtain ⟨w', hstep, _, hbroker, _⟩ := step_of_connect htask
        (by simp only [Failover.step, hclosed]; rfl)
      exact ⟨w', hstep, by rw [hbroker, hclosed]⟩
  | false =>
      obtain ⟨w', hstep, _, hbroker, _⟩ := step_of_connect htask
        (by simp only [Failover.step, hclosed]; rfl)
      refine ⟨w', hstep, ?_⟩
      rw [hbroker]
      exact Broker.connectionClosed_closeConnection c
        (by rw [Broker.takeFailure_closeConnection hreliable])

/-- A connect that is about to close a connection does not rest. -/
theorem System.AboutToClose.not_atRest {w : System} {c : Nat} (habout : w.AboutToClose c) :
    ¬ w.AtRest := by
  obtain ⟨t, index, htask, _⟩ := habout
  exact fun hrest => by cases hrest.rests htask

/-- How the watcher `t` stands to the connection in the slot. -/
structure Watches (w : System) (t : Nat) (point : Watcher) : Prop where
  /-- If it waits for the notice of an open connection, that one is in the slot or is being closed. -/
  in_slot : ∀ c, point = .watching c → w.broker.connectionClosed c = false →
    w.supervisor.slot = some c ∨ w.AboutToClose c
  /-- If the connection in the slot is closed, the watcher goes on or waits for a dial or a timer, but
  for the moment in which a connect is still to close the connection before. -/
  notices : ∀ c, w.supervisor.slot = some c → w.broker.connectionClosed c = true →
    w.isReady t = true ∨ point.isDialing = true ∨ point.sleeps w.broker = true ∨
      ∃ previous, point = .watching previous ∧ previous ≠ c ∧ w.AboutToClose previous
  /-- While all tasks rest there is no such moment. -/
  at_rest : w.AtRest → ∀ c, w.supervisor.slot = some c → w.broker.connectionClosed c = true →
    w.isReady t = true ∨ point.isDialing = true ∨ point.sleeps w.broker = true

namespace Run

variable {w₀ w : System} {past : List Moment}

/-- Before the supervisor is told to end, an open connection that is watched is in the slot, or has
been replaced by a connect that closes it next. -/
theorem watched_in_slot (hrun : Run w₀ past w) (hfresh : w₀.Fresh)
    (hreliable : w₀.broker.ClosesReliably) (hcloses : ∀ m ∈ past, m.what.failsClose = false)
    (hterminated : w.supervisor.terminated = false) {t c : Nat}
    (htask : w.tasks[t]? = some (.watcher (.watching c)))
    (hopen : w.broker.connectionClosed c = false) :
    w.supervisor.slot = some c ∨ w.AboutToClose c := by
  have hplaced := hrun.placed hfresh
  have hwatched : w.WatchedAt t c := ⟨_, htask, rfl⟩
  refine (hrun.accounted hfresh hreliable hcloses c hopen).imp_right ?_
  rintro ⟨u, task, hu, hheld⟩
  cases task with
  | connect point =>
      cases point with
      | answered index connection => exact absurd hwatched (hplaced.watched ⟨_, hu, hheld⟩)
      | refusing connection => exact absurd hwatched (hplaced.watched ⟨_, hu, hheld⟩)
      | replaced index previous =>
          obtain rfl := Option.some.inj hheld
          exact System.aboutToClose hu (hrun.closesReliably hreliable hcloses)
      | _ => cases hheld
  | shutdown point =>
      -- a shutdown that has begun has told the supervisor to end
      have hfits := hrun.allFit hfresh u _ hu
      cases point with
      | closing connection => cases hterminated.symm.trans (hfits nofun)
      | _ => cases hheld
  | watcher point =>
      -- there is one watcher only, and it has nothing in hand
      obtain rfl := (hrun.oneWatcher hfresh).unique t u ⟨_, htask, rfl⟩ ⟨_, hu, rfl⟩
      cases hu.symm.trans htask
      cases hheld
  | _ => cases hheld

/-- Whatever happens before the supervisor is told to end, the watcher does not sleep through the loss
of the connection in use. -/
theorem watches (hrun : Run w₀ past w) (hfresh : w₀.Fresh)
    (hreliable : w₀.broker.ClosesReliably) (hcloses : ∀ m ∈ past, m.what.failsClose = false)
    (hterminated : w.supervisor.terminated = false) {t : Nat} {point : Watcher}
    (htask : w.tasks[t]? = some (.watcher point)) (hrunning : point ≠ .stopped) :
    Watches w t point := by
  have hin_slot (c : Nat) (hpoint : point = .watching c)
      (hopen : w.broker.connectionClosed c = false) :
      w.supervisor.slot = some c ∨ w.AboutToClose c :=
    hrun.watched_in_slot hfresh hreliable hcloses hterminated (hpoint ▸ htask) hopen
  have hnotices (c : Nat) (hslot : w.supervisor.slot = some c)
      (hclosed : w.broker.connectionClosed c = true) :
      w.isReady t = true ∨ point.isDialing = true ∨ point.sleeps w.broker = true ∨
        ∃ previous, point = .watching previous ∧ previous ≠ c ∧ w.AboutToClose previous := by
    cases hstep : point.step w.supervisor w.broker with
    | some turn =>
        obtain ⟨w', hturn, _⟩ := System.step_of_watcher htask hstep
        exact .inl (by simp [System.isReady, hturn])
    | none =>
        rcases Watcher.waits_of_step_eq_none hstep with hstopped | hdialing | hsleeps |
          ⟨previous, rfl, hnone⟩
        · exact absurd hstopped hrunning
        · exact .inr (.inl hdialing)
        · exact .inr (.inr (.inl hsleeps))
        · -- it waits for a connection that is open, which is not the one in the slot
          have hlt := (hrun.placed hfresh).dialed ⟨_, htask, rfl⟩
          have hopen := Broker.open_of_connectionReason?_eq_none hlt hnone
          have hne : previous ≠ c := by
            rintro rfl
            cases hopen.symm.trans hclosed
          refine .inr (.inr (.inr ⟨previous, rfl, hne, (hin_slot previous rfl hopen).resolve_left ?_⟩))
          rw [hslot]
          exact fun heq => hne (Option.some.inj heq).symm
  refine ⟨hin_slot, hnotices, ?_⟩
  intro hrest c hslot hclosed
  rcases hnotices c hslot hclosed with hready | hdialing | hsleeps | ⟨_, _, _, habout⟩
  · exact .inl hready
  · exact .inr (.inl hdialing)
  · exact .inr (.inr hsleeps)
  · exact absurd hrest habout.not_atRest

/-- A connection is lost after the watcher has been set going, before it subscribes. -/
def lossBeforeSubscription : List Happening :=
  [.call .connect] ++ List.replicate 4 (.turn 0) ++ [.call .start] ++ List.replicate 4 (.turn 1) ++
    [.incident (.dropConnection 0 .graceful)] ++ List.replicate 2 (.turn 2)

theorem lossBeforeSubscription_noticed :
    (System.single.played lossBeforeSubscription).2.isReady 2 = true := by
  have htask : (System.single.played lossBeforeSubscription).2.tasks[2]? =
      some (.watcher (.watching 0)) := rfl
  have hwatches := (System.single.run_played lossBeforeSubscription).watches System.single_fresh
    (by simp [Broker.ClosesReliably, System.single]) (by decide) (by decide) htask nofun
  exact (hwatches.at_rest (by decide) 0 (by decide) (by decide)).resolve_right (by decide)

end Run

end BrokerClient
