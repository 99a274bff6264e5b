import BrokerClient.Proofs.System.Turn

/-!
# Turns of a system, as the supervisor sees them

`step_supervisionTurn` sorts the turns of a system: connects, starts, shutdowns and the watcher do
what their `Advance` relations say, and the tasks of publishers and consumers leave the supervisor
and all connections alone.
-/

namespace BrokerClient

/-! ## The turns of a system -/

/-- Does the task work on the supervisor? -/
def Task.isSupervision : Task → Bool
  | connect _ | start _ | shutdown _ | watcher _ => true
  | _ => false

namespace System

/-- What a turn of the task `t` does to the supervisor, to the connections and to the tasks. -/
inductive SupervisionTurn (w : System) (t : Nat) (w' : System) : Prop
  | connect {point point' : Failover} {s' : Supervisor} {b' : Broker}
      (htask : w.tasks[t]? = some (.connect point))
      (hadvance : point.Advance w.supervisor w.broker s' b' point')
      (hsupervisor : w'.supervisor = s') (hbroker : w'.broker = b')
      (htasks : w'.tasks = w.tasks.set t (.connect point') ++ [])
  | start {point point' : Start} {s' : Supervisor}
      (htask : w.tasks[t]? = some (.start point))
      (hadvance : point.Advance w.supervisor t w.tasks.length s' point')
      (hsupervisor : w'.supervisor = s') (hbroker : w'.broker = w.broker)
      (htasks : w'.tasks = w.tasks.set t (.start point') ++
        if point = .spawning then [.watcher .starting] else [])
  | shutdown {point point' : Shutdown} {s' : Supervisor} {b' : Broker}
      (htask : w.tasks[t]? = some (.shutdown point))
      (hadvance : point.Advance w.supervisor w.broker w.hasEnded s' b' point')
      (hsupervisor : w'.supervisor = s') (hbroker : w'.broker = b')
      (htasks : w'.tasks = w.tasks.set t (.shutdown point') ++ [])
  | watcher {point point' : Watcher} {s' : Supervisor} {b' : Broker}
      (htask : w.tasks[t]? = some (.watcher point))
      (hadvance : point.Advance w.supervisor w.broker s' b' point')
      (hsupervisor : w'.supervisor = s') (hbroker : w'.broker = b')
      (htasks : w'.tasks = w.tasks.set t (.watcher point') ++ [])
  | other {task task' : Task} {spawned : List Task} (htask : w.tasks[t]? = some task)
      (hother : task.isSupervision = false) (hother' : task'.isSupervision = false)
      (hspawned : ∀ x ∈ spawned, Task.isSupervision x = false)
      (hsupervisor : w'.supervisor = w.supervisor)
      (hkeeps : w.broker.KeepsConnections w'.broker)
      (htasks : w'.tasks = w.tasks.set t task' ++ spawned)

theorem step_supervisionTurn {w w' : System} {t : Nat} (hstep : w.step t = some w') :
    w.SupervisionTurn t w' := by
  obtain ⟨task, task', spawned, htask, htasks, _, hacts⟩ := step_acts hstep
  cases hacts with
  | connect hadvance hpublishers => exact .connect htask hadvance rfl rfl htasks
  | start hadvance hbroker hpublishers => exact .start htask hadvance rfl hbroker htasks
  | shutdown hadvance hpublishers => exact .shutdown htask hadvance rfl rfl htasks
  | watcher hadvance hpublishers => exact .watcher htask hadvance rfl rfl htasks
  | publish hadvance hsupervisor hpublishers hspawned =>
      refine .other htask rfl rfl (fun x hx => ?_) hsupervisor hadvance.keepsConnections htasks
      obtain ⟨kept, rfl, _⟩ := hspawned x hx
      rfl
  | closePublisher hadvance hsupervisor hpublishers =>
      exact .other htask rfl rfl (by simp) hsupervisor hadvance.keepsConnections htasks
  | channelWatch hadvance hsupervisor hbroker hpublishers =>
      exact .other htask rfl rfl (by simp) hsupervisor (by rw [hbroker]) htasks
  | consume hsetup hturn hsupervisor hbroker hpublishers =>
      refine .other htask rfl rfl (by simp) hsupervisor ?_ htasks
      rw [hbroker]
      exact (Consuming.step_advance hturn).keepsConnections

theorem SupervisionTurn.serves {w w' : System} {t : Nat} (hturn : w.SupervisionTurn t w') :
    w.broker.Serves w'.broker := by
  cases hturn with
  | connect htask hadvance hsupervisor hbroker htasks => exact hbroker ▸ hadvance.serves
  | start htask hadvance hsupervisor hbroker htasks =>
      rw [hbroker]
      exact .of_keepsConnections (.refl _)
  | shutdown htask hadvance hsupervisor hbroker htasks => exact hbroker ▸ hadvance.serves
  | watcher htask hadvance hsupervisor hbroker htasks => exact hbroker ▸ hadvance.serves
  | other htask hother hother' hspawned hsupervisor hkeeps htasks =>
      exact .of_keepsConnections hkeeps

/-- What the task `t` has done in its turn, by the points before and after. -/
inductive TaskTurn (w : System) (t : Nat) (w' : System) : Task → Task → Prop
  | connect {point point' : Failover} {s' : Supervisor} {b' : Broker}
      (hadvance : point.Advance w.supervisor w.broker s' b' point')
      (hsupervisor : w'.supervisor = s') (hbroker : w'.broker = b') :
      TaskTurn w t w' (.connect point) (.connect point')
  | start {point point' : Start} {s' : Supervisor}
      (hadvance : point.Advance w.supervisor t w.tasks.length s' point')
      (hsupervisor : w'.supervisor = s') (hbroker : w'.broker = w.broker) :
      TaskTurn w t w' (.start point) (.start point')
  | shutdown {point point' : Shutdown} {s' : Supervisor} {b' : Broker}
      (hadvance : point.Advance w.supervisor w.broker w.hasEnded s' b' point')
      (hsupervisor : w'.supervisor = s') (hbroker : w'.broker = b') :
      TaskTurn w t w' (.shutdown point) (.shutdown point')
  | watcher {point point' : Watcher} {s' : Supervisor} {b' : Broker}
      (hadvance : point.Advance w.supervisor w.broker s' b' point')
      (hsupervisor : w'.supervisor = s') (hbroker : w'.broker = b') :
      TaskTurn w t w' (.watcher point) (.watcher point')
  | other {task task' : Task} (hother' : task'.isSupervision = false) : TaskTurn w t w' task task'

/-- A task after a turn is another one of before, the one whose turn it was, or new; and if it is
new and works on the supervisor it is a watcher that a start has set going. -/
theorem SupervisionTurn.task_cases {w w' : System} {t u : Nat} {other : Task}
    (hturn : w.SupervisionTurn t w') (hother : w'.tasks[u]? = some other) :
    (u ≠ t ∧ w.tasks[u]? = some other) ∨
      (u = t ∧ ∃ task, w.tasks[t]? = some task ∧ w.TaskTurn t w' task other) ∨
      (u = w.tasks.length ∧ other = .watcher .starting ∧
        w.tasks[t]? = some (Task.start .spawning)) ∨
      w.tasks.length ≤ u ∧ other.isSupervision = false := by
  cases hturn with
  | connect htask hadvance hsupervisor hbroker htasks =>
      rw [htasks] at hother
      rcases task_set_cases hother with ⟨rfl, rfl⟩ | hkept | ⟨_, hnew⟩
      · exact .inr (.inl ⟨rfl, _, htask, .connect hadvance hsupervisor hbroker⟩)
      · exact .inl hkept
      · cases hnew
  | start htask hadvance hsupervisor hbroker htasks =>
      rw [htasks] at hother
      rcases task_set_cases hother with ⟨rfl, rfl⟩ | hkept | ⟨hle, hnew⟩
      · exact .inr (.inl ⟨rfl, _, htask, .start hadvance hsupervisor hbroker⟩)
      · exact .inl hkept
      · split at hnew
        · rename_i hspawning
          have hlt : u - w.tasks.length < 1 := (List.getElem?_eq_some_iff.mp hnew).1
          have hwatcher := List.mem_singleton.mp (List.mem_of_getElem? hnew)
          exact .inr (.inr (.inl ⟨by omega, hwatcher, by rw [htask, hspawning]⟩))
        · cases hnew
  | shutdown htask hadvance hsupervisor hbroker htasks =>
      rw [htasks] at hother
      rcases task_set_cases hother with ⟨rfl, rfl⟩ | hkept | ⟨_, hnew⟩
      · exact .inr (.inl ⟨rfl, _, htask, .shutdown hadvance hsupervisor hbroker⟩)
      · exact .inl hkept
      · cases hnew
  | watcher htask hadvance hsupervisor hbroker htasks =>
      rw [htasks] at hother
      rcases task_set_cases hother with ⟨rfl, rfl⟩ | hkept | ⟨_, hnew⟩
      · exact .inr (.inl ⟨rfl, _, htask, .watcher hadvance hsupervisor hbroker⟩)
      · exact .inl hkept
      · cases hnew
  | other htask hkind hkind' hspawned hsupervisor hkeeps htasks =>
      rw [htasks] at hother
      rcases task_set_cases hother with ⟨rfl, rfl⟩ | hkept | ⟨hle, hnew⟩
      · exact .inr (.inl ⟨rfl, _, htask, .other hkind'⟩)
      · exact .inl hkept
      · exact .inr (.inr (.inr ⟨hle, hspawned other (List.mem_of_getElem? hnew)⟩))

/-- The other tasks stay where they are. -/
theorem SupervisionTurn.task_kept {w w' : System} {t u : Nat} {task : Task}
    (hturn : w.SupervisionTurn t w') (hne : u ≠ t) (htask : w.tasks[u]? = some task) :
    w'.tasks[u]? = some task := by
  cases hturn <;> rw [‹w'.tasks = _›] <;> exact task_set_of_ne hne htask

theorem SupervisionTurn.lt_length {w w' : System} {t : Nat} (hturn : w.SupervisionTurn t w') :
    t < w.tasks.length := by
  cases hturn <;> exact (List.getElem?_eq_some_iff.mp ‹_›).1

theorem SupervisionTurn.tasks_length_le {w w' : System} {t : Nat}
    (hturn : w.SupervisionTurn t w') : w.tasks.length ≤ w'.tasks.length := by
  cases hturn <;> simp [‹w'.tasks = _›]

/-! ## Turns that can be taken -/

theorem step_of_connect {w : System} {t : Nat} {point : Failover}
    {turn : Turn (Supervisor × Broker) Failover} (htask : w.tasks[t]? = some (.connect point))
    (hstep : point.step w.supervisor w.broker = some turn) :
    ∃ w', w.step t = some w' ∧ w'.supervisor = turn.state.1 ∧ w'.broker = turn.state.2 ∧
      w'.tasks[t]? = some (.connect turn.point) := by
  unfold step
  have hlt : t < w.tasks.length := (List.getElem?_eq_some_iff.mp htask).1
  simp only [htask, hstep, Option.map_some]
  exact ⟨_, rfl, rfl, rfl, List.getElem?_set_self hlt⟩

theorem step_of_shutdown {w : System} {t : Nat} {point : Shutdown}
    {turn : Turn (Supervisor × Broker) Shutdown} (htask : w.tasks[t]? = some (.shutdown point))
    (hstep : point.step w.supervisor w.broker w.hasEnded = some turn) :
    ∃ w', w.step t = some w' ∧ w'.supervisor = turn.state.1 ∧ w'.broker = turn.state.2 ∧
      w'.tasks[t]? = some (.shutdown turn.point) := by
  unfold step
  have hlt : t < w.tasks.length := (List.getElem?_eq_some_iff.mp htask).1
  simp only [htask, hstep, Option.map_some]
  exact ⟨_, rfl, rfl, rfl, List.getElem?_set_self hlt⟩

theorem step_of_watcher {w : System} {t : Nat} {point : Watcher}
    {turn : Turn (Supervisor × Broker) Watcher} (htask : w.tasks[t]? = some (.watcher point))
    (hstep : point.step w.supervisor w.broker = some turn) :
    ∃ w', w.step t = some w' ∧ w'.supervisor = turn.state.1 ∧ w'.broker = turn.state.2 ∧
      w'.tasks[t]? = some (.watcher turn.point) := by
  unfold step
  have hlt : t < w.tasks.length := (List.getElem?_eq_some_iff.mp htask).1
  simp only [htask, hstep, Option.map_some]
  exact ⟨_, rfl, rfl, rfl, List.getElem?_set_self hlt⟩

/-! ## What happens to a system -/

/-- What a happening does to the supervisor, to the connections and to the tasks. -/
inductive SupervisionChange (w : System) : Happening → System → Prop
  | turn {t : Nat} {w' : System} (hturn : w.SupervisionTurn t w') : SupervisionChange w (.turn t) w'
  | call {call : Call} {w' : System} (hsupervisor : w'.supervisor = w.supervisor)
      (hbroker : w'.broker = w.broker) (htasks : w'.tasks = w.tasks ++ [w.taskOf call]) :
      SupervisionChange w (.call call) w'
  | abort {t : Nat} {task : Task} {w' : System} (htask : w.tasks[t]? = some task)
      (hrests : task.rests = true) (hpending : task.isPending = true)
      (hsupervisor : w'.supervisor = w.supervisor) (hkeeps : w.broker.KeepsConnections w'.broker)
      (htasks : w'.tasks = w.tasks.set t .dropped ++ []) : SupervisionChange w (.abort t) w'
  | incident {incident : Broker.Incident} {w' : System} (hsupervisor : w'.supervisor = w.supervisor)
      (hbroker : w'.broker = w.broker.after incident) (htasks : w'.tasks = w.tasks) :
      SupervisionChange w (.incident incident) w'
  | tokens {what : Happening} {consumer : Nat} {w' : System}
      (hwhat : what = .cancel consumer ∨ what = .renewToken consumer)
      (hsupervisor : w'.supervisor = w.supervisor) (hbroker : w'.broker = w.broker)
      (htasks : w'.tasks = w.tasks) : SupervisionChange w what w'

theorem after_supervisionChange {w w' : System} {what : Happening}
    (hafter : w.after? what = some w') : w.SupervisionChange what w' := by
  cases what with
  | turn t => exact .turn (step_supervisionTurn hafter)
  | call call =>
      cases hafter
      exact .call rfl rfl rfl
  | abort t =>
      obtain ⟨task, htask, hrests, hpending, hgivesUp⟩ := after_abort hafter
      exact .abort htask hrests hpending hgivesUp.supervisor hgivesUp.keepsConnections
        (by rw [hgivesUp.tasks, List.append_nil])
  | incident incident =>
      cases hafter
      exact .incident rfl rfl rfl
  | cancel consumer =>
      obtain ⟨tokens, htokens⟩ := w.cancel_eq consumer
      cases hafter
      rw [htokens]
      exact .tokens (.inl rfl) rfl rfl rfl
  | renewToken consumer =>
      cases hafter
      exact .tokens (.inr rfl) rfl rfl rfl

/-- Nobody's turn: the supervisor is left alone, and a task is one of before, one that has been
given up, or the one that a call has begun. -/
structure Outside (w : System) (what : Happening) (w' : System) : Prop where
  notTurn : ∀ t, what ≠ .turn t
  supervisor : w'.supervisor = w.supervisor
  task_cases : ∀ (u : Nat) (other : Task), w'.tasks[u]? = some other → w.tasks[u]? = some other ∨
    (what = .abort u ∧ other = .dropped) ∨
    ∃ call, what = .call call ∧ u = w.tasks.length ∧ other = w.taskOf call

namespace SupervisionChange

variable {w w' : System} {what : Happening}

theorem of_turn {t : Nat} (hchange : w.SupervisionChange (.turn t) w') :
    w.SupervisionTurn t w' := by
  cases hchange with
  | turn hturn => exact hturn
  | tokens hwhat => rcases hwhat with hwhat | hwhat <;> cases hwhat

theorem turn_or_outside (hchange : w.SupervisionChange what w') :
    (∃ t, what = .turn t ∧ w.SupervisionTurn t w') ∨ Outside w what w' := by
  cases hchange with
  | turn hturn => exact .inl ⟨_, rfl, hturn⟩
  | @call call _ hsupervisor hbroker htasks =>
      refine .inr ⟨nofun, hsupervisor, fun u other hother => ?_⟩
      rw [htasks] at hother
      rcases task_append_cases hother with hkept | ⟨hu, hnew⟩
      · exact .inl hkept
      · exact .inr (.inr ⟨call, rfl, hu, hnew⟩)
  | abort htask hrests hpending hsupervisor hkeeps htasks =>
      refine .inr ⟨nofun, hsupervisor, fun u other hother => ?_⟩
      rw [htasks] at hother
      rcases task_set_cases hother with ⟨rfl, rfl⟩ | ⟨_, hkept⟩ | ⟨_, hnew⟩
      · exact .inr (.inl ⟨rfl, rfl⟩)
      · exact .inl hkept
      · cases hnew
  | incident hsupervisor hbroker htasks =>
      exact .inr ⟨nofun, hsupervisor, fun u other hother => .inl (htasks ▸ hother)⟩
  | tokens hkind hsupervisor hbroker htasks =>
      refine .inr ⟨fun t hturn => ?_, hsupervisor, fun u other hother => .inl (htasks ▸ hother)⟩
      rcases hkind with hwhat | hwhat <;> cases hwhat.symm.trans hturn

/-- What is closed stays closed whatever happens. -/
theorem keepsClosed (hchange : w.SupervisionChange what w') : w.broker.KeepsClosed w'.broker := by
  cases hchange with
  | turn hturn => exact hturn.serves.toKeepsClosed
  | call hsupervisor hbroker htasks =>
      rw [hbroker]
      exact (Broker.KeepsConnections.refl _).keepsClosed
  | abort htask hrests hpending hsupervisor hkeeps htasks => exact hkeeps.keepsClosed
  | incident hsupervisor hbroker htasks => rw [hbroker]; exact w.broker.after_keepsClosed _
  | tokens hwhat hsupervisor hbroker htasks =>
      rw [hbroker]
      exact (Broker.KeepsConnections.refl _).keepsClosed

/-- A task that works on the supervisor is one of before, one that has taken a turn, one that a call
has begun, or a watcher that a start has set going. -/
theorem task_cases {u : Nat} {other : Task} (hchange : w.SupervisionChange what w')
    (hother : w'.tasks[u]? = some other) :
    (what ≠ .turn u ∧ w.tasks[u]? = some other) ∨
      (what = .turn u ∧ ∃ task, w.tasks[u]? = some task ∧ w.TaskTurn u w' task other) ∨
      (u = w.tasks.length ∧ ∃ call, what = .call call ∧ other = w.taskOf call) ∨
      (u = w.tasks.length ∧ other = .watcher .starting ∧
        ∃ t, what = .turn t ∧ w.tasks[t]? = some (Task.start .spawning)) ∨
      other.isSupervision = false := by
  rcases hchange.turn_or_outside with ⟨t, rfl, hturn⟩ | houtside
  · rcases hturn.task_cases hother with ⟨hne, hkept⟩ | ⟨rfl, hmoved⟩ |
      ⟨hu, hwatcher, hspawning⟩ | ⟨_, hkind⟩
    · exact .inl ⟨fun heq => hne (Happening.turn.inj heq).symm, hkept⟩
    · exact .inr (.inl ⟨rfl, hmoved⟩)
    · exact .inr (.inr (.inr (.inl ⟨hu, hwatcher, t, rfl, hspawning⟩)))
    · exact .inr (.inr (.inr (.inr hkind)))
  · rcases houtside.task_cases u other hother with hkept | ⟨_, rfl⟩ | ⟨call, hcall, hu, hnew⟩
    · exact .inl ⟨houtside.notTurn u, hkept⟩
    · exact .inr (.inr (.inr (.inr rfl)))
    · exact .inr (.inr (.inl ⟨hu, call, hcall, hnew⟩))

/-- A task that takes no turn and cannot be given up stays where it is. -/
theorem task_kept {u : Nat} {task : Task} (hchange : w.SupervisionChange what w')
    (hother : what ≠ .turn u) (hbound : task.rests = false ∨ task.isPending = false)
    (htask : w.tasks[u]? = some task) : w'.tasks[u]? = some task := by
  cases hchange with
  | turn hturn => exact hturn.task_kept (fun heq => hother (by rw [heq])) htask
  | call hsupervisor hbroker htasks =>
      rw [htasks]
      exact task_append_of_some htask
  | @abort t _ _ hdropped hrests hgivenUp hsupervisor hkeeps htasks =>
      rw [htasks]
      refine task_set_of_ne ?_ htask
      rintro rfl
      rw [htask] at hdropped
      cases hdropped
      simp [hrests, hgivenUp] at hbound
  | incident hsupervisor hbroker htasks => rw [htasks, htask]
  | tokens hwhat hsupervisor hbroker htasks => rw [htasks, htask]

theorem tasks_length_le (hchange : w.SupervisionChange what w') :
    w.tasks.length ≤ w'.tasks.length := by
  cases hchange with
  | turn hturn => exact hturn.tasks_length_le
  | call hsupervisor hbroker htasks => simp [htasks]
  | abort htask hrests hpending hsupervisor hkeeps htasks => simp [htasks]
  | incident hsupervisor hbroker htasks => rw [htasks]
  | tokens hwhat hsupervisor hbroker htasks => rw [htasks]

/-- Operations keep succeeding as long as nobody makes one fail. -/
theorem grants {operation : Broker.Operation} (hchange : w.SupervisionChange what w')
    (hgrants : w.broker.Grants operation) (hwhat : what.fails operation = false) :
    w'.broker.Grants operation := by
  cases hchange with
  | turn hturn => exact hturn.serves.grants hgrants
  | call hsupervisor hbroker htasks => rwa [hbroker]
  | abort htask hrests hpending hsupervisor hkeeps htasks =>
      exact (Broker.Serves.of_keepsConnections hkeeps).grants hgrants
  | incident hsupervisor hbroker htasks =>
      rw [hbroker]
      refine Broker.after_grants hgrants ?_
      rintro e rfl
      simp [Happening.fails] at hwhat
  | tokens hconsumer hsupervisor hbroker htasks => rwa [hbroker]

end SupervisionChange

end System

/-! ## Every run -/

namespace Run

variable {w₀ w : System} {past : List Moment}

theorem tasks_length_le (hrun : Run w₀ past w) : w₀.tasks.length ≤ w.tasks.length := by
  induction hrun with
  | refl => rfl
  | snoc _ hafter ih => exact ih.trans (System.after_supervisionChange hafter).tasks_length_le

/-- Operations of a kind succeed as long as nobody makes one fail. -/
theorem grants {operation : Broker.Operation} (hrun : Run w₀ past w)
    (hgrants : w₀.broker.Grants operation) (hwhat : ∀ m ∈ past, m.what.fails operation = false) :
    w.broker.Grants operation := by
  induction hrun with
  | refl => exact hgrants
  | snoc _ hafter ih =>
      simp only [List.mem_append, List.mem_singleton, or_imp, forall_and, forall_eq] at hwhat
      exact (System.after_supervisionChange hafter).grants (ih hwhat.1) hwhat.2

theorem keepsClosed (hrun : Run w₀ past w) : w₀.broker.KeepsClosed w.broker := by
  induction hrun with
  | refl => exact (Broker.KeepsConnections.refl _).keepsClosed
  | snoc _ hafter ih => exact ih.trans (System.after_supervisionChange hafter).keepsClosed

/-- A task that has not begun yet has not taken a turn. -/
theorem isTurnOf_eq_false (hrun : Run w₀ past w) {t : Nat} (hle : w.tasks.length ≤ t) {m : Moment}
    (hmem : m ∈ past) : m.isTurnOf t = false := by
  obtain ⟨earlier, later, _, _, hafter, hlater⟩ := hrun.exists_of_mem hmem
  cases hwhat : m.what with
  | turn u =>
      rw [hwhat] at hafter
      have hlt := (System.after_supervisionChange hafter).of_turn.lt_length
      have hlength := (System.after_supervisionChange hafter).tasks_length_le.trans
        hlater.tasks_length_le
      have hne : u ≠ t := by omega
      simp [Moment.isTurnOf, hwhat, hne]
  | _ => simp [Moment.isTurnOf, hwhat]

end Run

end BrokerClient
