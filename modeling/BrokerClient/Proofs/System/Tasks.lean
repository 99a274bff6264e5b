import BrokerClient.Proofs.System.Supervision

/-!
# What becomes of the tasks

A task is new, goes from point to point in its own turns, and may be given up while it is suspended.
What it has been begun for never changes: a publish has its message from its begin to its end, and a
consumption loop its consumer and its token.
-/

namespace BrokerClient

namespace Task

/-- The task at its first point, which is what it has been begun for. -/
def begun : Task → Task
  | connect _ => connect .start
  | start _ => start .locking
  | shutdown _ => shutdown .signalling
  | watcher _ => watcher .starting
  | publish i event _ => publish i event .start
  | closePublisher i _ => closePublisher i .asking
  | channelWatch i kept _ => channelWatch i kept .waiting
  | consume i token _ => consume i token .starting
  | dropped => dropped

theorem begun_eq_publish {task : Task} {i : Nat} {event : Event}
    (hbegun : task.begun = publish i event .start) : ∃ point, task = publish i event point := by
  cases task <;> cases hbegun
  exact ⟨_, rfl⟩

theorem begun_eq_consume {task : Task} {i token : Nat}
    (hbegun : task.begun = consume i token .starting) :
    ∃ point, task = consume i token point := by
  cases task <;> cases hbegun
  exact ⟨_, rfl⟩

end Task

namespace System

variable {w w' : System}

theorem taskOf_begun (call : Call) : (w.taskOf call).begun = w.taskOf call := by
  cases call <;> rfl

/-- A turn moves its task on, and what it sets going is at its first point. -/
theorem Acts.begun {t : Nat} {task task' : Task} {spawned : List Task}
    (hacts : w.Acts t w' task task' spawned) :
    task'.begun = task.begun ∧ ∀ x ∈ spawned, Task.begun x = x := by
  cases hacts with
  | start hadvance hbroker hpublishers =>
      refine ⟨rfl, fun x hx => ?_⟩
      split at hx
      · obtain rfl := List.mem_singleton.mp hx
        rfl
      · cases hx
  | publish hadvance hsupervisor hpublishers hspawned =>
      refine ⟨rfl, fun x hx => ?_⟩
      obtain ⟨kept, rfl, _⟩ := hspawned x hx
      rfl
  | _ => exact ⟨rfl, by simp⟩

/-- A task is one of before, one that has taken a turn, one that has been given up, or new. -/
theorem after_task_cases {what : Happening} (hafter : w.after? what = some w') {u : Nat}
    {other : Task} (hother : w'.tasks[u]? = some other) :
    (what ≠ .turn u ∧ w.tasks[u]? = some other) ∨
      (what = .turn u ∧ ∃ task, w.tasks[u]? = some task ∧ other.begun = task.begun) ∨
      other = .dropped ∨ (w.tasks.length ≤ u ∧ other.begun = other) := by
  rcases (after_supervisionChange hafter).turn_or_outside with ⟨t, rfl, _⟩ | houtside
  · obtain ⟨task, task', spawned, htask, htasks, _, hacts⟩ := step_acts hafter
    obtain ⟨hbegun, hspawned⟩ := hacts.begun
    rw [htasks] at hother
    rcases task_set_cases hother with ⟨rfl, rfl⟩ | ⟨hne, hkept⟩ | ⟨hle, hnew⟩
    · exact .inr (.inl ⟨rfl, task, htask, hbegun⟩)
    · exact .inl ⟨fun heq => hne (Happening.turn.inj heq).symm, hkept⟩
    · exact .inr (.inr (.inr ⟨hle, hspawned other (List.mem_of_getElem? hnew)⟩))
  · rcases houtside.task_cases u other hother with hkept | ⟨_, hdropped⟩ | ⟨call, _, hu, rfl⟩
    · exact .inl ⟨houtside.notTurn u, hkept⟩
    · exact .inr (.inr (.inl hdropped))
    · exact .inr (.inr (.inr ⟨hu.ge, taskOf_begun call⟩))

/-- A task takes a turn, is given up while it is suspended, or stays where it is. -/
theorem after_task_next {what : Happening} (hafter : w.after? what = some w') {u : Nat}
    {task : Task} (htask : w.tasks[u]? = some task) :
    (what = .turn u ∧ ∃ task', w'.tasks[u]? = some task' ∧ task'.begun = task.begun) ∨
      (task.rests = true ∧ task.isPending = true ∧ w'.tasks[u]? = some .dropped) ∨
      (what ≠ .turn u ∧ w'.tasks[u]? = some task) := by
  by_cases hturn : what = .turn u
  · subst hturn
    obtain ⟨found, task', spawned, hfound, htasks, _, hacts⟩ := step_acts hafter
    obtain rfl := Option.some.inj (htask.symm.trans hfound)
    exact .inl ⟨rfl, task', by rw [htasks]; exact task_set_self htask, hacts.begun.1⟩
  · refine .inr ?_
    have hchange := after_supervisionChange hafter
    cases hchange with
    | turn hchange =>
        exact .inr ⟨hturn, hchange.task_kept (fun heq => hturn (by rw [heq])) htask⟩
    | call hsupervisor hbroker htasks =>
        exact .inr ⟨hturn, by rw [htasks]; exact task_append_of_some htask⟩
    | @abort t _ _ hfound hrests hpending hsupervisor hkeeps htasks =>
        by_cases hu : u = t
        · subst hu
          obtain rfl := Option.some.inj (htask.symm.trans hfound)
          exact .inl ⟨hrests, hpending, by rw [htasks]; exact task_set_self htask⟩
        · exact .inr ⟨hturn, by rw [htasks]; exact task_set_of_ne hu htask⟩
    | incident hsupervisor hbroker htasks => exact .inr ⟨hturn, by rw [htasks, htask]⟩
    | tokens hwhat hsupervisor hbroker htasks => exact .inr ⟨hturn, by rw [htasks, htask]⟩

end System

end BrokerClient
