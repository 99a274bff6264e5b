import BrokerClient.Proofs.System.Tasks

/-!
# Who writes what into the record

Only turns write into the record of the broker, and what a turn may write depends on the point that
its task has come to.  So a list that is read off one kind of entries grows only with the turns at
the points that write them.
-/

namespace BrokerClient

/-- What a turn of the task may write into the record. -/
def Task.mayWrite : Task → Broker.Entry → Bool
  | connect _, entry | shutdown _, entry | watcher _, entry => entry.isConnecting
  | publish _ _ point, entry => point.mayWrite entry
  | closePublisher _ point, entry => point.mayWrite entry
  | consume _ _ point, entry => point.mayWrite entry
  | start _, _ | channelWatch _ _ _, _ | dropped, _ => false

namespace System

variable {w w' : System} {t : Nat}

/-- What a publish does in its turn, to whichever publisher. -/
theorem step_publish {i : Nat} {event : Event} {point : Publishing}
    (htask : w.tasks[t]? = some (.publish i event point)) (hstep : w.step t = some w') :
    ∃ p' point', w'.tasks[t]? = some (.publish i event point') ∧
      Publishing.Advance w.supervisor w.broker (w.publisherAt i) t event point p' w'.broker
        point' := by
  obtain ⟨task, task', spawned, hfound, htasks, _, hacts⟩ := step_acts hstep
  obtain rfl := Option.some.inj (htask.symm.trans hfound)
  cases hacts with
  | publish hadvance hsupervisor hpublishers hspawned =>
      exact ⟨_, _, by rw [htasks]; exact task_set_self htask, hadvance⟩

/-- A turn of a consumption loop is a turn of its consumer in the state of the system. -/
theorem step_consume {i token : Nat} {point : Consuming}
    (htask : w.tasks[t]? = some (.consume i token point)) (hstep : w.step t = some w') :
    ∃ setup turn, w.consumers[i]? = some setup ∧
      point.step w.supervisor setup.config setup.queue w.handler (w.consumeState token) =
        some turn ∧
      w'.broker = turn.state.broker ∧ w'.tasks[t]? = some (.consume i token turn.point) := by
  obtain ⟨task, task', spawned, hfound, htasks, _, hacts⟩ := step_acts hstep
  obtain rfl := Option.some.inj (htask.symm.trans hfound)
  cases hacts with
  | consume hsetup hturn hsupervisor hbroker hpublishers =>
      exact ⟨_, _, hsetup, hturn, hbroker, by rw [htasks]; exact task_set_self htask⟩

theorem step_writes {task : Task} (htask : w.tasks[t]? = some task) (hstep : w.step t = some w') :
    w.broker.Writes w'.broker task.mayWrite := by
  obtain ⟨found, task', spawned, hfound, _, _, hacts⟩ := step_acts hstep
  obtain rfl := Option.some.inj (htask.symm.trans hfound)
  cases hacts with
  | connect hadvance hpublishers => exact hadvance.writes
  | start hadvance hbroker hpublishers => exact .of_eq (by rw [hbroker])
  | shutdown hadvance hpublishers => exact hadvance.writes
  | watcher hadvance hpublishers => exact hadvance.writes
  | publish hadvance hsupervisor hpublishers hspawned => exact hadvance.writes
  | closePublisher hadvance hsupervisor hpublishers => exact hadvance.writes
  | channelWatch hadvance hsupervisor hbroker hpublishers => exact .of_eq (by rw [hbroker])
  | consume hsetup hturn hsupervisor hbroker hpublishers =>
      rw [hbroker]
      exact (Consuming.step_advance hturn).writes

/-- Nothing is written down but in turns. -/
theorem after_entries_eq {what : Happening} (hafter : w.after? what = some w')
    (hquiet : ∀ t, what ≠ .turn t) : w'.broker.entries = w.broker.entries := by
  cases what with
  | turn t => exact absurd rfl (hquiet t)
  | call call =>
      cases hafter
      rfl
  | abort t =>
      obtain ⟨_, _, _, _, hgivesUp⟩ := after_abort hafter
      rcases hgivesUp.broker with hbroker | ⟨subscription, hbroker⟩
      · rw [hbroker]
      · rw [hbroker, Broker.hangUp_entries]
  | incident incident =>
      cases hafter
      exact w.broker.after_entries incident
  | cancel consumer =>
      obtain ⟨tokens, htokens⟩ := w.cancel_eq consumer
      cases hafter
      rw [htokens]
  | renewToken consumer =>
      cases hafter
      rfl

end System

end BrokerClient
