import BrokerClient.Proofs.Consumer.Turn
import BrokerClient.Proofs.Publisher.Turn
import BrokerClient.Proofs.Supervisor.Turn

/-!
# Turns of a system

`System.Acts` lists what a task may do to the system in its turn: each kind of task does what its
own `Advance` relation says and leaves the rest alone.  `step_acts` says that every turn is listed,
and whatever the other modules say about turns is read off this list.  What giving up a call and
cancelling a token do is said here too.
-/

namespace BrokerClient

/-! ## The list of tasks -/

section Tasks

variable {tasks spawned : List Task} {task task' : Task} {t u : Nat}

theorem task_set_self (htask : tasks[t]? = some task) :
    (tasks.set t task' ++ spawned)[t]? = some task' := by
  have hlt : t < tasks.length := (List.getElem?_eq_some_iff.mp htask).1
  rw [List.getElem?_append_left (by simpa using hlt), List.getElem?_set_self hlt]

theorem task_set_of_ne (hne : u ≠ t) (htask : tasks[u]? = some task) :
    (tasks.set t task' ++ spawned)[u]? = some task := by
  have hlt : u < tasks.length := (List.getElem?_eq_some_iff.mp htask).1
  rw [List.getElem?_append_left (by simpa using hlt), List.getElem?_set_ne (Ne.symm hne), htask]

/-- A task after a turn is the one that took it, another one of before, or new. -/
theorem task_set_cases {other : Task} (hother : (tasks.set t task' ++ spawned)[u]? = some other) :
    (u = t ∧ other = task') ∨ (u ≠ t ∧ tasks[u]? = some other) ∨
      (tasks.length ≤ u ∧ spawned[u - tasks.length]? = some other) := by
  rcases lt_or_ge u tasks.length with hlt | hge
  · rw [List.getElem?_append_left (by simpa using hlt), List.getElem?_set] at hother
    split at hother
    · rename_i heq
      simp only [heq, hlt, if_true, Option.some.injEq] at hother
      exact .inl ⟨heq.symm, hother.symm⟩
    · rename_i hne
      exact .inr (.inl ⟨Ne.symm hne, hother⟩)
  · rw [List.getElem?_append_right (by simpa using hge), List.length_set] at hother
    exact .inr (.inr ⟨hge, hother⟩)

/-- Tasks of a kind that the task whose turn it is does not enter or leave are where they were. -/
theorem task_set_iff {P : Task → Prop} (htask : tasks[t]? = some task) (hmover : P task' ↔ P task)
    (hspawned : ∀ x ∈ spawned, ¬ P x) :
    (∃ x, (tasks.set t task' ++ spawned)[u]? = some x ∧ P x) ↔ ∃ x, tasks[u]? = some x ∧ P x := by
  constructor
  · rintro ⟨x, hx, hkind⟩
    rcases task_set_cases hx with ⟨rfl, rfl⟩ | ⟨_, hkept⟩ | ⟨_, hnew⟩
    · exact ⟨task, htask, hmover.mp hkind⟩
    · exact ⟨x, hkept, hkind⟩
    · exact absurd hkind (hspawned x (List.mem_of_getElem? hnew))
  · rintro ⟨x, hx, hkind⟩
    by_cases hne : u = t
    · subst hne
      rw [htask] at hx
      cases hx
      exact ⟨task', task_set_self htask, hmover.mpr hkind⟩
    · exact ⟨x, task_set_of_ne hne hx, hkind⟩

theorem task_append_cases {new other : Task} (hother : (tasks ++ [new])[u]? = some other) :
    tasks[u]? = some other ∨ u = tasks.length ∧ other = new := by
  rcases lt_or_ge u tasks.length with hlt | hge
  · rw [List.getElem?_append_left hlt] at hother
    exact .inl hother
  · rw [List.getElem?_append_right hge] at hother
    have hlt : u - tasks.length < 1 := (List.getElem?_eq_some_iff.mp hother).1
    exact .inr ⟨by omega, List.mem_singleton.mp (List.mem_of_getElem? hother)⟩

theorem task_append_of_some {more : List Task} (htask : tasks[u]? = some task) :
    (tasks ++ more)[u]? = some task := by
  rw [List.getElem?_append_left (List.getElem?_eq_some_iff.mp htask).1, htask]

end Tasks

namespace System

/-! ## Publishers -/

section Publishers

variable {w w' : System} {i j : Nat} {p : Publisher}

theorem publisherAt_of_eq (hpublishers : w'.publishers = w.publishers) :
    w'.publisherAt i = w.publisherAt i := by
  rw [publisherAt, publisherAt, hpublishers]

theorem publisherAt_of_set (hi : i < w.publishers.length)
    (hpublishers : w'.publishers = w.publishers.set i p) : w'.publisherAt i = p := by
  simp [publisherAt, hpublishers, hi]

theorem publisherAt_of_set_ne (hne : j ≠ i) (hpublishers : w'.publishers = w.publishers.set j p) :
    w'.publisherAt i = w.publisherAt i := by
  simp [publisherAt, hpublishers, hne]

end Publishers

/-! ## Turns -/

/-- What a consumption loop finds at its turn. -/
def consumeState (w : System) (token : Nat) : ConsumeState :=
  ⟨w.broker, (w.tokens[token]?).getD true, w.ids⟩

/-- `w.Acts t w' task task' spawned`: the task `t` takes a turn, from one point to another, and sets
some tasks going. -/
inductive Acts (w : System) (t : Nat) (w' : System) : Task → Task → List Task → Prop
  | connect {point point' : Failover}
      (hadvance : point.Advance w.supervisor w.broker w'.supervisor w'.broker point')
      (hpublishers : w'.publishers = w.publishers) :
      Acts w t w' (.connect point) (.connect point') []
  | start {point point' : Start}
      (hadvance : point.Advance w.supervisor t w.tasks.length w'.supervisor point')
      (hbroker : w'.broker = w.broker) (hpublishers : w'.publishers = w.publishers) :
      Acts w t w' (.start point) (.start point')
        (if point = .spawning then [.watcher .starting] else [])
  | shutdown {point point' : Shutdown}
      (hadvance : point.Advance w.supervisor w.broker w.hasEnded w'.supervisor w'.broker point')
      (hpublishers : w'.publishers = w.publishers) :
      Acts w t w' (.shutdown point) (.shutdown point') []
  | watcher {point point' : Watcher}
      (hadvance : point.Advance w.supervisor w.broker w'.supervisor w'.broker point')
      (hpublishers : w'.publishers = w.publishers) :
      Acts w t w' (.watcher point) (.watcher point') []
  | publish {i : Nat} {event : Event} {point point' : Publishing} {p' : Publisher}
      {spawned : List Task}
      (hadvance : Publishing.Advance w.supervisor w.broker (w.publisherAt i) t event point p'
        w'.broker point')
      (hsupervisor : w'.supervisor = w.supervisor)
      (hpublishers : w'.publishers = w.publishers.set i p')
      (hspawned : ∀ x ∈ spawned, ∃ kept, x = .channelWatch i kept .waiting ∧
        (i < w.publishers.length → p'.slot = some kept)) :
      Acts w t w' (.publish i event point) (.publish i event point') spawned
  | closePublisher {i : Nat} {point point' : ClosePublisher} {p' : Publisher}
      (hadvance : ClosePublisher.Advance w.broker (w.publisherAt i) t point p' w'.broker point')
      (hsupervisor : w'.supervisor = w.supervisor)
      (hpublishers : w'.publishers = w.publishers.set i p') :
      Acts w t w' (.closePublisher i point) (.closePublisher i point') []
  | channelWatch {i : Nat} {kept : KeptChannel} {point point' : ChannelWatch} {p' : Publisher}
      (hadvance : ChannelWatch.Advance w.broker (w.publisherAt i) t kept point p' point')
      (hsupervisor : w'.supervisor = w.supervisor) (hbroker : w'.broker = w.broker)
      (hpublishers : w'.publishers = w.publishers.set i p') :
      Acts w t w' (.channelWatch i kept point) (.channelWatch i kept point') []
  | consume {i token : Nat} {setup : ConsumerSetup} {point : Consuming}
      {turn : Turn ConsumeState Consuming} (hsetup : w.consumers[i]? = some setup)
      (hturn : point.step w.supervisor setup.config setup.queue w.handler (w.consumeState token) =
        some turn)
      (hsupervisor : w'.supervisor = w.supervisor) (hbroker : w'.broker = turn.state.broker)
      (hpublishers : w'.publishers = w.publishers) :
      Acts w t w' (.consume i token point) (.consume i token turn.point) []

theorem step_acts {w w' : System} {t : Nat} (hstep : w.step t = some w') :
    ∃ task task' spawned, w.tasks[t]? = some task ∧
      w'.tasks = w.tasks.set t task' ++ spawned ∧ w'.consumers = w.consumers ∧
      w.Acts t w' task task' spawned := by
  unfold step at hstep
  split at hstep
  · cases hstep
  · cases hstep
  · -- a connect
    rename_i point htask
    obtain ⟨turn, hturn, rfl⟩ := Option.map_eq_some_iff.mp hstep
    exact ⟨_, _, [], htask, (List.append_nil _).symm, rfl,
      .connect (Failover.step_advance hturn) rfl⟩
  · -- a start, which sets the watcher going from one of its points
    rename_i point htask
    obtain ⟨turn, hturn, rfl⟩ := Option.map_eq_some_iff.mp hstep
    have hadvance := Start.step_advance hturn
    cases point with
    | spawning => exact ⟨_, _, _, htask, rfl, rfl, .start hadvance rfl rfl⟩
    | _ => exact ⟨_, _, [], htask, (List.append_nil _).symm, rfl, .start hadvance rfl rfl⟩
  · -- a shutdown
    rename_i point htask
    obtain ⟨turn, hturn, rfl⟩ := Option.map_eq_some_iff.mp hstep
    exact ⟨_, _, [], htask, (List.append_nil _).symm, rfl,
      .shutdown (Shutdown.step_advance hturn) rfl⟩
  · -- the watcher
    rename_i point htask
    obtain ⟨turn, hturn, rfl⟩ := Option.map_eq_some_iff.mp hstep
    exact ⟨_, _, [], htask, (List.append_nil _).symm, rfl,
      .watcher (Watcher.step_advance hturn) rfl⟩
  · -- a publish; the one that fills the slot sets a watch over its channel going
    rename_i i event point htask
    obtain ⟨turn, hturn, rfl⟩ := Option.map_eq_some_iff.mp hstep
    have hadvance := Publishing.step_advance hturn
    cases point with
    | opened attempt channel =>
        refine ⟨_, _, _, htask, rfl, rfl, .publish hadvance rfl rfl fun x hx => ?_⟩
        refine ⟨_, List.mem_singleton.mp hx, fun hi => ?_⟩
        have hpublisher : (w.withPublisher i turn.state.1 turn.state.2).publisherAt i =
          turn.state.1 := publisherAt_of_set hi rfl
        show turn.state.1.slot =
          some ⟨((w.withPublisher i turn.state.1 turn.state.2).publisherAt i).opened, channel⟩
        rw [hpublisher]
        cases hturn
        rfl
    | _ =>
        exact ⟨_, _, [], htask, (List.append_nil _).symm, rfl,
          .publish hadvance rfl rfl (by simp)⟩
  · -- a request to close a publisher's channel
    rename_i i point htask
    obtain ⟨turn, hturn, rfl⟩ := Option.map_eq_some_iff.mp hstep
    exact ⟨_, _, [], htask, (List.append_nil _).symm, rfl,
      .closePublisher (ClosePublisher.step_advance hturn) rfl rfl⟩
  · -- a watch over a channel
    rename_i i kept point htask
    obtain ⟨turn, hturn, rfl⟩ := Option.map_eq_some_iff.mp hstep
    exact ⟨_, _, [], htask, (List.append_nil _).symm, rfl,
      .channelWatch (ChannelWatch.step_advance hturn) rfl rfl rfl⟩
  · -- a consumption loop
    rename_i i token point htask
    split at hstep
    · cases hstep
    · rename_i setup hsetup
      obtain ⟨turn, hturn, rfl⟩ := Option.map_eq_some_iff.mp hstep
      cases point <;>
        exact ⟨_, _, [], htask, (List.append_nil _).symm, rfl, .consume hsetup hturn rfl rfl rfl⟩

/-! ## Calls that are given up, and tokens -/

/-- What giving up the task `t` does: a publish and a request to close leave the queue for the lock,
and a consumption loop its stream. -/
structure GivesUp (w : System) (t : Nat) (w' : System) : Prop where
  supervisor : w'.supervisor = w.supervisor
  consumers : w'.consumers = w.consumers
  tasks : w'.tasks = w.tasks.set t .dropped
  broker : w'.broker = w.broker ∨ ∃ subscription, w'.broker = w.broker.hangUp subscription
  publishers : w'.publishers = w.publishers ∨
    ∃ i, w'.publishers = w.publishers.modify i (·.abandoned t)

theorem drop_givesUp (w : System) (t : Nat) : w.GivesUp t (w.drop t) := by
  unfold drop
  split
  · exact ⟨rfl, rfl, rfl, .inl rfl, .inr ⟨_, rfl⟩⟩
  · exact ⟨rfl, rfl, rfl, .inl rfl, .inr ⟨_, rfl⟩⟩
  · split
    · exact ⟨rfl, rfl, rfl, .inr ⟨_, rfl⟩, .inl rfl⟩
    · exact ⟨rfl, rfl, rfl, .inr ⟨_, rfl⟩, .inl rfl⟩
    · exact ⟨rfl, rfl, rfl, .inr ⟨_, rfl⟩, .inl rfl⟩
    · exact ⟨rfl, rfl, rfl, .inr ⟨_, rfl⟩, .inl rfl⟩
    · exact ⟨rfl, rfl, rfl, .inl rfl, .inl rfl⟩
  · exact ⟨rfl, rfl, rfl, .inl rfl, .inl rfl⟩

/-- Only a call that is suspended can be given up. -/
theorem after_abort {w w' : System} {t : Nat} (hafter : w.after? (.abort t) = some w') :
    ∃ task, w.tasks[t]? = some task ∧ task.rests = true ∧ task.isPending = true ∧
      w.GivesUp t w' := by
  rw [after?] at hafter
  split at hafter
  · rename_i hany
    obtain ⟨task, htask, hsuspended⟩ := (Option.any_eq_true _ _).mp hany
    obtain ⟨hrests, hpending⟩ := (Bool.and_eq_true _ _).mp hsuspended
    cases hafter
    exact ⟨task, htask, hrests, hpending, w.drop_givesUp t⟩
  · cases hafter

theorem GivesUp.keepsConnections {w w' : System} {t : Nat} (hgivesUp : w.GivesUp t w') :
    w.broker.KeepsConnections w'.broker := by
  rcases hgivesUp.broker with hbroker | ⟨subscription, hbroker⟩
  · rw [hbroker]
  · rw [hbroker]
    exact w.broker.hangUp_keepsConnections _

/-- Cancelling touches nothing but tokens. -/
theorem cancel_eq (w : System) (consumer : Nat) :
    ∃ tokens, w.cancel consumer = { w with tokens } := by
  unfold cancel
  split
  · exact ⟨_, rfl⟩
  · exact ⟨w.tokens, rfl⟩

end System

end BrokerClient
