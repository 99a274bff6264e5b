import BrokerClient.System.Schedule
import Mathlib.Data.List.DropRight
import Mathlib.Tactic.Common

/-!
# Runs of a system

A run is any sequence of happenings: a task takes a turn, a call is begun or given up, something
goes on at the broker, a token is cancelled.  Nothing is assumed about which comes next, so that
what is proved of every run holds under every scheduler.

Tasks are switched at any turn here, which is finer than what a cooperative scheduler does: there a
task goes on until it *rests*, that is, until it waits for a dial, a channel, a timer, a close
notice, a lock or another task.  `Task.rests` names these points.  A run in which nothing else
happens while a task is between two of them is `Cooperative`, and the states that an observer sees
between two activations are those that are `AtRest`.
-/

namespace BrokerClient

/-! ## What happens at the broker -/

namespace Broker

/-- What goes on at a broker without its client having asked for it. -/
inductive Incident
  | passTime (millis : Nat)
  | setReachable (endpoint : String) (on : Bool)
  | setPace (phase : Phase) (pace : Pace)
  | refuseChannels (on : Bool)
  | queueFailure (operation : Operation) (error : BrokerError)
  | dropConnection (connection : Nat) (reason : CloseReason)
  | dropChannel (channel : Nat) (reason : CloseReason)
  | send (queue : String) (item : Item)
  | endFeed (queue : String)

/-- The broker after an incident. -/
def after (b : Broker) : Incident → Broker
  | .passTime millis => { b with clock := b.clock + millis }
  | .setReachable endpoint on => (b.setReachable endpoint on).2
  | .setPace .dialing pace => { b with dialing := pace }
  | .setPace .opening pace => { b with opening := pace }
  | .setPace .publishing pace => { b with publishing := pace }
  | .refuseChannels on => { b with refusesChannels := on }
  | .queueFailure operation error => b.queueFailure operation error
  | .dropConnection connection reason => b.dropConnection connection reason
  | .dropChannel channel reason => b.dropChannel channel reason
  | .send queue item => (b.send queue item).2
  | .endFeed queue => (b.endFeed queue).2

end Broker

/-! ## Points of rest -/

/-- A failover rests before its begin, during a dial and after its end. -/
def Failover.rests : Failover → Bool
  | next _ last => last.isNone
  | dialing _ _ _ | finished _ => true
  | _ => false

/-- A start is never suspended once it has begun. -/
def Start.rests : Start → Bool
  | locking | finished => true
  | _ => false

/-- A shutdown is suspended while it waits for the watcher. -/
def Shutdown.rests : Shutdown → Bool
  | signalling | joining _ | finished _ => true
  | _ => false

/-- The watcher is suspended by its timers, by the close notice and by a dial. -/
def Watcher.rests : Watcher → Bool
  | starting | idle _ | watching _ | resting _ _ | stopped => true
  | reconnecting _ (.dialing _ _ _) => true
  | _ => false

/-- A publish is suspended by the lock, by the two operations that take time, and by its rest. -/
def Publishing.rests : Publishing → Bool
  | asking attempt => attempt = .first
  | queued _ | opening _ _ _ _ | sending _ _ _ _ | discardQueued | resting _ | finished _ => true
  | _ => false

/-- A request to close a publisher's channel is suspended by the lock. -/
def ClosePublisher.rests : ClosePublisher → Bool
  | asking | queued | finished _ => true
  | _ => false

/-- A watch over a channel is suspended by the close notice and by the lock. -/
def ChannelWatch.rests : ChannelWatch → Bool
  | waiting | queued _ | finished => true
  | _ => false

/-- A consumption loop is suspended by requests to the broker, by the handler and by its rest. -/
def Consuming.rests : Consuming → Bool
  | starting | opening _ _ _ | limiting _ _ | subscribing _ _ | listening _ _
  | handling _ _ _ _ _ | resting _ _ | finished => true
  | _ => false

namespace Task

/-- Is the task at a point where it may be suspended, not begun or at its end? -/
def rests : Task → Bool
  | connect point => point.rests
  | start point => point.rests
  | shutdown point => point.rests
  | watcher point => point.rests
  | publish _ _ point => point.rests
  | closePublisher _ point => point.rests
  | channelWatch _ _ point => point.rests
  | consume _ _ point => point.rests
  | dropped => true

/-- Is the task a call under way, which its caller can give up? -/
def isPending : Task → Bool
  | connect point => point.result?.isNone
  | shutdown point => point.result?.isNone
  | publish _ _ point => point.result?.isNone
  | closePublisher _ point => point.result?.isNone
  | consume _ _ .finished => false
  | consume _ _ _ => true
  | start _ | watcher _ | channelWatch _ _ _ | dropped => false

end Task

/-! ## Happenings -/

/-- What a client can be asked for. -/
inductive Call
  | connect
  | start
  | shutdown
  | publish (publisher : Nat) (event : Event)
  | closePublisher (publisher : Nat)
  | consume (consumer : Nat)

/-- What can happen to a system. -/
inductive Happening
  | turn (task : Nat)
  | call (call : Call)
  /-- The caller gives up a call that is suspended. -/
  | abort (task : Nat)
  | incident (incident : Broker.Incident)
  | cancel (consumer : Nat)
  | renewToken (consumer : Nat)

/-- Does it make an operation of a kind fail? -/
def Happening.fails (operation : Broker.Operation) : Happening → Bool
  | incident (.queueFailure kind _) => kind = operation
  | _ => false

/-- Does it make the close of a connection fail? -/
def Happening.failsClose : Happening → Bool
  | incident (.queueFailure .closeConnection _) => true
  | _ => false

theorem Happening.fails_closeConnection (what : Happening) :
    what.fails .closeConnection = what.failsClose := by
  cases what with
  | incident incident =>
      cases incident with
      | queueFailure operation error => cases operation <;> rfl
      | _ => rfl
  | _ => rfl

namespace System

/-- The task that a call begins. -/
def taskOf (w : System) : Call → Task
  | .connect => .connect .start
  | .start => .start .locking
  | .shutdown => .shutdown .signalling
  | .publish publisher event => .publish publisher event .start
  | .closePublisher publisher => .closePublisher publisher .asking
  | .consume consumer =>
    .consume consumer (((w.consumers[consumer]?).map (·.token)).getD 0) .starting

/-- The system after a call has been begun. -/
def called (w : System) (call : Call) : System :=
  w.spawn (w.taskOf call)

/-- The system after a happening; `none` if it cannot happen now. -/
def after? (w : System) : Happening → Option System
  | .turn t => w.step t
  | .call call => some (w.called call)
  | .abort t =>
    if (w.tasks[t]?).any fun task => task.rests && task.isPending then some (w.drop t) else none
  | .incident incident => some (w.atBroker (·.after incident))
  | .cancel consumer => some (w.cancel consumer)
  | .renewToken consumer => some (w.renewToken consumer)

/-- Every task rests, but possibly one. -/
def AtRestBut (w : System) (t : Nat) : Prop :=
  ∀ u < w.tasks.length, u ≠ t → (w.tasks[u]?).all Task.rests = true

/-- Every task rests. -/
def AtRest (w : System) : Prop :=
  ∀ u < w.tasks.length, (w.tasks[u]?).all Task.rests = true

instance (w : System) (t : Nat) : Decidable (w.AtRestBut t) :=
  inferInstanceAs (Decidable (∀ u < _, _ → _))

instance (w : System) : Decidable w.AtRest :=
  inferInstanceAs (Decidable (∀ u < _, _))

theorem AtRest.rests {w : System} (hrest : w.AtRest) {u : Nat} {task : Task}
    (htask : w.tasks[u]? = some task) : task.rests = true := by
  have hlt : u < w.tasks.length := (List.getElem?_eq_some_iff.mp htask).1
  simpa [htask] using hrest u hlt

theorem AtRestBut.rests {w : System} {t : Nat} (hrest : w.AtRestBut t) {u : Nat} (hne : u ≠ t)
    {task : Task} (htask : w.tasks[u]? = some task) : task.rests = true := by
  have hlt : u < w.tasks.length := (List.getElem?_eq_some_iff.mp htask).1
  simpa [htask] using hrest u hlt hne

end System

/-! ## Runs -/

/-- A happening with the system that it meets and the one that it leaves. -/
structure Moment where
  before : System
  what : Happening
  after : System

/-- Is it the moment of a turn of the task `t`? -/
def Moment.isTurnOf (t : Nat) (m : Moment) : Bool :=
  match m.what with
  | .turn u => u = t
  | _ => false

theorem Moment.isTurnOf_of_ne {t : Nat} {m : Moment} (hother : m.what ≠ .turn t) :
    m.isTurnOf t = false := by
  unfold isTurnOf
  split
  · rename_i u hwhat
    exact decide_eq_false fun heq => hother (by rw [hwhat, heq])
  · rfl

theorem Moment.what_of_isTurnOf {t : Nat} {m : Moment} (hturn : m.isTurnOf t = true) :
    m.what = .turn t := by
  by_contra hother
  cases (Moment.isTurnOf_of_ne hother).symm.trans hturn

/-- `Run start past last` says that what is listed in `past` leads from `start` to `last`. -/
inductive Run (start : System) : List Moment → System → Prop
  | refl : Run start [] start
  | snoc {past : List Moment} {w w' : System} {what : Happening} : Run start past w →
      w.after? what = some w' → Run start (past ++ [⟨w, what, w'⟩]) w'

/-- What is read off a list grows with its last entry. -/
theorem filterMap_concat {α β : Type} (view : α → Option β) (past : List α) (last : α) :
    (past ++ [last]).filterMap view = past.filterMap view ++ (view last).toList := by
  cases hview : view last <;> simp [hview]

namespace Run

theorem append {w₀ w w' : System} {past more : List Moment} (hpast : Run w₀ past w)
    (hmore : Run w more w') : Run w₀ (past ++ more) w' := by
  induction hmore with
  | refl => simpa using hpast
  | snoc _ hafter ih =>
      rw [← List.append_assoc]
      exact ih.snoc hafter

theorem cons {w w' w'' : System} {what : Happening} {more : List Moment}
    (hafter : w.after? what = some w') (hmore : Run w' more w'') :
    Run w (⟨w, what, w'⟩ :: more) w'' :=
  (refl.snoc hafter).append hmore

/-- A run can be taken apart at any of its moments. -/
theorem split {w w' : System} {past earlier later : List Moment} {m : Moment}
    (hrun : Run w past w') (heq : past = earlier ++ m :: later) :
    Run w earlier m.before ∧ m.before.after? m.what = some m.after ∧ Run m.after later w' := by
  induction hrun generalizing later with
  | refl => simp at heq
  | @snoc past w₁ w₂ what hpast hafter ih =>
      -- the moment is the last one, or the last one comes later
      rcases List.eq_nil_or_concat later with rfl | ⟨later, last, rfl⟩
      · obtain ⟨rfl, hlast⟩ := List.append_inj' heq rfl
        obtain rfl := (List.cons.inj hlast).1
        exact ⟨hpast, hafter, .refl⟩
      · rw [List.concat_eq_append, ← List.cons_append, ← List.append_assoc] at heq
        obtain ⟨hold, hlast⟩ := List.append_inj' heq rfl
        obtain rfl := (List.cons.inj hlast).1
        obtain ⟨hearlier, hwhat, hlater⟩ := ih hold
        exact ⟨hearlier, hwhat, by simpa using hlater.snoc hafter⟩

/-- What is listed in a run has happened on its way. -/
theorem exists_of_mem {w w' : System} {past : List Moment} (hrun : Run w past w') {m : Moment}
    (hmem : m ∈ past) : ∃ earlier later, past = earlier ++ m :: later ∧ Run w earlier m.before ∧
      m.before.after? m.what = some m.after ∧ Run m.after later w' := by
  obtain ⟨earlier, later, heq⟩ := List.append_of_mem hmem
  exact ⟨earlier, later, heq, hrun.split heq⟩

end Run

/-- What happens while a task takes its turns is that task's alone, and everything else happens
while all tasks rest. -/
def Moment.isOrderly (m : Moment) : Prop :=
  match m.what with
  | .turn t => m.before.AtRestBut t
  | _ => m.before.AtRest

instance (m : Moment) : Decidable m.isOrderly := by
  unfold Moment.isOrderly
  split <;> infer_instance

/-- Whoever does not take the turn of an orderly moment rests. -/
theorem Moment.isOrderly.rests {m : Moment} (horderly : m.isOrderly) {u : Nat} {task : Task}
    (hother : m.what ≠ .turn u) (htask : m.before.tasks[u]? = some task) : task.rests = true := by
  unfold Moment.isOrderly at horderly
  split at horderly
  · rename_i t hwhat
    exact System.AtRestBut.rests horderly (fun heq => hother (by rw [hwhat, heq])) htask
  · exact System.AtRest.rests horderly htask

/-- A run in which tasks are switched only where they rest. -/
def Cooperative (past : List Moment) : Prop :=
  ∀ m ∈ past, m.isOrderly

instance (past : List Moment) : Decidable (Cooperative past) :=
  inferInstanceAs (Decidable (∀ m ∈ past, m.isOrderly))

theorem cooperative_concat {past : List Moment} {m : Moment} :
    Cooperative (past ++ [m]) ↔ Cooperative past ∧ m.isOrderly := by
  simp [Cooperative, or_imp, forall_and]

/-! ## Letting one task run -/

/-- A task that comes nearer to its end with each turn, and waits there, gets there when it is let
run for as many turns as are left. -/
theorem Schedule.runTask_ends {t : Nat} (P : Nat → System → Prop)
    (hended : ∀ w, P 0 w → w.step t = none)
    (hturn : ∀ left w, P (left + 1) w → ∃ w' left', w.step t = some w' ∧ left' ≤ left ∧ P left' w')
    {left turns : Nat} {w : System} (hleft : P left w) (hturns : left ≤ turns) :
    P 0 (runTask turns w t) := by
  induction turns generalizing left w with
  | zero =>
      obtain rfl := Nat.le_zero.mp hturns
      exact hleft
  | succ turns ih =>
      cases left with
      | zero =>
          rw [runTask, hended w hleft]
          exact hleft
      | succ left =>
          obtain ⟨w', left', hstep, hle, hnext⟩ := hturn left w hleft
          rw [runTask, hstep]
          exact ih hnext (by omega)

/-! ## Playing happenings one after the other -/

namespace System

/-- Lets happenings follow each other, without those that cannot happen; the moments and the last
system. -/
def played (w : System) : List Happening → List Moment × System
  | [] => ([], w)
  | what :: rest =>
    match w.after? what with
    | some w' => (⟨w, what, w'⟩ :: (played w' rest).1, (played w' rest).2)
    | none => played w rest

theorem run_played (w : System) (whats : List Happening) :
    Run w (w.played whats).1 (w.played whats).2 := by
  induction whats generalizing w with
  | nil => exact .refl
  | cons what rest ih =>
      rw [played]
      split
      · rename_i w' hafter
        exact .cons hafter (ih w')
      · exact ih w

/-- A system that is about to begin: no connection has been dialed, no call has been made, and
whoever owns a slot or a lock has not used it. -/
structure Fresh (w : System) : Prop where
  tasks : w.tasks = []
  connections : w.broker.connections = []
  channels : w.broker.channels = []
  slot : w.supervisor.slot = none
  terminated : w.supervisor.terminated = false
  watcher : w.supervisor.watcher = none
  lockedBy : w.supervisor.lockedBy = none
  publishers : ∀ p ∈ w.publishers, p.slot = none ∧ p.opened = 0 ∧ p.lock = {}

/-- A system that is about to begin has no tasks. -/
theorem Fresh.not_task {w : System} (hfresh : w.Fresh) {t : Nat} {task : Task} :
    w.tasks[t]? ≠ some task := by
  rw [hfresh.tasks]
  exact nofun

theorem Fresh.publisherAt_slot {w : System} (hfresh : w.Fresh) (i : Nat) :
    (w.publisherAt i).slot = none := by
  unfold publisherAt
  cases hp : w.publishers[i]? with
  | none => rfl
  | some p => exact (hfresh.publishers p (List.mem_of_getElem? hp)).1

theorem Fresh.publisherAt_opened {w : System} (hfresh : w.Fresh) (i : Nat) :
    (w.publisherAt i).opened = 0 := by
  unfold publisherAt
  cases hp : w.publishers[i]? with
  | none => rfl
  | some p => exact (hfresh.publishers p (List.mem_of_getElem? hp)).2.1

/-- A client of one endpoint, which can be reached, with a publisher. -/
def single : System where
  broker := { reachable := ["amqp://a"] }
  supervisor := { endpoints := ["amqp://a"] }
  publishers := [{}]
  consumers := []
  handler := fun _ => .succeed
  tokens := []

theorem single_fresh : single.Fresh where
  tasks := rfl
  connections := rfl
  channels := rfl
  slot := rfl
  terminated := rfl
  watcher := rfl
  lockedBy := rfl
  publishers := by simp [single]

end System

end BrokerClient
