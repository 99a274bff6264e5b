import BrokerClient.System.Basic

/-!
# Running a system

A schedule is a system together with the order in which its tasks have become ready.  A task whose
turn has come goes on until it must wait; the tasks that become ready meanwhile queue up, those that
have waited longest first.  Time stands still while any task is ready.
-/

namespace BrokerClient

/-- A system and the queue of its ready tasks. -/
structure Schedule where
  system : System
  queue : List Nat := []
  /-- For each task when it began to wait, in rounds. -/
  waitingSince : List Nat := []
  round : Nat := 0

namespace Schedule

/-- How many turns a task may take before others come, and how many tasks before time goes on. -/
def turnLimit : Nat := 100000

/-- Lets a task take turns until it must wait. -/
def runTask : Nat → System → Nat → System
  | 0, w, _ => w
  | turns + 1, w, t =>
    match w.step t with
    | some w => runTask turns w t
    | none => w

/-- Puts a task at its place among those that began to wait at certain rounds. -/
private def insertBySince (since : Nat → Nat) (t : Nat) : List Nat → List Nat
  | [] => [t]
  | other :: rest =>
    if since t < since other then t :: other :: rest else other :: insertBySince since t rest

/-- Queues the tasks that have become ready. -/
def wake (r : Schedule) : Schedule :=
  let count := r.system.tasks.length
  let waitingSince :=
    r.waitingSince ++ List.replicate (count - r.waitingSince.length) r.round
  let since (t : Nat) : Nat := waitingSince.getD t 0
  let woken := (List.range count).filter fun t => t ∉ r.queue && r.system.isReady t
  let ordered := woken.foldl (fun sorted t => insertBySince since t sorted) []
  { r with queue := r.queue ++ ordered, waitingSince, round := r.round + 1 }

/-- Runs the tasks in the queue, and those that become ready, until all wait. -/
def settleFrom : Nat → Schedule → Schedule
  | 0, r => r
  | turns + 1, r =>
    match r.queue with
    | [] => r
    | t :: queue =>
      let system := runTask turnLimit r.system t
      let waitingSince := r.waitingSince.set t r.round
      settleFrom turns ({ r with system, queue, waitingSince }).wake

@[inherit_doc settleFrom]
def settle (r : Schedule) : Schedule :=
  settleFrom turnLimit r.wake

/-- Something happens from outside, and the tasks run until all wait. -/
def after (r : Schedule) (change : System → System) : Schedule :=
  ({ r with system := change r.system }).settle

/-- The next time after now, and not after `last`, at which a task is to be looked at. -/
def nextTime? (w : System) (last : Nat) : Option Nat :=
  (w.tasks.filterMap fun task => task.deadline?.filter fun time =>
    w.broker.clock < time && time ≤ last).min?

/-- Sets the clock. -/
def setClock (r : Schedule) (time : Nat) : Schedule :=
  { r with system := r.system.atBroker fun b => { b with clock := time } }

/-- Lets time go on up to `last`, stopping wherever a task is to be looked at; the tasks that are to
be looked at in the end have not run yet. -/
def approachFrom : Nat → Nat → Schedule → Schedule
  | 0, last, r => r.setClock last
  | stops + 1, last, r =>
    match nextTime? r.system (last - 1) with
    | none => r.setClock last
    | some time => approachFrom stops last (r.setClock time).settle

@[inherit_doc approachFrom]
def approach (r : Schedule) (last : Nat) : Schedule :=
  approachFrom turnLimit last r

/-- Lets time go on by a number of milliseconds. -/
def advance (r : Schedule) (millis : Nat) : Schedule :=
  (r.approach (r.system.broker.clock + millis)).settle

/-- How often a condition that is awaited is looked at, in milliseconds. -/
def lookInterval : Nat := 5

/-- Looks at a condition in regular intervals, each time before the tasks of that moment run, until
it holds or the time is over; tells whether it holds. -/
def awaitFrom (holds : System → Bool) (deadline : Nat) : Nat → Schedule → Bool × Schedule
  | 0, r => (holds r.system, r.settle)
  | looks + 1, r =>
    if holds r.system then (true, r.settle)
    else if deadline ≤ r.system.broker.clock then (false, r.settle)
    else awaitFrom holds deadline looks (r.settle.approach (r.system.broker.clock + lookInterval))

/-- Waits for a condition for at most a number of milliseconds. -/
def await (r : Schedule) (millis : Nat) (holds : System → Bool) : Bool × Schedule :=
  awaitFrom holds (r.system.broker.clock + millis) (millis + 1) r

end Schedule

end BrokerClient
