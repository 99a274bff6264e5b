import BrokerClient.Proofs.System.Supervision

/-!
# Who holds the lock and who watches

Each task under way knows something of the supervisor: a start that has passed the lock holds it, a
shutdown that has begun has told the supervisor to end, a watcher is the one whose handle is kept
unless the supervisor has been told to end.  What a task knows survives the turns of all others,
because each of them spares it; so it holds in every state of every run.  From this there is never
more than one watcher.
-/

namespace BrokerClient

/-! ## What the tasks know -/

/-- Does the start hold the lock at this point? -/
def Start.locks : Start → Bool
  | checking | spawning | unlocking => true
  | _ => false

def Task.isWatcher : Task → Bool
  | watcher _ => true
  | _ => false

/-- What the task `t` knows of the supervisor. -/
def Task.Fits (s : Supervisor) (t : Nat) : Task → Prop
  | start point =>
    (point.locks = true → s.lockedBy = some t) ∧ (point = .spawning → s.watcher = none)
  | shutdown point => point ≠ .signalling → s.terminated = true
  | watcher _ => s.watcher = some t ∨ s.terminated = true
  | _ => True

/-- From one supervisor to the other nothing has happened that the task `t` would notice. -/
structure Supervisor.Spares (s s' : Supervisor) (t : Nat) : Prop where
  terminated : s.terminated = true → s'.terminated = true
  locked : s.lockedBy = some t → s'.lockedBy = some t ∧ s'.watcher = s.watcher
  watcher : s.watcher = some t → s'.watcher = some t ∨ s'.terminated = true

/-- From one supervisor to the other at most the slot has changed. -/
structure Supervisor.KeepsControl (s s' : Supervisor) : Prop where
  endpoints : s'.endpoints = s.endpoints
  terminated : s'.terminated = s.terminated
  watcher : s'.watcher = s.watcher
  lockedBy : s'.lockedBy = s.lockedBy

theorem Supervisor.KeepsControl.refl (s : Supervisor) : s.KeepsControl s :=
  ⟨rfl, rfl, rfl, rfl⟩

theorem Supervisor.KeepsControl.spares {s s' : Supervisor} (hkeeps : s.KeepsControl s') (t : Nat) :
    s.Spares s' t where
  terminated hterminated := by rw [hkeeps.terminated, hterminated]
  locked hlocked := ⟨by rw [hkeeps.lockedBy, hlocked], hkeeps.watcher⟩
  watcher hwatcher := .inl (by rw [hkeeps.watcher, hwatcher])

theorem Task.Fits.of_spares {s s' : Supervisor} {t : Nat} {task : Task} (hfits : task.Fits s t)
    (hspares : s.Spares s' t) : task.Fits s' t := by
  cases task with
  | start point =>
      refine ⟨fun hlocks => (hspares.locked (hfits.1 hlocks)).1, ?_⟩
      rintro rfl
      rw [(hspares.locked (hfits.1 rfl)).2, hfits.2 rfl]
  | shutdown point => exact fun hbegun => hspares.terminated (hfits hbegun)
  | watcher point =>
      rcases hfits with hwatcher | hterminated
      · exact hspares.watcher hwatcher
      · exact .inr (hspares.terminated hterminated)
  | _ => trivial

/-! ## Turns -/

theorem Failover.Advance.keepsControl {s s' : Supervisor} {b b' : Broker} {point point' : Failover}
    (hadvance : point.Advance s b s' b' point') : s.KeepsControl s' := by
  cases hadvance <;> exact ⟨rfl, rfl, rfl, rfl⟩

theorem Watcher.Advance.keepsControl {s s' : Supervisor} {b b' : Broker} {point point' : Watcher}
    (hadvance : point.Advance s b s' b' point') : s.KeepsControl s' := by
  cases hadvance with
  | failover hgoesOn hadvance => exact hadvance.keepsControl
  | _ => exact .refl s

theorem Start.Advance.fits {s s' : Supervisor} {me fresh : Nat} {point point' : Start}
    (hadvance : point.Advance s me fresh s' point') (hfits : (Task.start point).Fits s me) :
    (Task.start point').Fits s' me := by
  cases hadvance with
  | lock hlock => exact ⟨fun _ => rfl, nofun⟩
  | refuse hrefused => exact ⟨fun _ => hfits.1 rfl, nofun⟩
  | approve hwatcher hterminated => exact ⟨fun _ => hfits.1 rfl, fun _ => hwatcher⟩
  | spawn => exact ⟨fun _ => hfits.1 rfl, nofun⟩
  | unlock => exact ⟨nofun, nofun⟩

/-- A start spares the others: it changes the handle only where there is none, and gives back a lock
that is its own. -/
theorem Start.Advance.spares {s s' : Supervisor} {me fresh t : Nat} {point point' : Start}
    (hadvance : point.Advance s me fresh s' point') (hfits : (Task.start point).Fits s me)
    (hne : t ≠ me) : s.Spares s' t := by
  have hlocked (hlocks : point.locks = true) : s.lockedBy ≠ some t := by
    rw [hfits.1 hlocks]
    exact fun heq => hne (Option.some.inj heq).symm
  cases hadvance with
  | lock hlock => exact ⟨id, fun hlocked => by simp [hlock] at hlocked, .inl⟩
  | refuse hrefused => exact (Supervisor.KeepsControl.refl s).spares t
  | approve hwatcher hterminated => exact (Supervisor.KeepsControl.refl s).spares t
  | spawn =>
      exact ⟨id, fun h => absurd h (hlocked rfl), fun h => by simp [hfits.2 rfl] at h⟩
  | unlock => exact ⟨id, fun h => absurd h (hlocked rfl), .inl⟩

/-- A start that leaves the lock held holds it itself. -/
theorem Start.Advance.locks_of_lockedBy {s s' : Supervisor} {me fresh t : Nat}
    {point point' : Start} (hadvance : point.Advance s me fresh s' point')
    (hfits : (Task.start point).Fits s me) (hlocked : s'.lockedBy = some t) :
    t = me ∧ point'.locks = true := by
  cases hadvance with
  | lock hlock => exact ⟨(Option.some.inj hlocked).symm, rfl⟩
  | unlock => cases hlocked
  | _ => exact ⟨Option.some.inj (hlocked.symm.trans (hfits.1 rfl)), rfl⟩

theorem Start.Advance.watcher_cases {s s' : Supervisor} {me fresh : Nat} {point point' : Start}
    (hadvance : point.Advance s me fresh s' point') :
    point ≠ .spawning ∧ s'.watcher = s.watcher ∨ point = .spawning ∧ s'.watcher = some fresh := by
  cases hadvance with
  | spawn => exact .inr ⟨rfl, rfl⟩
  | _ => exact .inl ⟨nofun, rfl⟩

theorem Shutdown.Advance.fits {s s' : Supervisor} {b b' : Broker} {hasEnded : Nat → Bool} {t : Nat}
    {point point' : Shutdown} (hadvance : point.Advance s b hasEnded s' b' point')
    (hfits : (Task.shutdown point).Fits s t) : (Task.shutdown point').Fits s' t := by
  cases hadvance with
  | signal => exact fun _ => rfl
  | _ => exact fun _ => hfits nofun

/-- A shutdown that has taken a turn has told the supervisor to end. -/
theorem Shutdown.Advance.terminated {s s' : Supervisor} {b b' : Broker} {hasEnded : Nat → Bool}
    {t : Nat} {point point' : Shutdown} (hadvance : point.Advance s b hasEnded s' b' point')
    (hfits : (Task.shutdown point).Fits s t) : s'.terminated = true :=
  hadvance.fits hfits (by cases hadvance <;> nofun)

/-- A shutdown spares the others: it takes the handle only while nobody holds the lock and after the
supervisor has been told to end. -/
theorem Shutdown.Advance.spares {s s' : Supervisor} {b b' : Broker} {hasEnded : Nat → Bool}
    {me t : Nat} {point point' : Shutdown} (hadvance : point.Advance s b hasEnded s' b' point')
    (hfits : (Task.shutdown point).Fits s me) : s.Spares s' t := by
  cases hadvance with
  | signal => exact ⟨fun _ => rfl, fun hlocked => ⟨hlocked, rfl⟩, .inl⟩
  | takeWatcher hlock hwatcher =>
      exact ⟨id, fun hlocked => by simp [hlock] at hlocked, fun _ => .inr (hfits nofun)⟩
  | takeConnection hslot => exact ⟨id, fun hlocked => ⟨hlocked, rfl⟩, .inl⟩
  | _ => exact (Supervisor.KeepsControl.refl s).spares t

theorem Task.fits_of_not_isSupervision {s : Supervisor} {t : Nat} {task : Task}
    (hother : task.isSupervision = false) : task.Fits s t := by
  cases task <;> simp_all [isSupervision, Fits]

/-! ## Every happening -/

namespace System

/-- Every task knows what it should. -/
def AllFit (w : System) : Prop :=
  ∀ (t : Nat) (task : Task), w.tasks[t]? = some task → task.Fits w.supervisor t

/-- If the task whose turn it is fits and the others are spared, all fit. -/
private theorem allFit_of_spares {w w' : System} {t : Nat} {task' : Task} {spawned : List Task}
    (hall : w.AllFit) (htasks : w'.tasks = w.tasks.set t task' ++ spawned)
    (hfits : task'.Fits w'.supervisor t)
    (hspares : ∀ u ≠ t, w.supervisor.Spares w'.supervisor u)
    (hspawned : ∀ (i : Nat) (other : Task), spawned[i]? = some other →
      other.Fits w'.supervisor (w.tasks.length + i)) : w'.AllFit := by
  intro u other hother
  rw [htasks] at hother
  rcases task_set_cases hother with ⟨rfl, rfl⟩ | ⟨hne, hother⟩ | ⟨hle, hother⟩
  · exact hfits
  · exact (hall u other hother).of_spares (hspares u hne)
  · have hfits := hspawned (u - w.tasks.length) other hother
    rwa [Nat.add_sub_cancel' hle] at hfits

theorem AllFit.turn {w w' : System} {t : Nat} (hall : w.AllFit) (hturn : w.SupervisionTurn t w') :
    w'.AllFit := by
  cases hturn with
  | connect htask hadvance hsupervisor hbroker htasks =>
      refine allFit_of_spares hall htasks trivial (fun u _ => ?_) (by simp)
      rw [hsupervisor]
      exact hadvance.keepsControl.spares u
  | @start point _ _ htask hadvance hsupervisor hbroker htasks =>
      have hfits := hall t _ htask
      refine allFit_of_spares hall htasks ?_ ?_ ?_
      · rw [hsupervisor]
        exact hadvance.fits hfits
      · rw [hsupervisor]
        exact fun u hne => hadvance.spares hfits hne
      · intro i other hother
        split at hother
        · rename_i hspawning
          cases i with
          | zero =>
              cases hother
              subst hspawning
              cases hadvance
              rw [hsupervisor]
              exact .inl rfl
          | succ i => cases hother
        · cases hother
  | shutdown htask hadvance hsupervisor hbroker htasks =>
      have hfits := hall t _ htask
      refine allFit_of_spares hall htasks ?_ ?_ (by simp)
      · rw [hsupervisor]
        exact hadvance.fits hfits
      · rw [hsupervisor]
        exact fun u _ => hadvance.spares hfits
  | watcher htask hadvance hsupervisor hbroker htasks =>
      refine allFit_of_spares hall htasks ?_ (fun u _ => ?_) (by simp)
      · rw [hsupervisor]
        exact (hall t _ htask).of_spares (hadvance.keepsControl.spares t)
      · rw [hsupervisor]
        exact hadvance.keepsControl.spares u
  | other htask hother hother' hspawned hsupervisor hkeeps htasks =>
      refine allFit_of_spares hall htasks (Task.fits_of_not_isSupervision hother') (fun u _ => ?_)
        fun i other hmem => ?_
      · rw [hsupervisor]
        exact (Supervisor.KeepsControl.refl _).spares u
      · exact Task.fits_of_not_isSupervision (hspawned other (List.mem_of_getElem? hmem))

theorem taskOf_fits (w : System) (call : Call) (s : Supervisor) (t : Nat) :
    (w.taskOf call).Fits s t := by
  cases call with
  | start => exact ⟨nofun, nofun⟩
  | shutdown => exact fun hbegun => absurd rfl hbegun
  | _ => trivial

theorem AllFit.change {w w' : System} {what : Happening} (hall : w.AllFit)
    (hchange : w.SupervisionChange what w') : w'.AllFit := by
  rcases hchange.turn_or_outside with ⟨t, rfl, hturn⟩ | houtside
  · exact hall.turn hturn
  · intro u other hother
    rw [houtside.supervisor]
    rcases houtside.task_cases u other hother with hkept | ⟨_, rfl⟩ | ⟨call, _, _, rfl⟩
    · exact hall u other hkept
    · trivial
    · exact w.taskOf_fits call _ u

/-! ## One watcher -/

/-- Is the task `t` a watcher? -/
def WatcherAt (w : System) (t : Nat) : Prop :=
  ∃ task, w.tasks[t]? = some task ∧ task.isWatcher = true

/-- There is at most one watcher, and none while a start is about to set one going.  The handle is
that of a watcher, and the lock is held by a start. -/
structure OneWatcher (w : System) : Prop where
  unique : ∀ t u : Nat, w.WatcherAt t → w.WatcherAt u → t = u
  alone : ∀ t u : Nat, w.tasks[t]? = some (Task.start .spawning) → ¬ w.WatcherAt u
  handle : ∀ t : Nat, w.supervisor.watcher = some t → w.WatcherAt t
  lock : ∀ t : Nat, w.supervisor.lockedBy = some t →
    ∃ point : Start, w.tasks[t]? = some (.start point) ∧ point.locks = true

/-- Where watchers and starts have stayed as they were, nothing has come of a second watcher. -/
private theorem OneWatcher.of_kept {w w' : System} (hone : w.OneWatcher)
    (hwatchers : ∀ t, w'.WatcherAt t ↔ w.WatcherAt t)
    (hstarts : ∀ (t : Nat) (point : Start), point.locks = true →
      (w'.tasks[t]? = some (.start point) ↔ w.tasks[t]? = some (.start point)))
    (hhandle : ∀ t, w'.supervisor.watcher = some t → w.supervisor.watcher = some t)
    (hlock : w'.supervisor.lockedBy = w.supervisor.lockedBy) : w'.OneWatcher where
  unique t u ht hu := hone.unique t u ((hwatchers t).mp ht) ((hwatchers u).mp hu)
  alone t u ht hu := hone.alone t u ((hstarts t _ rfl).mp ht) ((hwatchers u).mp hu)
  handle t ht := (hwatchers t).mpr (hone.handle t (hhandle t ht))
  lock t ht := by
    obtain ⟨point, htask, hlocks⟩ := hone.lock t (hlock ▸ ht)
    exact ⟨point, (hstarts t point hlocks).mpr htask, hlocks⟩

private theorem OneWatcher.of_same {w w' : System} (hone : w.OneWatcher)
    (hsupervisor : w'.supervisor = w.supervisor) (htasks : w'.tasks = w.tasks) :
    w'.OneWatcher := by
  refine hone.of_kept (fun t => ?_) (fun t point _ => ?_) (fun t ht => ?_) ?_
  · rw [WatcherAt, htasks, WatcherAt]
  · rw [htasks]
  · rwa [hsupervisor] at ht
  · rw [hsupervisor]

/-- A turn of a task that is no start leaves watchers and starts as they were. -/
private theorem OneWatcher.of_set {w w' : System} {t : Nat} {task task' : Task}
    {spawned : List Task} (hone : w.OneWatcher) (htask : w.tasks[t]? = some task)
    (htasks : w'.tasks = w.tasks.set t task' ++ spawned)
    (hwatcher : task'.isWatcher = task.isWatcher)
    (hstart : ∀ point, task ≠ .start point ∧ task' ≠ .start point)
    (hspawned : ∀ x ∈ spawned, Task.isSupervision x = false)
    (hhandle : ∀ u, w'.supervisor.watcher = some u → w.supervisor.watcher = some u)
    (hlock : w'.supervisor.lockedBy = w.supervisor.lockedBy) : w'.OneWatcher := by
  refine hone.of_kept (fun u => ?_) (fun u point _ => ?_) hhandle hlock
  · unfold WatcherAt
    rw [htasks]
    refine task_set_iff htask (by rw [hwatcher]) fun x hx hwatches => ?_
    have hother := hspawned x hx
    cases x <;> simp_all [Task.isWatcher, Task.isSupervision]
  · have hnew : ∀ x ∈ spawned, ¬ x = .start point := by
      rintro x hx rfl
      cases hspawned _ hx
    have hiff := task_set_iff (P := (· = .start point)) (u := u) htask
      (iff_of_false (hstart point).2 (hstart point).1) hnew
    simpa [htasks] using hiff

/-- Without a handle there is no watcher, as long as the supervisor has not been told to end. -/
theorem AllFit.not_watcherAt {w : System} {t : Nat} (hall : w.AllFit)
    (hwatcher : w.supervisor.watcher = none) (hterminated : w.supervisor.terminated = false) :
    ¬ w.WatcherAt t := by
  rintro ⟨task, htask, hwatches⟩
  cases task with
  | watcher point =>
      rcases hall t _ htask with hhandle | hended
      · rw [hwatcher] at hhandle
        cases hhandle
      · rw [hterminated] at hended
        cases hended
  | _ => cases hwatches

/-- A turn of a start: a watcher that is there after it has been there before, or is the one that
has just been set going where there was none. -/
private theorem watcherAt_start {w w' : System} {t u : Nat} {point point' : Start}
    (hone : w.OneWatcher) (htask : w.tasks[t]? = some (.start point))
    (htasks : w'.tasks = w.tasks.set t (.start point') ++
      if point = .spawning then [.watcher .starting] else []) :
    w'.WatcherAt u ↔ if point = .spawning then u = w.tasks.length else w.WatcherAt u := by
  unfold WatcherAt
  rw [htasks]
  split
  · rename_i hspawning
    subst hspawning
    constructor
    · rintro ⟨task, hu, hwatches⟩
      rcases task_set_cases hu with ⟨_, rfl⟩ | ⟨_, hkept⟩ | ⟨hle, hnew⟩
      · cases hwatches
      · exact absurd ⟨task, hkept, hwatches⟩ (hone.alone t u htask)
      · have hlt : u - w.tasks.length < 1 := (List.getElem?_eq_some_iff.mp hnew).1
        omega
    · rintro rfl
      exact ⟨.watcher .starting, by rw [List.getElem?_append_right (by simp)]; simp, rfl⟩
  · exact task_set_iff htask (by simp [Task.isWatcher]) (by simp)

/-- A start that goes through the lock leaves one watcher at most: it sets one going only after it
has found that nobody watches. -/
private theorem OneWatcher.start {w w' : System} {t : Nat} {point point' : Start} {s' : Supervisor}
    (hone : w.OneWatcher) (hall : w.AllFit) (htask : w.tasks[t]? = some (.start point))
    (hadvance : point.Advance w.supervisor t w.tasks.length s' point')
    (hsupervisor : w'.supervisor = s') (htasks : w'.tasks = w.tasks.set t (.start point') ++
      if point = .spawning then [.watcher .starting] else []) : w'.OneWatcher where
  unique u v hu hv := by
    rw [watcherAt_start hone htask htasks] at hu hv
    split at hu
    · rename_i hspawning
      rw [if_pos hspawning] at hv
      rw [hu, hv]
    · rename_i hspawning
      rw [if_neg hspawning] at hv
      exact hone.unique u v hu hv
  alone u v hu hv := by
    rw [watcherAt_start hone htask htasks] at hv
    rw [htasks] at hu
    rcases task_set_cases hu with ⟨_, heq⟩ | ⟨hne, hkept⟩ | ⟨_, hnew⟩
    · -- the start has just found that there is no handle
      cases heq
      cases hadvance with
      | approve hwatcher hterminated => exact hall.not_watcherAt hwatcher hterminated hv
    · split at hv
      · -- two starts cannot both be past the lock
        rename_i hspawning
        have hmine := (hall t _ htask).1 (by rw [hspawning]; rfl)
        rw [(hall u _ hkept).1 rfl] at hmine
        exact hne (Option.some.inj hmine)
      · exact hone.alone u v hkept hv
    · split at hnew
      · obtain heq := List.mem_singleton.mp (List.mem_of_getElem? hnew)
        cases heq
      · cases hnew
  handle u hu := by
    rw [watcherAt_start hone htask htasks]
    rw [hsupervisor] at hu
    rcases hadvance.watcher_cases with ⟨hspawning, hsame⟩ | ⟨hspawning, hfresh⟩
    · rw [if_neg hspawning]
      exact hone.handle u (hsame ▸ hu)
    · rw [if_pos hspawning]
      exact (Option.some.inj (hfresh.symm.trans hu)).symm
  lock u hu := by
    rw [hsupervisor] at hu
    obtain ⟨rfl, hlocks⟩ := hadvance.locks_of_lockedBy (hall t _ htask) hu
    exact ⟨point', by rw [htasks]; exact task_set_self htask, hlocks⟩

theorem OneWatcher.turn {w w' : System} {t : Nat} (hone : w.OneWatcher) (hall : w.AllFit)
    (hturn : w.SupervisionTurn t w') : w'.OneWatcher := by
  cases hturn with
  | connect htask hadvance hsupervisor hbroker htasks =>
      have hkeeps := hadvance.keepsControl
      refine hone.of_set htask htasks rfl (fun _ => ⟨nofun, nofun⟩) (by simp) (fun u hu => ?_) ?_
      · rwa [hsupervisor, hkeeps.watcher] at hu
      · rw [hsupervisor, hkeeps.lockedBy]
  | start htask hadvance hsupervisor hbroker htasks =>
      exact hone.start hall htask hadvance hsupervisor htasks
  | shutdown htask hadvance hsupervisor hbroker htasks =>
      refine hone.of_set htask htasks rfl (fun _ => ⟨nofun, nofun⟩) (by simp) (fun u hu => ?_) ?_
      · rw [hsupervisor] at hu
        cases hadvance with
        | takeWatcher hlock hwatcher => cases hu
        | _ => exact hu
      · rw [hsupervisor]
        cases hadvance <;> rfl
  | watcher htask hadvance hsupervisor hbroker htasks =>
      have hkeeps := hadvance.keepsControl
      refine hone.of_set htask htasks rfl (fun _ => ⟨nofun, nofun⟩) (by simp) (fun u hu => ?_) ?_
      · rwa [hsupervisor, hkeeps.watcher] at hu
      · rw [hsupervisor, hkeeps.lockedBy]
  | @other task task' _ htask hother hother' hspawned hsupervisor hkeeps htasks =>
      refine hone.of_set htask htasks ?_ (fun point => ⟨?_, ?_⟩) hspawned (fun u hu => ?_) ?_
      · cases task <;> cases task' <;> simp_all [Task.isWatcher, Task.isSupervision]
      · rintro rfl
        cases hother
      · rintro rfl
        cases hother'
      · rwa [hsupervisor] at hu
      · rw [hsupervisor]

theorem OneWatcher.change {w w' : System} {what : Happening} (hone : w.OneWatcher)
    (hall : w.AllFit) (hchange : w.SupervisionChange what w') : w'.OneWatcher := by
  cases hchange with
  | turn hturn => exact hone.turn hall hturn
  | @call call _ hsupervisor hbroker htasks =>
      refine hone.of_kept (fun t => ?_) (fun t point hlocks => ?_) (fun t ht => ?_) ?_
      · unfold WatcherAt
        rw [htasks]
        refine ⟨fun ⟨task, htask, hwatches⟩ => ?_, fun ⟨task, htask, hwatches⟩ =>
          ⟨task, task_append_of_some htask, hwatches⟩⟩
        rcases task_append_cases htask with hkept | ⟨_, rfl⟩
        · exact ⟨task, hkept, hwatches⟩
        · cases call <;> cases hwatches
      · rw [htasks]
        refine ⟨fun htask => ?_, task_append_of_some⟩
        rcases task_append_cases htask with hkept | ⟨_, hnew⟩
        · exact hkept
        · cases call <;> cases hnew
          cases hlocks
      · rwa [hsupervisor] at ht
      · rw [hsupervisor]
  | @abort _ task _ htask hrests hpending hsupervisor hkeeps htasks =>
      refine hone.of_set htask htasks ?_ (fun point => ⟨?_, nofun⟩) (by simp) (fun u hu => ?_) ?_
      · cases task <;> simp_all [Task.isWatcher, Task.isPending]
      · rintro rfl
        cases hpending
      · rwa [hsupervisor] at hu
      · rw [hsupervisor]
  | incident hsupervisor hbroker htasks => exact hone.of_same hsupervisor htasks
  | tokens hwhat hsupervisor hbroker htasks => exact hone.of_same hsupervisor htasks

/-! ## What lasts -/

/-- The endpoints stay as they are, and an end that has been signalled stays so. -/
theorem SupervisionTurn.lasts {w w' : System} {t : Nat} (hturn : w.SupervisionTurn t w') :
    w'.supervisor.endpoints = w.supervisor.endpoints ∧
      (w.supervisor.terminated = true → w'.supervisor.terminated = true) := by
  cases hturn with
  | connect htask hadvance hsupervisor hbroker htasks =>
      have hkeeps := hadvance.keepsControl
      rw [hsupervisor, hkeeps.endpoints, hkeeps.terminated]
      exact ⟨rfl, id⟩
  | start htask hadvance hsupervisor hbroker htasks =>
      rw [hsupervisor]
      cases hadvance <;> exact ⟨rfl, id⟩
  | shutdown htask hadvance hsupervisor hbroker htasks =>
      rw [hsupervisor]
      cases hadvance with
      | signal => exact ⟨rfl, fun _ => rfl⟩
      | _ => exact ⟨rfl, id⟩
  | watcher htask hadvance hsupervisor hbroker htasks =>
      have hkeeps := hadvance.keepsControl
      rw [hsupervisor, hkeeps.endpoints, hkeeps.terminated]
      exact ⟨rfl, id⟩
  | other htask hother hother' hspawned hsupervisor hkeeps htasks =>
      rw [hsupervisor]
      exact ⟨rfl, id⟩

@[inherit_doc SupervisionTurn.lasts]
theorem SupervisionChange.lasts {w w' : System} {what : Happening}
    (hchange : w.SupervisionChange what w') :
    w'.supervisor.endpoints = w.supervisor.endpoints ∧
      (w.supervisor.terminated = true → w'.supervisor.terminated = true) := by
  rcases hchange.turn_or_outside with ⟨t, rfl, hturn⟩ | houtside
  · exact hturn.lasts
  · rw [houtside.supervisor]
    exact ⟨rfl, id⟩

end System

/-! ## Every run -/

namespace Run

variable {w₀ w : System} {past : List Moment}

theorem lasts (hrun : Run w₀ past w) :
    w.supervisor.endpoints = w₀.supervisor.endpoints ∧
      (w₀.supervisor.terminated = true → w.supervisor.terminated = true) := by
  induction hrun with
  | refl => exact ⟨rfl, id⟩
  | snoc _ hafter ih =>
      have hlasts := (System.after_supervisionChange hafter).lasts
      exact ⟨hlasts.1.trans ih.1, hlasts.2 ∘ ih.2⟩

theorem allFit (hrun : Run w₀ past w) (hfresh : w₀.Fresh) : w.AllFit := by
  induction hrun with
  | refl => exact fun t task htask => absurd htask hfresh.not_task
  | snoc _ hafter ih => exact ih.change (System.after_supervisionChange hafter)

theorem oneWatcher (hrun : Run w₀ past w) (hfresh : w₀.Fresh) : w.OneWatcher := by
  induction hrun with
  | refl =>
      constructor
      · rintro t u ⟨task, htask, _⟩
        exact absurd htask hfresh.not_task
      · exact fun t u htask => absurd htask hfresh.not_task
      · intro t hwatcher
        cases hfresh.watcher.symm.trans hwatcher
      · intro t hlocked
        cases hfresh.lockedBy.symm.trans hlocked
  | snoc hpast hafter ih =>
      exact ih.change (hpast.allFit hfresh) (System.after_supervisionChange hafter)

end Run

end BrokerClient
