import BrokerClient.Proofs.Supervisor.Termination

/-!
# The watcher's handle goes from hand to hand

A start that sets the watcher going puts its handle down, and a shutdown takes it up and waits for
the watcher.  Both go through the lock, and a start looks at the signal under the lock while a
shutdown gives it before.  So there is one handle at most, no start goes on to put one down after
a shutdown has looked for it, and whoever takes it is alone in doing so.

Tasks are switched at any turn here, also between the check of a start and the spawn, and any call
may be given up where it is suspended.
-/

namespace BrokerClient

/-! ## What happens to the handle -/

namespace Moment

/-- The watcher that a start sets going at a moment. -/
def watcherSpawned? (m : Moment) : Option Nat :=
  match m.what with
  | .turn t =>
    match m.before.tasks[t]? with
    | some (.start .spawning) => some m.before.tasks.length
    | _ => none
  | _ => none

/-- The shutdown that takes the handle at a moment, and the watcher whose handle that is. -/
def handleTaken? (m : Moment) : Option (Nat × Nat) :=
  match m.what with
  | .turn t =>
    match m.before.tasks[t]? with
    | some (.shutdown .takingWatcher) => m.before.supervisor.watcher.map fun v => (t, v)
    | _ => none
  | _ => none

/-- The shutdown that is called at a moment. -/
def shutdownCalled? (m : Moment) : Option Nat :=
  match m.what with
  | .call .shutdown => some m.before.tasks.length
  | _ => none

end Moment

/-- The watchers that have been set going, in order. -/
def watchersSpawned (past : List Moment) : List Nat :=
  past.filterMap Moment.watcherSpawned?

/-- The shutdowns that have taken a handle, each with the watcher whose handle it has taken. -/
def handlesTaken (past : List Moment) : List (Nat × Nat) :=
  past.filterMap Moment.handleTaken?

/-- The shutdowns that have been called, whatever has become of them. -/
def shutdownsCalled (past : List Moment) : List Nat :=
  past.filterMap Moment.shutdownCalled?

theorem watchersSpawned_concat (past : List Moment) (m : Moment) :
    watchersSpawned (past ++ [m]) = watchersSpawned past ++ m.watcherSpawned?.toList :=
  filterMap_concat _ past m

theorem handlesTaken_concat (past : List Moment) (m : Moment) :
    handlesTaken (past ++ [m]) = handlesTaken past ++ m.handleTaken?.toList :=
  filterMap_concat _ past m

theorem shutdownsCalled_concat (past : List Moment) (m : Moment) :
    shutdownsCalled (past ++ [m]) = shutdownsCalled past ++ m.shutdownCalled?.toList :=
  filterMap_concat _ past m

/-! ## One happening -/

namespace System

variable {w w' : System} {what : Happening}

theorem hasEnded_iff {v : Nat} :
    w.hasEnded v = true ↔ w.tasks[v]? = some (.watcher .stopped) := by
  unfold hasEnded
  constructor
  · intro hended
    obtain ⟨task, htask, hstopped⟩ := (Option.any_eq_true _ _).mp hended
    unfold Task.isStoppedWatcher at hstopped
    split at hstopped
    · exact htask
    · cases hstopped
  · intro htask
    simp [htask, Task.isStoppedWatcher]

/-- Either a start puts the handle of a new watcher down, or a shutdown takes the handle up, or the
handle stays where it is. -/
theorem SupervisionChange.handle_cases (hchange : w.SupervisionChange what w') :
    (∃ t, what = .turn t ∧ w.tasks[t]? = some (Task.start .spawning) ∧
        w'.supervisor.watcher = some w.tasks.length) ∨
      (∃ u v, what = .turn u ∧ w.tasks[u]? = some (Task.shutdown .takingWatcher) ∧
        w.supervisor.watcher = some v ∧ w'.supervisor.watcher = none ∧
        w'.tasks[u]? = some (Task.shutdown (.joining v))) ∨
      (w'.supervisor.watcher = w.supervisor.watcher ∧
        Moment.watcherSpawned? ⟨w, what, w'⟩ = none ∧
        Moment.handleTaken? ⟨w, what, w'⟩ = none) := by
  rcases hchange.turn_or_outside with ⟨t, rfl, hturn⟩ | houtside
  · cases hturn with
    | connect htask hadvance hsupervisor hbroker htasks =>
        refine .inr (.inr ⟨?_, by simp [Moment.watcherSpawned?, htask],
          by simp [Moment.handleTaken?, htask]⟩)
        rw [hsupervisor, hadvance.keepsControl.watcher]
    | start htask hadvance hsupervisor hbroker htasks =>
        cases hadvance with
        | spawn => exact .inl ⟨t, rfl, htask, by rw [hsupervisor]⟩
        | _ =>
            exact .inr (.inr ⟨by rw [hsupervisor], by simp [Moment.watcherSpawned?, htask],
              by simp [Moment.handleTaken?, htask]⟩)
    | shutdown htask hadvance hsupervisor hbroker htasks =>
        cases hadvance with
        | takeWatcher hlock hwatcher =>
            exact .inr (.inl ⟨t, _, rfl, htask, hwatcher, by rw [hsupervisor],
              by rw [htasks]; exact task_set_self htask⟩)
        | noWatcher hlock hwatcher =>
            exact .inr (.inr ⟨by rw [hsupervisor], by simp [Moment.watcherSpawned?, htask],
              by simp [Moment.handleTaken?, htask, hwatcher]⟩)
        | _ =>
            exact .inr (.inr ⟨by rw [hsupervisor], by simp [Moment.watcherSpawned?, htask],
              by simp [Moment.handleTaken?, htask]⟩)
    | watcher htask hadvance hsupervisor hbroker htasks =>
        refine .inr (.inr ⟨?_, by simp [Moment.watcherSpawned?, htask],
          by simp [Moment.handleTaken?, htask]⟩)
        rw [hsupervisor, hadvance.keepsControl.watcher]
    | @other task _ _ htask hother hother' hspawned hsupervisor hkeeps htasks =>
        refine .inr (.inr ⟨by rw [hsupervisor], ?_, ?_⟩)
        · cases task <;> simp_all [Moment.watcherSpawned?, Task.isSupervision]
        · cases task <;> simp_all [Moment.handleTaken?, Task.isSupervision]
  · refine .inr (.inr ⟨by rw [houtside.supervisor], ?_, ?_⟩)
    · cases what with
      | turn t => exact absurd rfl (houtside.notTurn t)
      | _ => rfl
    · cases what with
      | turn t => exact absurd rfl (houtside.notTurn t)
      | _ => rfl

/-- A watcher that is there has been there before or is the one that has just been set going. -/
theorem SupervisionChange.watcherAt_iff (hchange : w.SupervisionChange what w') {v : Nat} :
    w'.WatcherAt v ↔ w.WatcherAt v ∨ Moment.watcherSpawned? ⟨w, what, w'⟩ = some v := by
  constructor
  · rintro ⟨task, htask, hwatches⟩
    rcases hchange.task_cases htask with ⟨_, hkept⟩ | ⟨_, task', hbefore, hmoved⟩ |
      ⟨_, call, _, rfl⟩ | ⟨rfl, _, t, rfl, hspawning⟩ | hother
    · exact .inl ⟨task, hkept, hwatches⟩
    · cases hmoved with
      | watcher => exact .inl ⟨_, hbefore, rfl⟩
      | other hother' => cases task <;> simp_all [Task.isWatcher, Task.isSupervision]
      | _ => cases hwatches
    · cases call <;> cases hwatches
    · exact .inr (by simp [Moment.watcherSpawned?, hspawning])
    · cases task <;> simp_all [Task.isWatcher, Task.isSupervision]
  · rintro (⟨task, htask, hwatches⟩ | hspawned)
    · by_cases hturn : what = .turn v
      · subst hturn
        cases hchange.of_turn with
        | watcher hbefore hadvance hsupervisor hbroker htasks =>
            exact ⟨_, by rw [htasks]; exact task_set_self hbefore, rfl⟩
        | connect hbefore => cases htask.symm.trans hbefore; cases hwatches
        | start hbefore => cases htask.symm.trans hbefore; cases hwatches
        | shutdown hbefore => cases htask.symm.trans hbefore; cases hwatches
        | other hbefore hother =>
            cases htask.symm.trans hbefore
            cases task <;> simp_all [Task.isWatcher, Task.isSupervision]
      · refine ⟨task, hchange.task_kept hturn (.inr ?_) htask, hwatches⟩
        cases task <;> simp_all [Task.isWatcher, Task.isPending]
    · cases what with
      | turn t =>
          cases hchange.of_turn with
          | @start point _ _ htask hadvance hsupervisor hbroker htasks =>
              cases point with
              | spawning =>
                  simp only [Moment.watcherSpawned?, htask, Option.some.injEq] at hspawned
                  refine ⟨.watcher .starting, ?_, rfl⟩
                  rw [htasks, ← hspawned, List.getElem?_append_right (by simp)]
                  simp
              | _ => simp [Moment.watcherSpawned?, htask] at hspawned
          | @other task _ _ htask hother =>
              cases task <;> simp_all [Moment.watcherSpawned?, Task.isSupervision]
          | connect htask => simp [Moment.watcherSpawned?, htask] at hspawned
          | shutdown htask => simp [Moment.watcherSpawned?, htask] at hspawned
          | watcher htask => simp [Moment.watcherSpawned?, htask] at hspawned
      | _ => cases hspawned

/-- A watcher that has come to its end stays there. -/
theorem SupervisionChange.stopped_stays (hchange : w.SupervisionChange what w') {v : Nat}
    (htask : w.tasks[v]? = some (.watcher .stopped)) :
    w'.tasks[v]? = some (.watcher .stopped) := by
  refine hchange.task_kept (fun hturn => ?_) (.inr rfl) htask
  subst hturn
  cases hchange.of_turn with
  | watcher hbefore hadvance =>
      cases htask.symm.trans hbefore
      cases hadvance
  | connect hbefore => cases htask.symm.trans hbefore
  | start hbefore => cases htask.symm.trans hbefore
  | shutdown hbefore => cases htask.symm.trans hbefore
  | other hbefore hother =>
      cases htask.symm.trans hbefore
      cases hother

/-! ## No watcher is to come -/

/-- The end has been signalled, and no start is past its check. -/
structure NoneToCome (w : System) : Prop where
  terminated : w.supervisor.terminated = true
  spawning : ∀ t : Nat, w.tasks[t]? ≠ some (Task.start .spawning)

theorem NoneToCome.change (hnone : w.NoneToCome) (hchange : w.SupervisionChange what w') :
    w'.NoneToCome where
  terminated := hchange.lasts.2 hnone.terminated
  spawning t htask := by
    rcases hchange.task_cases htask with ⟨_, hkept⟩ | ⟨rfl, task, hbefore, hmoved⟩ |
      ⟨_, call, _, hcall⟩ | ⟨_, hwatcher, _⟩ | hother
    · exact hnone.spawning t hkept
    · cases hmoved with
      | start hadvance =>
          -- a start that looks now finds the signal
          cases hadvance with
          | approve _ hopen => cases hopen.symm.trans hnone.terminated
      | other hother' => cases hother'
    · cases call <;> cases hcall
    · cases hwatcher
    · cases hother

theorem NoneToCome.watcherSpawned? (hnone : w.NoneToCome) (hchange : w.SupervisionChange what w') :
    Moment.watcherSpawned? ⟨w, what, w'⟩ = none := by
  rcases hchange.handle_cases with ⟨t, rfl, hspawning, _⟩ | ⟨u, v, rfl, htask, _⟩ | ⟨_, hspawned, _⟩
  · exact absurd hspawning (hnone.spawning t)
  · simp [Moment.watcherSpawned?, htask]
  · exact hspawned

/-- While nobody holds the lock no start is past its check. -/
theorem AllFit.noneToCome (hall : w.AllFit) (hterminated : w.supervisor.terminated = true)
    (hlock : w.supervisor.lockedBy = none) : w.NoneToCome := by
  refine ⟨hterminated, fun t htask => ?_⟩
  have hlocked := (hall t _ htask).1 rfl
  cases hlock.symm.trans hlocked

/-- A shutdown that has looked for the handle leaves none, and none is to come. -/
theorem SupervisionChange.noneToCome {u : Nat} {point : Shutdown}
    (hchange : w.SupervisionChange what w') (hall : w.AllFit)
    (ih : ∀ point : Shutdown, w.tasks[u]? = some (.shutdown point) → point.hasTaken = true →
      w.NoneToCome ∧ w.supervisor.watcher = none) (htask : w'.tasks[u]? = some (.shutdown point))
    (htaken : point.hasTaken = true) : w'.NoneToCome ∧ w'.supervisor.watcher = none := by
  have hstays (hbefore : w.NoneToCome ∧ w.supervisor.watcher = none) :
      w'.NoneToCome ∧ w'.supervisor.watcher = none :=
    ⟨hbefore.1.change hchange, hchange.watcher_none hbefore.1.spawning hbefore.2⟩
  rcases hchange.task_cases htask with ⟨_, hkept⟩ | ⟨rfl, task, hbefore, hmoved⟩ |
    ⟨_, call, _, hcall⟩ | ⟨_, hwatcher, _⟩ | hother
  · exact hstays (ih point hkept htaken)
  · cases hmoved with
    | shutdown hadvance hsupervisor hbroker =>
        have hterminated := hall u _ hbefore
        cases hadvance with
        | signal => cases htaken
        | takeWatcher hlock hwatcher =>
            exact ⟨(hall.noneToCome (hterminated nofun) hlock).change hchange, by rw [hsupervisor]⟩
        | noWatcher hlock hwatcher =>
            exact hstays ⟨hall.noneToCome (hterminated nofun) hlock, hwatcher⟩
        | _ => exact hstays (ih _ hbefore rfl)
    | other hother' => cases hother'
  · cases call <;> cases hcall
    cases htaken
  · cases hwatcher
  · cases hother

/-! ## The life of the handle -/

/-- The shutdown `u` waits for the watcher `v`, or has gone on after the end of that. -/
def Joins (w : System) (u v : Nat) : Prop :=
  ∀ point : Shutdown, w.tasks[u]? = some (.shutdown point) → point = .joining v ∨
    point.hasTaken = true ∧ w.tasks[v]? = some (.watcher .stopped)

theorem Joins.change {u v : Nat} (hjoins : w.Joins u v) (hlt : u < w.tasks.length)
    (hchange : w.SupervisionChange what w') : w'.Joins u v := by
  intro point htask
  have hstays (hbefore : w.tasks[v]? = some (.watcher .stopped)) := hchange.stopped_stays hbefore
  rcases hchange.task_cases htask with ⟨_, hkept⟩ | ⟨rfl, task, hbefore, hmoved⟩ |
    ⟨rfl, _⟩ | ⟨_, hwatcher, _⟩ | hother
  · exact (hjoins point hkept).imp_right fun ⟨htaken, hended⟩ => ⟨htaken, hstays hended⟩
  · cases hmoved with
    | @shutdown before _ _ _ hadvance hsupervisor hbroker =>
        have hknows := hjoins before hbefore
        cases hadvance with
        | join hended =>
            rcases hknows with heq | ⟨_, hstopped⟩
            · cases heq
              exact .inr ⟨rfl, hstays (hasEnded_iff.mp hended)⟩
            · exact .inr ⟨rfl, hstays hstopped⟩
        | signal | takeWatcher | noWatcher => simp [Shutdown.hasTaken] at hknows
        | _ => exact .inr ⟨rfl, hstays (hknows.resolve_left nofun).2⟩
    | other hother' => cases hother'
  · exact absurd hlt (lt_irrefl _)
  · cases hwatcher
  · cases hother

/-- The handle has not been put down yet, or is there to be taken, or has been taken by a shutdown
that waits for the watcher. -/
inductive HandleLife (w : System) (past : List Moment) : Prop
  | before (hspawned : watchersSpawned past = []) (htaken : handlesTaken past = [])
      (hwatcher : w.supervisor.watcher = none)
  | kept {v : Nat} (hspawned : watchersSpawned past = [v]) (htaken : handlesTaken past = [])
      (hwatcher : w.supervisor.watcher = some v)
  | taken {u v : Nat} (hspawned : watchersSpawned past = [v])
      (htaken : handlesTaken past = [(u, v)]) (hwatcher : w.supervisor.watcher = none)
      (hcalled : u ∈ shutdownsCalled past) (hlt : u < w.tasks.length) (hjoins : w.Joins u v)

theorem HandleLife.change {past : List Moment} (hlife : w.HandleLife past)
    (hspawned : ∀ v, w.WatcherAt v ↔ v ∈ watchersSpawned past) (hone : w.OneWatcher)
    (hcalled : ∀ (u : Nat) (point : Shutdown), w.tasks[u]? = some (.shutdown point) →
      u ∈ shutdownsCalled past)
    (hchange : w.SupervisionChange what w') : w'.HandleLife (past ++ [⟨w, what, w'⟩]) := by
  have hcalls {u : Nat} (hmem : u ∈ shutdownsCalled past) :
      u ∈ shutdownsCalled (past ++ [⟨w, what, w'⟩]) := by
    rw [shutdownsCalled_concat]
    exact List.mem_append_left _ hmem
  rcases hchange.handle_cases with ⟨t, rfl, hspawning, hwatcher⟩ |
    ⟨u, v, rfl, htask, hwatcher, hwatcher', htask'⟩ | ⟨hwatcher, hnoSpawn, hnoTake⟩
  · -- where a start puts a handle down there has not been one
    have hnone : watchersSpawned past = [] :=
      List.eq_nil_iff_forall_not_mem.mpr fun v hv => hone.alone t v hspawning ((hspawned v).mpr hv)
    cases hlife with
    | before _ htaken _ =>
        exact .kept (by simp [watchersSpawned_concat, hnone, Moment.watcherSpawned?, hspawning])
          (by simp [handlesTaken_concat, htaken, Moment.handleTaken?, hspawning]) hwatcher
    | kept hold => cases hnone.symm.trans hold
    | taken hold => cases hnone.symm.trans hold
  · cases hlife with
    | before _ _ hnone => cases hnone.symm.trans hwatcher
    | taken _ _ hnone => cases hnone.symm.trans hwatcher
    | kept hold htaken hkept =>
        cases hkept.symm.trans hwatcher
        refine .taken (u := u) (v := v) ?_ ?_ hwatcher' (hcalls (hcalled u _ htask))
          (List.getElem?_eq_some_iff.mp htask').1 fun point hpoint => ?_
        · simp [watchersSpawned_concat, hold, Moment.watcherSpawned?, htask]
        · simp [handlesTaken_concat, htaken, Moment.handleTaken?, htask, hwatcher]
        · cases htask'.symm.trans hpoint
          exact .inl rfl
  · have hsame : watchersSpawned (past ++ [⟨w, what, w'⟩]) = watchersSpawned past := by
      simp [watchersSpawned_concat, hnoSpawn]
    have hsame' : handlesTaken (past ++ [⟨w, what, w'⟩]) = handlesTaken past := by
      simp [handlesTaken_concat, hnoTake]
    cases hlife with
    | before hold htaken hnone =>
        exact .before (hsame.trans hold) (hsame'.trans htaken) (hwatcher.trans hnone)
    | kept hold htaken hkept =>
        exact .kept (hsame.trans hold) (hsame'.trans htaken) (hwatcher.trans hkept)
    | taken hold htaken hnone hmem hlt hjoins =>
        exact .taken (hsame.trans hold) (hsame'.trans htaken) (hwatcher.trans hnone) (hcalls hmem)
          (hlt.trans_le hchange.tasks_length_le) (hjoins.change hlt hchange)

end System

/-! ## Every run -/

namespace Run

variable {w₀ w w' : System} {past more : List Moment}

/-- The watchers that are there are those that have been set going. -/
theorem watcherAt_iff (hmore : Run w more w') {v : Nat} :
    w'.WatcherAt v ↔ w.WatcherAt v ∨ v ∈ watchersSpawned more := by
  induction hmore with
  | refl => simp [watchersSpawned]
  | snoc hmore hafter ih =>
      rw [(System.after_supervisionChange hafter).watcherAt_iff, ih, watchersSpawned_concat,
        List.mem_append, Option.mem_toList, or_assoc]

theorem watcherAt_iff_of_fresh (hrun : Run w₀ past w) (hfresh : w₀.Fresh) {v : Nat} :
    w.WatcherAt v ↔ v ∈ watchersSpawned past := by
  rw [hrun.watcherAt_iff, or_iff_right]
  rintro ⟨task, htask, _⟩
  exact hfresh.not_task htask

/-- A shutdown has been called. -/
theorem mem_shutdownsCalled (hrun : Run w₀ past w) (hfresh : w₀.Fresh) {u : Nat}
    {point : Shutdown} (htask : w.tasks[u]? = some (.shutdown point)) :
    u ∈ shutdownsCalled past := by
  induction hrun generalizing point with
  | refl => exact absurd htask hfresh.not_task
  | @snoc past w₁ w₂ what hpast hafter ih =>
      rw [shutdownsCalled_concat, List.mem_append]
      rcases (System.after_supervisionChange hafter).task_cases htask with ⟨_, hkept⟩ |
        ⟨rfl, task, hbefore, hmoved⟩ | ⟨rfl, call, rfl, hcall⟩ | ⟨_, hwatcher, _⟩ | hother
      · exact .inl (ih hkept)
      · cases hmoved with
        | shutdown => exact .inl (ih hbefore)
        | other hother' => cases hother'
      · cases call <;> cases hcall
        exact .inr (by simp [Moment.shutdownCalled?])
      · cases hwatcher
      · cases hother

theorem handleLife (hrun : Run w₀ past w) (hfresh : w₀.Fresh) : w.HandleLife past := by
  induction hrun with
  | refl => exact .before rfl rfl hfresh.watcher
  | snoc hpast hafter ih =>
      exact ih.change (fun _ => hpast.watcherAt_iff_of_fresh hfresh) (hpast.oneWatcher hfresh)
        (fun _ _ htask => hpast.mem_shutdownsCalled hfresh htask)
        (System.after_supervisionChange hafter)

theorem noneToCome_of_hasTaken (hrun : Run w₀ past w) (hfresh : w₀.Fresh) {u : Nat}
    {point : Shutdown} (htask : w.tasks[u]? = some (.shutdown point))
    (htaken : point.hasTaken = true) : w.NoneToCome ∧ w.supervisor.watcher = none := by
  induction hrun generalizing point with
  | refl => exact absurd htask hfresh.not_task
  | snoc hpast hafter ih =>
      exact (System.after_supervisionChange hafter).noneToCome (hpast.allFit hfresh) (fun _ => ih)
        htask htaken

/-- Where no watcher is to come none comes. -/
theorem watchersSpawned_eq_nil (hmore : Run w more w') (hnone : w.NoneToCome) :
    watchersSpawned more = [] ∧ w'.NoneToCome := by
  induction hmore with
  | refl => exact ⟨rfl, hnone⟩
  | snoc hmore hafter ih =>
      have hchange := System.after_supervisionChange hafter
      refine ⟨?_, ih.2.change hchange⟩
      rw [watchersSpawned_concat, ih.1, ih.2.watcherSpawned? hchange]
      rfl

theorem stopped_stays (hmore : Run w more w') {v : Nat}
    (htask : w.tasks[v]? = some (.watcher .stopped)) :
    w'.tasks[v]? = some (.watcher .stopped) := by
  induction hmore with
  | refl => exact htask
  | snoc _ hafter ih => exact (System.after_supervisionChange hafter).stopped_stays ih

/-- When a shutdown has returned, the handle of the watcher that has been set going has been taken,
once, by a shutdown that returns only after the end of the watcher. -/
theorem handle_joined (hrun : Run w₀ past w) (hfresh : w₀.Fresh) {v : Nat}
    (hspawned : v ∈ watchersSpawned past) {returned : Nat} {result : Except BrokerError Unit}
    (hreturned : w.tasks[returned]? = some (.shutdown (.finished result))) :
    ∃ u, handlesTaken past = [(u, v)] ∧ u ∈ shutdownsCalled past ∧
      ∀ result, w.tasks[u]? = some (.shutdown (.finished result)) →
        w.tasks[v]? = some (.watcher .stopped) := by
  cases hrun.handleLife hfresh with
  | before hnone =>
      rw [hnone] at hspawned
      cases hspawned
  | kept hold htaken hkept =>
      have hnone := (hrun.noneToCome_of_hasTaken hfresh hreturned rfl).2
      cases hnone.symm.trans hkept
  | taken hold htaken hnone hcalled hlt hjoins =>
      rw [hold, List.mem_singleton] at hspawned
      subst hspawned
      exact ⟨_, htaken, hcalled, fun result htask => ((hjoins _ htask).resolve_left nofun).2⟩

/-- Once shutdowns have been called and all have returned, every watcher that there will ever be has
come to its end. -/
theorem watcher_over (hpast : Run w₀ past w) (hfresh : w₀.Fresh)
    (hcalled : shutdownsCalled past ≠ []) (hreturned : ∀ u ∈ shutdownsCalled past, ∃ result,
      w.tasks[u]? = some (.shutdown (.finished result)))
    (hmore : Run w more w') {v : Nat} (hwatcher : w'.WatcherAt v) :
    w'.tasks[v]? = some (.watcher .stopped) := by
  obtain ⟨u, hu⟩ := List.exists_mem_of_ne_nil _ hcalled
  obtain ⟨result, htask⟩ := hreturned u hu
  have hnone := (hpast.noneToCome_of_hasTaken hfresh htask rfl).1
  -- it has been set going before, so that somebody has waited for it
  have hspawned : v ∈ watchersSpawned past := by
    rw [hmore.watcherAt_iff, (hmore.watchersSpawned_eq_nil hnone).1] at hwatcher
    exact (hpast.watcherAt_iff_of_fresh hfresh).mp (hwatcher.resolve_right (by simp))
  obtain ⟨u', _, hcalled', hstopped⟩ := hpast.handle_joined hfresh hspawned htask
  obtain ⟨result', htask'⟩ := hreturned u' hcalled'
  exact hmore.stopped_stays (hstopped result' htask')

end Run

/-- What becomes of the watcher and its handle in `past`, which has led to `w`. -/
structure WatcherHandover (past : List Moment) (w : System) : Prop where
  /-- One watcher at most is ever set going, and it is the one that there is. -/
  once : (watchersSpawned past).length ≤ 1
  watchers : ∀ v, w.WatcherAt v ↔ v ∈ watchersSpawned past
  /-- After a shutdown has looked for the handle none is set going. -/
  closed : ∀ (u : Nat) (point : Shutdown), w.tasks[u]? = some (.shutdown point) →
    point.hasTaken = true → ∀ (more : List Moment) (w' : System), Run w more w' →
    watchersSpawned more = []
  /-- Once a shutdown has returned, one of them has taken the handle, no other has, and that one
  does not return before the end of the watcher. -/
  joined : ∀ v ∈ watchersSpawned past, (∃ (returned : Nat) (result : Except BrokerError Unit),
      w.tasks[returned]? = some (Task.shutdown (.finished result))) →
    ∃ u, handlesTaken past = [(u, v)] ∧ u ∈ shutdownsCalled past ∧
      ∀ result, w.tasks[u]? = some (.shutdown (.finished result)) →
        w.tasks[v]? = some (.watcher .stopped)
  /-- Once all that have been called have returned, no watcher runs or will run. -/
  afterwards : shutdownsCalled past ≠ [] → (∀ u ∈ shutdownsCalled past, ∃ result,
      w.tasks[u]? = some (.shutdown (.finished result))) →
    ∀ (more : List Moment) (w' : System), Run w more w' → ∀ v, w'.WatcherAt v →
      w'.tasks[v]? = some (.watcher .stopped)

/-- However starts and shutdowns are interleaved, turn by turn: the watcher is handed over once, to
a shutdown that waits for it. -/
theorem Run.watcher_handover {w₀ w : System} {past : List Moment} (hrun : Run w₀ past w)
    (hfresh : w₀.Fresh) : WatcherHandover past w where
  once := by
    cases hrun.handleLife hfresh with
    | before hspawned => simp [hspawned]
    | kept hspawned => simp [hspawned]
    | taken hspawned => simp [hspawned]
  watchers v := hrun.watcherAt_iff_of_fresh hfresh
  closed u point htask htaken more w' hmore :=
    (hmore.watchersSpawned_eq_nil (hrun.noneToCome_of_hasTaken hfresh htask htaken).1).1
  joined v hspawned := fun ⟨_, _, hreturned⟩ => hrun.handle_joined hfresh hspawned hreturned
  afterwards hcalled hreturned more w' hmore v := hrun.watcher_over hfresh hcalled hreturned hmore

/-- A shutdown signals while a start is between its check and the spawn, and another shutdown goes
by while the first one waits for the watcher. -/
def shutdownDuringStart : List Happening :=
  [.call .connect] ++ List.replicate 4 (.turn 0) ++
  [.call .start] ++ List.replicate 2 (.turn 1) ++ [.call .shutdown, .turn 2] ++
  List.replicate 2 (.turn 1) ++ [.turn 2, .call .shutdown] ++ List.replicate 4 (.turn 4) ++
  List.replicate 4 (.turn 3) ++ List.replicate 2 (.turn 2)

theorem shutdownDuringStart_joined :
    handlesTaken (System.single.played shutdownDuringStart).1 = [(2, 3)] ∧
      (System.single.played shutdownDuringStart).2.tasks[3]? = some (.watcher .stopped) := by
  have hhandover :=
    (System.single.run_played shutdownDuringStart).watcher_handover System.single_fresh
  have hcalled : shutdownsCalled (System.single.played shutdownDuringStart).1 = [2, 4] := by decide
  refine ⟨by decide, hhandover.afterwards (by simp [hcalled]) (fun u hmem => ?_) [] _ .refl 3
    ((hhandover.watchers 3).mpr (by decide))⟩
  rw [hcalled] at hmem
  rcases List.mem_pair.mp hmem with rfl | rfl
  · exact ⟨_, rfl⟩
  · exact ⟨_, rfl⟩

end BrokerClient
