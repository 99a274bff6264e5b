import BrokerClient.Proofs.System.Tokens

/-!
# Runs of one consumption loop

A consumption loop sees the rest of the system only at its own turns: the supervisor, the broker,
its token and the handler.  A `LoopRun` is any sequence of its turns, with anything at all happening
in between, so that what is proved of it holds whatever the broker, the other tasks and the handler
do.
The turns that a loop takes in a run of a system are such a run.
-/

namespace BrokerClient

/-- A turn of a consumption loop: what it finds, the point that it is at, and what comes of it. -/
structure LoopTurn where
  supervisor : Supervisor
  handler : Handler
  state : ConsumeState
  point : Consuming
  turn : Turn ConsumeState Consuming

/-- What the turn writes into the record of the broker. -/
def LoopTurn.written (m : LoopTurn) : List Broker.Entry :=
  m.turn.state.broker.entries.drop m.state.broker.entries.length

/-- The turn does what a turn of a loop with these settings can do. -/
def LoopTurn.Advances (m : LoopTurn) (config : ConsumerConfig) (queue : String) : Prop :=
  Consuming.Advance m.supervisor config queue m.handler m.state m.point m.turn.state m.turn.point

/-- `LoopRun config queue past point` says that a loop with these settings has come to `point` by
the turns that are listed in `past`. -/
inductive LoopRun (config : ConsumerConfig) (queue : String) : List LoopTurn → Consuming → Prop
  | start : LoopRun config queue [] .starting
  | snoc {past : List LoopTurn} {point : Consuming} {s : Supervisor} {handler : Handler}
      {state : ConsumeState} {turn : Turn ConsumeState Consuming} :
      LoopRun config queue past point → point.step s config queue handler state = some turn →
      LoopRun config queue (past ++ [⟨s, handler, state, point, turn⟩]) turn.point

/-- Each turn of a run does what a turn of the loop can do. -/
theorem LoopRun.advances {config : ConsumerConfig} {queue : String} {past : List LoopTurn}
    {point : Consuming} (hrun : LoopRun config queue past point) {m : LoopTurn} (hmem : m ∈ past) :
    m.Advances config queue := by
  induction hrun with
  | start => cases hmem
  | snoc _ hstep ih =>
      rcases List.mem_append.mp hmem with hold | hlast
      · exact ih hold
      · obtain rfl := List.mem_singleton.mp hlast
        exact Consuming.step_advance hstep

/-! ## The turns of a loop in a run of a system -/

/-- The turn that the consumption loop `t` can take now. -/
def System.loopTurn? (w : System) (t : Nat) : Option LoopTurn :=
  match w.tasks[t]? with
  | some (.consume i token point) =>
    (w.consumers[i]?).bind fun setup =>
      (point.step w.supervisor setup.config setup.queue w.handler (w.consumeState token)).map
        fun turn => ⟨w.supervisor, w.handler, w.consumeState token, point, turn⟩
  | _ => none

/-- The turn that the consumption loop `t` takes. -/
def Moment.loopTurn? (t : Nat) (m : Moment) : Option LoopTurn :=
  if m.isTurnOf t then m.before.loopTurn? t else none

@[simp] theorem Moment.loopTurn?_turn (t : Nat) (w w' : System) :
    (⟨w, .turn t, w'⟩ : Moment).loopTurn? t = w.loopTurn? t := by
  simp [loopTurn?, isTurnOf]

/-- The turns that the consumption loop `t` has taken. -/
def loopTurns (t : Nat) (past : List Moment) : List LoopTurn :=
  past.filterMap (Moment.loopTurn? t)

theorem loopTurns_concat (t : Nat) (past : List Moment) (m : Moment) :
    loopTurns t (past ++ [m]) = loopTurns t past ++ (m.loopTurn? t).toList :=
  filterMap_concat _ _ _

theorem loopTurns_concat_of_ne {t : Nat} {past : List Moment} {m : Moment}
    (hother : m.what ≠ .turn t) : loopTurns t (past ++ [m]) = loopTurns t past := by
  simp [loopTurns_concat, Moment.loopTurn?, Moment.isTurnOf_of_ne hother]

namespace System

variable {w w' : System}

/-- Nothing changes a consumer but for its token. -/
theorem after_consumers {what : Happening} (hafter : w.after? what = some w') (i : Nat) :
    (w'.consumers[i]?).map (fun setup => (setup.queue, setup.config)) =
      (w.consumers[i]?).map fun setup => (setup.queue, setup.config) := by
  cases what with
  | turn t =>
      obtain ⟨_, _, _, _, _, hconsumers, _⟩ := step_acts hafter
      rw [hconsumers]
  | call call =>
      cases hafter
      rfl
  | abort t =>
      obtain ⟨_, _, _, _, hgivesUp⟩ := after_abort hafter
      rw [hgivesUp.consumers]
  | incident incident =>
      cases hafter
      rfl
  | cancel consumer =>
      obtain ⟨tokens, htokens⟩ := w.cancel_eq consumer
      cases hafter
      rw [htokens]
  | renewToken consumer =>
      cases hafter
      unfold renewToken
      simp only [List.getElem?_modify]
      cases w.consumers[i]? with
      | none => rfl
      | some setup =>
          simp only [Option.map_some]
          split <;> rfl

/-- A loop that is new has been begun by a call. -/
theorem after_new_consume {what : Happening} (hafter : w.after? what = some w') {u i token : Nat}
    {point : Consuming} (hle : w.tasks.length ≤ u)
    (htask : w'.tasks[u]? = some (.consume i token point)) :
    ∃ call, what = .call call ∧ w.taskOf call = .consume i token point := by
  have hnot {task : Task} (hbefore : w.tasks[u]? = some task) : False := by
    have hlt : u < w.tasks.length := (List.getElem?_eq_some_iff.mp hbefore).1
    omega
  rcases (after_supervisionChange hafter).turn_or_outside with ⟨t, rfl, _⟩ | houtside
  · obtain ⟨_, _, _, hbefore, htasks, _, hacts⟩ := step_acts hafter
    rw [htasks] at htask
    rcases task_set_cases htask with ⟨rfl, _⟩ | ⟨_, hkept⟩ | ⟨_, hnew⟩
    · exact (hnot hbefore).elim
    · exact (hnot hkept).elim
    · -- no turn sets a loop going
      have hmem := List.mem_of_getElem? hnew
      cases hacts with
      | start hadvance hbroker hpublishers =>
          split at hmem
          · cases List.mem_singleton.mp hmem
          · cases hmem
      | publish hadvance hsupervisor hpublishers hspawned =>
          obtain ⟨kept, heq, _⟩ := hspawned _ hmem
          cases heq
      | _ => cases hmem
  · rcases houtside.task_cases u _ htask with hkept | ⟨_, hdropped⟩ | ⟨call, hcall, _, heq⟩
    · exact (hnot hkept).elim
    · cases hdropped
    · exact ⟨call, hcall, heq.symm⟩

/-- A loop meets the supervisor and the broker of the system. -/
theorem loopTurn?_meets {t : Nat} {m : LoopTurn} (hturn : w.loopTurn? t = some m) :
    m.supervisor = w.supervisor ∧ m.state.broker = w.broker := by
  unfold loopTurn? at hturn
  split at hturn
  · obtain ⟨setup, _, hstep⟩ := Option.bind_eq_some_iff.mp hturn
    obtain ⟨turn, _, rfl⟩ := Option.map_eq_some_iff.mp hstep
    exact ⟨rfl, rfl⟩
  · cases hturn

/-- The turn of a loop is one of the loop with the settings of its consumer, and brings it to its next
point. -/
theorem step_loopTurn {t i token : Nat} {point : Consuming} {queue : String}
    {config : ConsumerConfig} (htask : w.tasks[t]? = some (.consume i token point))
    (hsetup : (w.consumers[i]?).map (fun setup => (setup.queue, setup.config)) =
      some (queue, config)) (hstep : w.step t = some w') :
    ∃ turn, point.step w.supervisor config queue w.handler (w.consumeState token) = some turn ∧
      w.loopTurn? t = some ⟨w.supervisor, w.handler, w.consumeState token, point, turn⟩ ∧
      w'.broker = turn.state.broker ∧ w'.ids = turn.state.ids ∧
      w'.tokens = w.tokens.set token turn.state.cancelled ∧
      w'.tasks[t]? = some (.consume i token turn.point) := by
  obtain ⟨setup, turn, hfound, hturn, hbroker, htask'⟩ := step_consume htask hstep
  rw [hfound] at hsetup
  cases hsetup
  obtain ⟨setup', turn', hfound', hturn', htokens, hids⟩ := step_consume_tokens htask hstep
  cases hfound.symm.trans hfound'
  cases hturn.symm.trans hturn'
  exact ⟨turn, hturn, by simp [loopTurn?, htask, hfound, hturn], hbroker, hids, htokens, htask'⟩

end System

namespace Run

variable {w₀ w : System} {past : List Moment}

theorem consumers_eq (hrun : Run w₀ past w) (i : Nat) :
    (w.consumers[i]?).map (fun setup => (setup.queue, setup.config)) =
      (w₀.consumers[i]?).map fun setup => (setup.queue, setup.config) := by
  induction hrun with
  | refl => rfl
  | snoc _ hafter ih => exact (System.after_consumers hafter i).trans ih

theorem setup_eq (hrun : Run w₀ past w) {i : Nat} {setup : ConsumerSetup}
    (hsetup : w₀.consumers[i]? = some setup) :
    (w.consumers[i]?).map (fun setup => (setup.queue, setup.config)) =
      some (setup.queue, setup.config) := by
  rw [hrun.consumers_eq i, hsetup, Option.map_some]

theorem loopTurns_of_length_le (hrun : Run w₀ past w) {t : Nat} (hle : w.tasks.length ≤ t) :
    loopTurns t past = [] := by
  refine List.filterMap_eq_nil_iff.mpr fun m hmem => ?_
  simp [Moment.loopTurn?, hrun.isTurnOf_eq_false hle hmem]

/-- A turn of a loop is one of the system, in the state that the system is in then. -/
theorem of_mem_loopTurns (hrun : Run w₀ past w) {t : Nat} {m : LoopTurn}
    (hmem : m ∈ loopTurns t past) :
    ∃ earlier before after later, past = earlier ++ ⟨before, .turn t, after⟩ :: later ∧
      Run w₀ earlier before ∧ before.after? (.turn t) = some after ∧ Run after later w ∧
      before.loopTurn? t = some m := by
  obtain ⟨⟨before, what, after⟩, hmoment, hturn⟩ := List.mem_filterMap.mp hmem
  obtain ⟨earlier, later, heq, hearlier, hafter, hlater⟩ := hrun.exists_of_mem hmoment
  have hwhat : what = .turn t := by
    by_contra hother
    rw [Moment.loopTurn?, Moment.isTurnOf_of_ne hother] at hturn
    cases hturn
  subst hwhat
  rw [Moment.loopTurn?_turn] at hturn
  exact ⟨earlier, before, after, later, heq, hearlier, hafter, hlater, hturn⟩

/-- What holds when a loop is begun, and is kept by its turns and by whatever else happens, holds of
the loop in every state of a run. -/
theorem loop_induction {P : System → List LoopTurn → Consuming → Prop} (hrun : Run w₀ past w)
    (hfresh : w₀.Fresh) {i t token : Nat} {setup : ConsumerSetup} {point : Consuming}
    (hsetup : w₀.consumers[i]? = some setup)
    (htask : w.tasks[t]? = some (.consume i token point))
    (hbegin : ∀ {past : List Moment} {w w' : System} {call : Call}, Run w₀ past w →
      w.after? (.call call) = some w' → w.taskOf call = .consume i token .starting →
      P w' [] .starting)
    (hother : ∀ {w w' : System} {what : Happening} {turns : List LoopTurn} {point : Consuming},
      w.after? what = some w' → P w turns point → P w' turns point)
    (hturn : ∀ {w w' : System} {turns : List LoopTurn} {point : Consuming}
      {turn : Turn ConsumeState Consuming}, w.after? (.turn t) = some w' →
      point.step w.supervisor setup.config setup.queue w.handler (w.consumeState token) =
        some turn → w'.broker = turn.state.broker → w'.ids = turn.state.ids → P w turns point →
      P w' (turns ++ [⟨w.supervisor, w.handler, w.consumeState token, point, turn⟩]) turn.point) :
    P w (loopTurns t past) point := by
  induction hrun generalizing point with
  | refl => exact absurd htask hfresh.not_task
  | @snoc past w w' what hpast hafter ih =>
      rcases System.after_task_cases hafter htask with ⟨hwhat, hkept⟩ |
        ⟨rfl, before, hbefore, hbegun⟩ | hdropped | ⟨hle, hnew⟩
      · rw [loopTurns_concat_of_ne hwhat]
        exact hother hafter (ih hkept)
      · obtain ⟨point₀, rfl⟩ := Task.begun_eq_consume hbegun.symm
        obtain ⟨turn, hstep, hlast, hbroker, hids, _, htask'⟩ :=
          System.step_loopTurn hbefore (hpast.setup_eq hsetup) hafter
        cases htask.symm.trans htask'
        rw [loopTurns_concat, Moment.loopTurn?_turn, hlast]
        exact hturn hafter hstep hbroker hids (ih hbefore)
      · cases hdropped
      · -- a loop that is new is at its first point and has taken no turn
        cases hnew
        obtain ⟨call, rfl, hcall⟩ := System.after_new_consume hafter hle htask
        have hwhat : (⟨w, .call call, w'⟩ : Moment).what ≠ .turn t := nofun
        rw [loopTurns_concat_of_ne hwhat, hpast.loopTurns_of_length_le hle]
        exact hbegin hpast hafter hcall

/-- A consumption loop of a system takes the turns of a loop. -/
theorem loopRun (hrun : Run w₀ past w) (hfresh : w₀.Fresh) {i t token : Nat} {setup : ConsumerSetup}
    {point : Consuming} (hsetup : w₀.consumers[i]? = some setup)
    (htask : w.tasks[t]? = some (.consume i token point)) :
    LoopRun setup.config setup.queue (loopTurns t past) point :=
  hrun.loop_induction (P := fun _ turns point => LoopRun setup.config setup.queue turns point)
    hfresh hsetup htask (fun _ _ _ => .start) (fun _ ih => ih) fun _ hturn _ _ ih => ih.snoc hturn

end Run

end BrokerClient
