import BrokerClient.Proofs.System.Supervision

/-!
# Turns of a system, as a publisher sees them

The counterpart of `SupervisionTurn` for one publisher: its publishes, the requests to close it and
the watches over its channels do what their `Advance` relations say, and all other tasks leave it
alone.
-/

namespace BrokerClient

/-- The publisher that a task works on. -/
def Task.publisher? : Task → Option Nat
  | publish i _ _ | closePublisher i _ | channelWatch i _ _ => some i
  | _ => none

namespace System

/-- What a turn of the task `t` does to the publisher `i` and to its tasks. -/
inductive PublisherTurn (w : System) (i t : Nat) (w' : System) : Prop
  | publish {event : Event} {point point' : Publishing} {p' : Publisher} {b' : Broker}
      {spawned : List Task} (htask : w.tasks[t]? = some (.publish i event point))
      (hadvance : Publishing.Advance w.supervisor w.broker (w.publisherAt i) t event point p' b'
        point')
      (hpublisher : w'.publisherAt i = p') (hbroker : w'.broker = b')
      (htasks : w'.tasks = w.tasks.set t (.publish i event point') ++ spawned)
      (hspawned : ∀ x ∈ spawned, ∃ kept, p'.slot = some kept ∧ x = .channelWatch i kept .waiting)
  | closePublisher {point point' : ClosePublisher} {p' : Publisher} {b' : Broker}
      (htask : w.tasks[t]? = some (.closePublisher i point))
      (hadvance : ClosePublisher.Advance w.broker (w.publisherAt i) t point p' b' point')
      (hpublisher : w'.publisherAt i = p') (hbroker : w'.broker = b')
      (htasks : w'.tasks = w.tasks.set t (.closePublisher i point') ++ [])
  | channelWatch {kept : KeptChannel} {point point' : ChannelWatch} {p' : Publisher}
      (htask : w.tasks[t]? = some (.channelWatch i kept point))
      (hadvance : ChannelWatch.Advance w.broker (w.publisherAt i) t kept point p' point')
      (hpublisher : w'.publisherAt i = p') (hbroker : w'.broker = w.broker)
      (htasks : w'.tasks = w.tasks.set t (.channelWatch i kept point') ++ [])
  | other {task task' : Task} {spawned : List Task} (htask : w.tasks[t]? = some task)
      (hother : task.publisher? ≠ some i) (hother' : task'.publisher? ≠ some i)
      (hspawned : ∀ x ∈ spawned, Task.publisher? x ≠ some i)
      (hpublisher : w'.publisherAt i = w.publisherAt i)
      (htasks : w'.tasks = w.tasks.set t task' ++ spawned)

theorem step_publisherTurn {w w' : System} {i t : Nat} (hi : i < w.publishers.length)
    (hstep : w.step t = some w') : w.PublisherTurn i t w' := by
  obtain ⟨task, task', spawned, htask, htasks, _, hacts⟩ := step_acts hstep
  cases hacts with
  | connect hadvance hpublishers =>
      exact .other htask nofun (by simp [Task.publisher?]) (by simp)
        (publisherAt_of_eq hpublishers) htasks
  | start hadvance hbroker hpublishers =>
      refine .other htask nofun (by simp [Task.publisher?]) (fun x hx => ?_)
        (publisherAt_of_eq hpublishers) htasks
      split at hx
      · obtain rfl := List.mem_singleton.mp hx
        nofun
      · cases hx
  | shutdown hadvance hpublishers =>
      exact .other htask nofun (by simp [Task.publisher?]) (by simp)
        (publisherAt_of_eq hpublishers) htasks
  | watcher hadvance hpublishers =>
      exact .other htask nofun (by simp [Task.publisher?]) (by simp)
        (publisherAt_of_eq hpublishers) htasks
  | @publish j event point point' p' spawned hadvance hsupervisor hpublishers hspawned =>
      by_cases hj : j = i
      · subst hj
        refine .publish htask hadvance (publisherAt_of_set hi hpublishers) rfl htasks fun x hx => ?_
        obtain ⟨kept, hwatch, hslot⟩ := hspawned x hx
        exact ⟨kept, hslot hi, hwatch⟩
      · -- it belongs to another publisher
        refine .other htask (by simp [Task.publisher?, hj]) (by simp [Task.publisher?, hj])
          (fun x hx => ?_) (publisherAt_of_set_ne hj hpublishers) htasks
        obtain ⟨kept, rfl, _⟩ := hspawned x hx
        simp [Task.publisher?, hj]
  | @closePublisher j point point' p' hadvance hsupervisor hpublishers =>
      by_cases hj : j = i
      · subst hj
        exact .closePublisher htask hadvance (publisherAt_of_set hi hpublishers) rfl htasks
      · exact .other htask (by simp [Task.publisher?, hj]) (by simp [Task.publisher?, hj])
          (by simp) (publisherAt_of_set_ne hj hpublishers) htasks
  | @channelWatch j kept point point' p' hadvance hsupervisor hbroker hpublishers =>
      by_cases hj : j = i
      · subst hj
        exact .channelWatch htask hadvance (publisherAt_of_set hi hpublishers) hbroker htasks
      · exact .other htask (by simp [Task.publisher?, hj]) (by simp [Task.publisher?, hj])
          (by simp) (publisherAt_of_set_ne hj hpublishers) htasks
  | consume hsetup hturn hsupervisor hbroker hpublishers =>
      exact .other htask nofun (by simp [Task.publisher?]) (by simp)
        (publisherAt_of_eq hpublishers) htasks

/-! ## What happens to a publisher -/

/-- What a happening does to the publisher `i` and to the tasks. -/
inductive PublisherChange (w : System) (i : Nat) : Happening → System → Prop
  | turn {t : Nat} {w' : System} (hturn : w.PublisherTurn i t w') : PublisherChange w i (.turn t) w'
  | call {call : Call} {w' : System} (hpublisher : w'.publisherAt i = w.publisherAt i)
      (htasks : w'.tasks = w.tasks ++ [w.taskOf call]) : PublisherChange w i (.call call) w'
  | abort {t : Nat} {task : Task} {w' : System} (htask : w.tasks[t]? = some task)
      (hrests : task.rests = true)
      (hpublisher : w'.publisherAt i = w.publisherAt i ∨
        w'.publisherAt i = (w.publisherAt i).abandoned t)
      (htasks : w'.tasks = w.tasks.set t .dropped ++ []) : PublisherChange w i (.abort t) w'
  | quiet {what : Happening} {w' : System}
      (hwhat : (∃ incident, what = .incident incident) ∨ (∃ consumer, what = .cancel consumer) ∨
        ∃ consumer, what = .renewToken consumer)
      (hpublisher : w'.publisherAt i = w.publisherAt i) (htasks : w'.tasks = w.tasks) :
      PublisherChange w i what w'

private theorem GivesUp.publisherAt {w w' : System} {i t : Nat} (hi : i < w.publishers.length)
    (hgivesUp : w.GivesUp t w') : w'.publisherAt i = w.publisherAt i ∨
      w'.publisherAt i = (w.publisherAt i).abandoned t := by
  rcases hgivesUp.publishers with hpublishers | ⟨j, hpublishers⟩
  · exact .inl (publisherAt_of_eq hpublishers)
  · rw [System.publisherAt, System.publisherAt, hpublishers, List.getElem?_modify,
      List.getElem?_eq_getElem hi]
    split
    · exact .inr rfl
    · exact .inl rfl

theorem after_publisherChange {w w' : System} {what : Happening} {i : Nat}
    (hi : i < w.publishers.length) (hafter : w.after? what = some w') :
    w.PublisherChange i what w' := by
  cases what with
  | turn t => exact .turn (step_publisherTurn hi hafter)
  | call call =>
      cases hafter
      exact .call rfl rfl
  | abort t =>
      obtain ⟨task, htask, hrests, _, hgivesUp⟩ := after_abort hafter
      exact .abort htask hrests (hgivesUp.publisherAt hi) (by rw [hgivesUp.tasks, List.append_nil])
  | incident incident =>
      cases hafter
      exact .quiet (.inl ⟨_, rfl⟩) rfl rfl
  | cancel consumer =>
      obtain ⟨tokens, htokens⟩ := w.cancel_eq consumer
      cases hafter
      rw [htokens]
      exact .quiet (.inr (.inl ⟨_, rfl⟩)) rfl rfl
  | renewToken consumer =>
      cases hafter
      exact .quiet (.inr (.inr ⟨_, rfl⟩)) rfl rfl

/-- No publisher comes or goes. -/
theorem after_publishers_length {w w' : System} {what : Happening}
    (hafter : w.after? what = some w') : w'.publishers.length = w.publishers.length := by
  cases what with
  | turn t =>
      obtain ⟨_, _, _, _, _, _, hacts⟩ := step_acts hafter
      cases hacts <;> simp [‹w'.publishers = _›]
  | abort t =>
      obtain ⟨_, _, _, _, hgivesUp⟩ := after_abort hafter
      rcases hgivesUp.publishers with hpublishers | ⟨i, hpublishers⟩ <;> simp [hpublishers]
  | cancel consumer =>
      obtain ⟨tokens, htokens⟩ := w.cancel_eq consumer
      cases hafter
      rw [htokens]
  | _ =>
      cases hafter
      rfl

/-- What the task `t` of the publisher `i` has done in its turn, by the points before and after. -/
inductive PublisherTaskTurn (w : System) (i t : Nat) (w' : System) : Task → Task → Prop
  | publish {event : Event} {point point' : Publishing} {p' : Publisher} {b' : Broker}
      (hadvance : Publishing.Advance w.supervisor w.broker (w.publisherAt i) t event point p' b'
        point')
      (hpublisher : w'.publisherAt i = p') (hbroker : w'.broker = b') :
      PublisherTaskTurn w i t w' (.publish i event point) (.publish i event point')
  | closePublisher {point point' : ClosePublisher} {p' : Publisher} {b' : Broker}
      (hadvance : ClosePublisher.Advance w.broker (w.publisherAt i) t point p' b' point')
      (hpublisher : w'.publisherAt i = p') (hbroker : w'.broker = b') :
      PublisherTaskTurn w i t w' (.closePublisher i point) (.closePublisher i point')
  | channelWatch {kept : KeptChannel} {point point' : ChannelWatch} {p' : Publisher}
      (hadvance : ChannelWatch.Advance w.broker (w.publisherAt i) t kept point p' point')
      (hpublisher : w'.publisherAt i = p') (hbroker : w'.broker = w.broker) :
      PublisherTaskTurn w i t w' (.channelWatch i kept point) (.channelWatch i kept point')

/-- A task of the publisher after a turn is another one of before, the one whose turn it was, or a
watch that a publish has set going. -/
theorem PublisherTurn.task_cases {w w' : System} {i t u : Nat} {other : Task}
    (hturn : w.PublisherTurn i t w') (hother : w'.tasks[u]? = some other)
    (hkind : other.publisher? = some i) :
    (u ≠ t ∧ w.tasks[u]? = some other) ∨
      (u = t ∧ ∃ task, w.tasks[t]? = some task ∧ w.PublisherTaskTurn i t w' task other) ∨
      ∃ kept, (w'.publisherAt i).slot = some kept ∧ other = .channelWatch i kept .waiting := by
  cases hturn with
  | publish htask hadvance hpublisher hbroker htasks hspawned =>
      rw [htasks] at hother
      rcases task_set_cases hother with ⟨rfl, rfl⟩ | hkept | ⟨_, hnew⟩
      · exact .inr (.inl ⟨rfl, _, htask, .publish hadvance hpublisher hbroker⟩)
      · exact .inl hkept
      · rw [hpublisher]
        exact .inr (.inr (hspawned _ (List.mem_of_getElem? hnew)))
  | closePublisher htask hadvance hpublisher hbroker htasks =>
      rw [htasks] at hother
      rcases task_set_cases hother with ⟨rfl, rfl⟩ | hkept | ⟨_, hnew⟩
      · exact .inr (.inl ⟨rfl, _, htask, .closePublisher hadvance hpublisher hbroker⟩)
      · exact .inl hkept
      · cases hnew
  | channelWatch htask hadvance hpublisher hbroker htasks =>
      rw [htasks] at hother
      rcases task_set_cases hother with ⟨rfl, rfl⟩ | hkept | ⟨_, hnew⟩
      · exact .inr (.inl ⟨rfl, _, htask, .channelWatch hadvance hpublisher hbroker⟩)
      · exact .inl hkept
      · cases hnew
  | other htask hbefore hafter hspawned hpublisher htasks =>
      rw [htasks] at hother
      rcases task_set_cases hother with ⟨_, rfl⟩ | hkept | ⟨_, hnew⟩
      · exact absurd hkind hafter
      · exact .inl hkept
      · exact absurd hkind (hspawned _ (List.mem_of_getElem? hnew))

/-- A task of the publisher is one of before, one that has taken a turn, one that a call has begun,
or a watch that a publish has set going. -/
theorem PublisherChange.task_cases {w w' : System} {what : Happening} {i u : Nat} {other : Task}
    (hchange : w.PublisherChange i what w') (hother : w'.tasks[u]? = some other)
    (hkind : other.publisher? = some i) :
    (what ≠ .turn u ∧ what ≠ .abort u ∧ w.tasks[u]? = some other) ∨
      (what = .turn u ∧ ∃ task, w.tasks[u]? = some task ∧
        w.PublisherTaskTurn i u w' task other) ∨
      (∃ call, what = .call call ∧ other = w.taskOf call) ∨
      ∃ kept, (w'.publisherAt i).slot = some kept ∧ other = .channelWatch i kept .waiting := by
  cases hchange with
  | turn hturn =>
      rcases hturn.task_cases hother hkind with ⟨hne, hkept⟩ | ⟨rfl, hmoved⟩ | hwatch
      · exact .inl ⟨fun heq => hne (Happening.turn.inj heq).symm, nofun, hkept⟩
      · exact .inr (.inl ⟨rfl, hmoved⟩)
      · exact .inr (.inr (.inr hwatch))
  | @call call _ hpublisher htasks =>
      rw [htasks] at hother
      rcases task_append_cases hother with hkept | ⟨_, hnew⟩
      · exact .inl ⟨nofun, nofun, hkept⟩
      · exact .inr (.inr (.inl ⟨call, rfl, hnew⟩))
  | abort htask hrests hpublisher htasks =>
      rw [htasks] at hother
      rcases task_set_cases hother with ⟨_, rfl⟩ | ⟨hne, hkept⟩ | ⟨_, hnew⟩
      · cases hkind
      · exact .inl ⟨nofun, fun heq => hne (Happening.abort.inj heq).symm, hkept⟩
      · cases hnew
  | quiet hwhat hpublisher htasks =>
      rw [htasks] at hother
      rcases hwhat with ⟨_, rfl⟩ | ⟨_, rfl⟩ | ⟨_, rfl⟩ <;> exact .inl ⟨nofun, nofun, hother⟩

/-- A publish is one of before, one that has taken a turn, or one that has just begun. -/
theorem PublisherChange.publish_cases {w w' : System} {what : Happening} {i u : Nat} {event : Event}
    {point' : Publishing} (hchange : w.PublisherChange i what w')
    (htask' : w'.tasks[u]? = some (.publish i event point')) :
    (what ≠ .turn u ∧ what ≠ .abort u ∧ w.tasks[u]? = some (.publish i event point')) ∨
      (what = .turn u ∧ ∃ (point : Publishing) (p' : Publisher) (b' : Broker),
        w.tasks[u]? = some (.publish i event point) ∧ w'.publisherAt i = p' ∧ w'.broker = b' ∧
        Publishing.Advance w.supervisor w.broker (w.publisherAt i) u event point p' b' point') ∨
      point' = .start := by
  rcases hchange.task_cases htask' rfl with hkept | ⟨rfl, task, htask, hmoved⟩ | ⟨call, _, hcall⟩ |
    ⟨kept, _, hwatch⟩
  · exact .inl hkept
  · cases hmoved with
    | publish hadvance hpublisher hbroker =>
        exact .inr (.inl ⟨rfl, _, _, _, htask, hpublisher, hbroker, hadvance⟩)
  · cases call <;> cases hcall
    exact .inr (.inr rfl)
  · cases hwatch

/-- What a publish does in its turn. -/
theorem PublisherChange.publish_turn {w w' : System} {i t : Nat} {event : Event}
    {point : Publishing} (hchange : w.PublisherChange i (.turn t) w')
    (htask : w.tasks[t]? = some (.publish i event point)) :
    ∃ point', w'.tasks[t]? = some (.publish i event point') ∧
      Publishing.Advance w.supervisor w.broker (w.publisherAt i) t event point (w'.publisherAt i)
        w'.broker point' := by
  cases hchange with
  | turn hturn =>
      cases hturn with
      | publish hpublish hadvance hpublisher hbroker htasks hspawned =>
          cases htask.symm.trans hpublish
          rw [htasks, hpublisher, hbroker]
          exact ⟨_, task_set_self htask, hadvance⟩
      | closePublisher hother => cases htask.symm.trans hother
      | channelWatch hother => cases htask.symm.trans hother
      | other hother hkind =>
          cases htask.symm.trans hother
          exact absurd rfl hkind
  | quiet hwhat => rcases hwhat with ⟨_, hwhat⟩ | ⟨_, hwhat⟩ | ⟨_, hwhat⟩ <;> cases hwhat

/-- What a watch over a channel does in its turn. -/
theorem PublisherChange.watch_turn {w w' : System} {i t : Nat} {kept : KeptChannel}
    {point : ChannelWatch} (hchange : w.PublisherChange i (.turn t) w')
    (htask : w.tasks[t]? = some (.channelWatch i kept point)) :
    ∃ point', ChannelWatch.Advance w.broker (w.publisherAt i) t kept point (w'.publisherAt i)
      point' := by
  cases hchange with
  | turn hturn =>
      cases hturn with
      | publish hother => cases htask.symm.trans hother
      | closePublisher hother => cases htask.symm.trans hother
      | channelWatch hwatch hadvance hpublisher hbroker htasks =>
          cases htask.symm.trans hwatch
          rw [hpublisher]
          exact ⟨_, hadvance⟩
      | other hother hkind =>
          cases htask.symm.trans hother
          exact absurd rfl hkind
  | quiet hwhat => rcases hwhat with ⟨_, hwhat⟩ | ⟨_, hwhat⟩ | ⟨_, hwhat⟩ <;> cases hwhat

/-- A publish that has opened a channel puts it into the slot under the next number; nobody else
fills the slot or gives a number. -/
theorem PublisherChange.fill_cases {w w' : System} {what : Happening} {i : Nat}
    (hchange : w.PublisherChange i what w') :
    ((w'.publisherAt i).opened = (w.publisherAt i).opened ∧
        ((w'.publisherAt i).slot = (w.publisherAt i).slot ∨ (w'.publisherAt i).slot = none) ∧
        ∀ (t : Nat) (event : Event) (attempt : Attempt) (channel : Nat), what = .turn t →
          w.tasks[t]? ≠ some (.publish i event (.opened attempt channel))) ∨
      ∃ (t : Nat) (event : Event) (attempt : Attempt) (channel : Nat), what = .turn t ∧
        w.tasks[t]? = some (.publish i event (.opened attempt channel)) ∧
        (w'.publisherAt i).slot = some ⟨(w.publisherAt i).opened + 1, channel⟩ ∧
        (w'.publisherAt i).opened = (w.publisherAt i).opened + 1 := by
  cases hchange with
  | @turn t _ hturn =>
      -- the task whose turn it is is not about to fill the slot
      have hnobody {task : Task} (htask : w.tasks[t]? = some task)
          (hother : ∀ event attempt channel,
            task ≠ .publish i event (.opened attempt channel)) :
          ∀ (u : Nat) (event : Event) (attempt : Attempt) (channel : Nat),
            Happening.turn t = .turn u →
            w.tasks[u]? ≠ some (.publish i event (.opened attempt channel)) := by
        rintro u event attempt channel ⟨⟩ hopened
        exact hother event attempt channel (Option.some.inj (htask.symm.trans hopened))
      cases hturn with
      | publish htask hadvance hpublisher hbroker htasks hspawned =>
          rw [hpublisher]
          cases hadvance with
          | install => exact .inr ⟨t, _, _, _, rfl, htask, rfl, rfl⟩
          | notReady | refuseOpen | beginOpen | discard | discardNothing =>
              exact .inl ⟨rfl, .inr rfl, hnobody htask nofun⟩
          | _ => exact .inl ⟨rfl, .inl rfl, hnobody htask nofun⟩
      | closePublisher htask hadvance hpublisher hbroker htasks =>
          rw [hpublisher]
          cases hadvance with
          | take | takeNothing => exact .inl ⟨rfl, .inr rfl, hnobody htask nofun⟩
          | _ => exact .inl ⟨rfl, .inl rfl, hnobody htask nofun⟩
      | channelWatch htask hadvance hpublisher hbroker htasks =>
          rw [hpublisher]
          cases hadvance with
          | clear => exact .inl ⟨rfl, .inr rfl, hnobody htask nofun⟩
          | _ => exact .inl ⟨rfl, .inl rfl, hnobody htask nofun⟩
      | other htask hother hother' hspawned hpublisher htasks =>
          rw [hpublisher]
          refine .inl ⟨rfl, .inl rfl, hnobody htask ?_⟩
          rintro event attempt channel rfl
          exact hother rfl
  | call hpublisher htasks => exact .inl ⟨by rw [hpublisher], .inl (by rw [hpublisher]), nofun⟩
  | abort htask hrests hpublisher htasks =>
      rcases hpublisher with hpublisher | hpublisher <;> rw [hpublisher] <;>
        exact .inl ⟨rfl, .inl rfl, nofun⟩
  | quiet hwhat hpublisher htasks =>
      refine .inl ⟨by rw [hpublisher], .inl (by rw [hpublisher]), ?_⟩
      rintro t event attempt channel rfl
      rcases hwhat with ⟨_, hwhat⟩ | ⟨_, hwhat⟩ | ⟨_, hwhat⟩ <;> cases hwhat

/-- The slot stays as it is, is emptied, or is filled by a publish that has opened a channel. -/
theorem PublisherChange.slot_cases {w w' : System} {what : Happening} {i : Nat}
    (hchange : w.PublisherChange i what w') :
    (w'.publisherAt i).slot = (w.publisherAt i).slot ∨ (w'.publisherAt i).slot = none ∨
      ∃ (t : Nat) (event : Event) (attempt : Attempt) (id channel : Nat), what = .turn t ∧
        w.tasks[t]? = some (.publish i event (.opened attempt channel)) ∧
        (w'.publisherAt i).slot = some ⟨id, channel⟩ := by
  rcases hchange.fill_cases with ⟨_, hsame | hnone, _⟩ |
    ⟨t, event, attempt, channel, hwhat, htask, hslot, _⟩
  · exact .inl hsame
  · exact .inr (.inl hnone)
  · exact .inr (.inr ⟨t, event, attempt, _, channel, hwhat, htask, hslot⟩)

end System

end BrokerClient
