import BrokerClient.Proofs.System.Supervision

/-!
# At most one connection is open

Between two turns an open connection is either the one in the slot or *in hand*: a failover that has
just been answered, or has just put a connection aside, and a shutdown that has emptied the slot
hold on to one connection each until they have closed it or put it in place.  `Accounted` says that
there are no others.  It is kept by every turn in any order, and a task that rests has nothing in
hand, so that between activations the slot holds every open connection.
-/

namespace BrokerClient

/-! ## Connections in hand -/

/-- The connection that a failover has yet to put in place or to close. -/
def Failover.inHand : Failover → Option Nat
  | answered _ connection | refusing connection | replaced _ connection => some connection
  | _ => none

@[inherit_doc Failover.inHand]
def Watcher.inHand : Watcher → Option Nat
  | reconnecting _ failover => failover.inHand
  | _ => none

/-- The connection that a shutdown has yet to close. -/
def Shutdown.inHand : Shutdown → Option Nat
  | closing connection => some connection
  | _ => none

/-- The connection that a task has yet to put in place or to close. -/
def Task.inHand : Task → Option Nat
  | connect point => point.inHand
  | shutdown point => point.inHand
  | watcher point => point.inHand
  | _ => none

theorem Failover.inHand_of_isSafe {point : Failover} (hsafe : point.isSafe = true) :
    point.inHand = none := by
  cases point <;> simp_all [isSafe, inHand]

theorem Task.inHand_of_rests {task : Task} (hrests : task.rests = true) : task.inHand = none := by
  cases task with
  | connect point => cases point <;> simp_all [rests, Failover.rests, inHand, Failover.inHand]
  | shutdown point => cases point <;> simp_all [rests, Shutdown.rests, inHand, Shutdown.inHand]
  | watcher point =>
      cases point with
      | reconnecting attempt failover =>
          cases failover <;>
            simp_all [rests, Watcher.rests, inHand, Watcher.inHand, Failover.inHand]
      | _ => rfl
  | _ => rfl

theorem Task.inHand_of_not_isSupervision {task : Task} (hother : task.isSupervision = false) :
    task.inHand = none := by
  cases task <;> simp_all [isSupervision, inHand]

/-! ## One turn -/

/-- What holds on to `c` holds on to it after a turn too, or the turn has closed it. -/
private def Handed (s s' : Supervisor) (b b' : Broker) (hand hand' : Option Nat) : Prop :=
  ∀ c, b'.connectionClosed c = false →
    b.connectionClosed c = false ∧ ¬ (s.slot = some c ∨ hand = some c) ∨
      (s'.slot = some c ∨ hand' = some c)

private theorem handed_of_eq {s s' : Supervisor} {b b' : Broker} {hand hand' : Option Nat}
    (hslot : s'.slot = s.slot) (hhand : hand = none)
    (hclosed : ∀ c, b'.connectionClosed c = b.connectionClosed c) :
    Handed s s' b b' hand hand' := by
  intro c hopen
  rw [hclosed] at hopen
  rw [hslot, hhand]
  by_cases hheld : s.slot = some c
  · exact .inr (.inl hheld)
  · exact .inl ⟨hopen, by simpa using hheld⟩

/-- Closing what is in hand accounts for it, as long as closes do not fail. -/
private theorem handed_of_close {s : Supervisor} {b : Broker} {connection : Nat}
    {hand' : Option Nat} (hreliable : b.ClosesReliably) :
    Handed s s b (b.closeConnection connection).1 (some connection) hand' := by
  intro c hopen
  have hne : c ≠ connection := by
    rintro rfl
    have hclosed := Broker.connectionClosed_closeConnection c
      (by rw [Broker.takeFailure_closeConnection hreliable])
    rw [hclosed] at hopen
    cases hopen
  rw [(b.closeConnection_mayClose connection).connectionClosed c hne] at hopen
  by_cases hheld : s.slot = some c
  · exact .inr (.inl hheld)
  · exact .inl ⟨hopen, by simpa [hheld] using Ne.symm hne⟩

/-- What is in hand and has closed need not be accounted for. -/
private theorem handed_of_closed {s : Supervisor} {b : Broker} {connection : Nat}
    {hand' : Option Nat} (hclosed : b.connectionClosed connection = true) :
    Handed s s b b (some connection) hand' := by
  intro c hopen
  have hne : ¬ some connection = some c := by
    rintro ⟨⟩
    rw [hclosed] at hopen
    cases hopen
  by_cases hheld : s.slot = some c
  · exact .inr (.inl hheld)
  · exact .inl ⟨hopen, not_or.mpr ⟨hheld, hne⟩⟩

private theorem Failover.Advance.handed {s s' : Supervisor} {b b' : Broker}
    {point point' : Failover} (hadvance : point.Advance s b s' b' point')
    (hreliable : b.ClosesReliably) : Handed s s' b b' point.inHand point'.inHand := by
  cases hadvance with
  | reach hwait hdial =>
      -- the new connection is in hand; any other is where it was
      have hadds := Broker.endDial_ok hdial
      intro c hopen
      rw [hadds.connectionClosed] at hopen
      split at hopen
      · rename_i heq
        exact .inr (.inr (by rw [heq]; rfl))
      · by_cases hheld : s.slot = some c
        · exact .inr (.inl hheld)
        · exact .inl ⟨hopen, by simpa [inHand] using hheld⟩
  | miss hwait hdial =>
      exact handed_of_eq rfl rfl (Broker.endDial_error hdial).connectionClosed
  | @refuse index connection hterminated =>
      intro c hopen
      simp only [inHand]
      by_cases hheld : s.slot = some c ∨ some connection = some c
      · exact .inr hheld
      · exact .inl ⟨hopen, hheld⟩
  | @fill index connection hterminated hslot =>
      intro c hopen
      simp only [inHand, hslot]
      by_cases hheld : some connection = some c
      · exact .inr (.inl hheld)
      · exact .inl ⟨hopen, by simpa using hheld⟩
  | @replace index connection previous hterminated hslot =>
      -- what was in the slot and what was in hand change places
      intro c hopen
      simp only [inHand, hslot]
      by_cases hheld : some previous = some c ∨ some connection = some c
      · exact .inr hheld.symm
      · exact .inl ⟨hopen, hheld⟩
  | discard => exact handed_of_close hreliable
  | leave hclosed => exact handed_of_closed hclosed
  | close hopen => exact handed_of_close hreliable
  | _ => exact handed_of_eq rfl rfl fun _ => rfl

private theorem Shutdown.Advance.handed {s s' : Supervisor} {b b' : Broker}
    {hasEnded : Nat → Bool} {point point' : Shutdown}
    (hadvance : point.Advance s b hasEnded s' b' point') (hreliable : b.ClosesReliably) :
    Handed s s' b b' point.inHand point'.inHand := by
  cases hadvance with
  | @takeConnection connection hslot =>
      -- what was in the slot is in hand now
      intro c hopen
      simp only [inHand, hslot]
      by_cases hheld : some connection = some c
      · exact .inr (.inr hheld)
      · exact .inl ⟨hopen, by simpa using hheld⟩
  | leave hclosed => exact handed_of_closed hclosed
  | close hopen => exact handed_of_close hreliable
  | _ => exact handed_of_eq rfl rfl fun _ => rfl

private theorem Watcher.Advance.handed {s s' : Supervisor} {b b' : Broker}
    {point point' : Watcher} (hadvance : point.Advance s b s' b' point')
    (hreliable : b.ClosesReliably) : Handed s s' b b' point.inHand point'.inHand := by
  cases hadvance with
  | failover hgoesOn hadvance => exact hadvance.handed hreliable
  | leaveFailover hterminated hsafe =>
      exact handed_of_eq rfl (Failover.inHand_of_isSafe hsafe) fun _ => rfl
  | _ => exact handed_of_eq rfl rfl fun _ => rfl

/-- What is held after a turn has been held before, or has been dialed. -/
private def Dialed (s s' : Supervisor) (b' : Broker) (hand hand' : Option Nat) : Prop :=
  ∀ c, s'.slot = some c ∨ hand' = some c →
    (s.slot = some c ∨ hand = some c) ∨ c < b'.connections.length

private theorem Failover.Advance.dialed {s s' : Supervisor} {b b' : Broker}
    {point point' : Failover} (hadvance : point.Advance s b s' b' point') :
    Dialed s s' b' point.inHand point'.inHand := by
  intro c hheld
  cases hadvance with
  | reach hwait hdial =>
      have hadds := Broker.endDial_ok hdial
      rcases hheld with hslot | hhand
      · exact .inl (.inl hslot)
      · obtain rfl := Option.some.inj hhand
        exact .inr (by rw [hadds.eq_length, hadds.length]; omega)
  | fill hterminated hslot => exact .inl (.inr (hheld.resolve_right nofun))
  | replace hterminated hslot => exact .inl (hheld.symm.imp (hslot.trans ·) id)
  | refuse hterminated => exact .inl hheld
  | _ => exact .inl (.inl (hheld.resolve_right nofun))

private theorem Shutdown.Advance.dialed {s s' : Supervisor} {b b' : Broker}
    {hasEnded : Nat → Bool} {point point' : Shutdown}
    (hadvance : point.Advance s b hasEnded s' b' point') :
    Dialed s s' b' point.inHand point'.inHand := by
  intro c hheld
  cases hadvance with
  | takeConnection hslot =>
      obtain rfl := Option.some.inj (hheld.resolve_left nofun)
      exact .inl (.inl hslot)
  | _ => exact .inl (.inl (hheld.resolve_right nofun))

private theorem Watcher.Advance.dialed {s s' : Supervisor} {b b' : Broker}
    {point point' : Watcher} (hadvance : point.Advance s b s' b' point') :
    Dialed s s' b' point.inHand point'.inHand := by
  cases hadvance with
  | failover hgoesOn hadvance => exact hadvance.dialed
  | _ => exact fun c hheld => .inl (.inl (hheld.resolve_right nofun))

/-! ## Every turn and every happening -/

namespace System

/-- Is the connection in the slot or in the hand of a task? -/
def Holds (w : System) (c : Nat) : Prop :=
  w.supervisor.slot = some c ∨
    ∃ (t : Nat) (task : Task), w.tasks[t]? = some task ∧ task.inHand = some c

/-- Every open connection is in the slot or in the hand of a task. -/
def Accounted (w : System) : Prop :=
  ∀ c, w.broker.connectionClosed c = false → w.Holds c

/-- What is in the slot or in the hand of a task has been dialed. -/
def HoldsDialed (w : System) : Prop :=
  ∀ c, w.Holds c → c < w.broker.connections.length

/-- It is enough to look at the task whose turn it is. -/
private theorem accounted_of_handed {w w' : System} {t : Nat} {task task' : Task}
    {spawned : List Task} (haccounted : w.Accounted) (htask : w.tasks[t]? = some task)
    (htasks : w'.tasks = w.tasks.set t task' ++ spawned)
    (hhanded : Handed w.supervisor w'.supervisor w.broker w'.broker task.inHand task'.inHand) :
    w'.Accounted := by
  intro c hopen
  rcases hhanded c hopen with ⟨hopen, hnot⟩ | hslot | hhand
  · -- it is in the hand of another task, which keeps it
    obtain ⟨hslot, hhand⟩ := not_or.mp hnot
    obtain ⟨u, other, hother, hheld⟩ := (haccounted c hopen).resolve_left hslot
    have hne : u ≠ t := by
      rintro rfl
      rw [htask] at hother
      cases hother
      exact hhand hheld
    exact .inr ⟨u, other, by rw [htasks]; exact task_set_of_ne hne hother, hheld⟩
  · exact .inl hslot
  · exact .inr ⟨t, task', by rw [htasks]; exact task_set_self htask, hhand⟩

private theorem holdsDialed_of_dialed {w w' : System} {t : Nat} {task task' : Task}
    {spawned : List Task} (hdialed : w.HoldsDialed) (htask : w.tasks[t]? = some task)
    (htasks : w'.tasks = w.tasks.set t task' ++ spawned)
    (hspawned : ∀ x ∈ spawned, x.inHand = none)
    (hlength : w.broker.connections.length ≤ w'.broker.connections.length)
    (hturn : Dialed w.supervisor w'.supervisor w'.broker task.inHand task'.inHand) :
    w'.HoldsDialed := by
  have hbefore {c : Nat} (hheld : w.supervisor.slot = some c ∨ task.inHand = some c) :
      c < w'.broker.connections.length :=
    (hdialed c (hheld.imp id fun hhand => ⟨t, task, htask, hhand⟩)).trans_le hlength
  rintro c (hslot | ⟨u, other, hother, hheld⟩)
  · exact (hturn c (.inl hslot)).elim hbefore id
  · rw [htasks] at hother
    rcases task_set_cases hother with ⟨_, rfl⟩ | ⟨_, hkept⟩ | ⟨_, hnew⟩
    · exact (hturn c (.inr hheld)).elim hbefore id
    · exact (hdialed c (.inr ⟨u, other, hkept, hheld⟩)).trans_le hlength
    · rw [hspawned other (List.mem_of_getElem? hnew)] at hheld
      cases hheld

theorem Accounted.turn {w w' : System} {t : Nat} (haccounted : w.Accounted)
    (hreliable : w.broker.ClosesReliably) (hturn : w.SupervisionTurn t w') : w'.Accounted := by
  cases hturn with
  | connect htask hadvance hsupervisor hbroker htasks =>
      refine accounted_of_handed haccounted htask htasks ?_
      rw [hsupervisor, hbroker]
      exact hadvance.handed hreliable
  | start htask hadvance hsupervisor hbroker htasks =>
      refine accounted_of_handed haccounted htask htasks (handed_of_eq ?_ rfl ?_)
      · rw [hsupervisor]
        cases hadvance <;> rfl
      · rw [hbroker]
        exact fun _ => rfl
  | shutdown htask hadvance hsupervisor hbroker htasks =>
      refine accounted_of_handed haccounted htask htasks ?_
      rw [hsupervisor, hbroker]
      exact hadvance.handed hreliable
  | watcher htask hadvance hsupervisor hbroker htasks =>
      refine accounted_of_handed haccounted htask htasks ?_
      rw [hsupervisor, hbroker]
      exact hadvance.handed hreliable
  | other htask hother hother' hspawned hsupervisor hkeeps htasks =>
      exact accounted_of_handed haccounted htask htasks
        (handed_of_eq (by rw [hsupervisor]) (Task.inHand_of_not_isSupervision hother)
          hkeeps.connectionClosed)

theorem Accounted.change {w w' : System} {what : Happening} (haccounted : w.Accounted)
    (hreliable : w.broker.ClosesReliably) (hchange : w.SupervisionChange what w') :
    w'.Accounted := by
  cases hchange with
  | turn hturn => exact haccounted.turn hreliable hturn
  | call hsupervisor hbroker htasks =>
      intro c hopen
      rw [hbroker] at hopen
      rw [Holds, hsupervisor]
      rcases haccounted c hopen with hslot | ⟨t, task, htask, hheld⟩
      · exact .inl hslot
      · exact .inr ⟨t, task, by rw [htasks]; exact task_append_of_some htask, hheld⟩
  | abort htask hrests hpending hsupervisor hkeeps htasks =>
      exact accounted_of_handed haccounted htask htasks
        (handed_of_eq (by rw [hsupervisor]) (Task.inHand_of_rests hrests) hkeeps.connectionClosed)
  | @incident incident _ hsupervisor hbroker htasks =>
      intro c hopen
      rw [Holds, hsupervisor, htasks]
      refine haccounted c ?_
      by_contra hclosed
      rw [hbroker, w.broker.after_closed incident (by simpa using hclosed)] at hopen
      cases hopen
  | tokens hwhat hsupervisor hbroker htasks =>
      intro c hopen
      rw [hbroker] at hopen
      rw [Holds, hsupervisor, htasks]
      exact haccounted c hopen

theorem HoldsDialed.turn {w w' : System} {t : Nat} (hdialed : w.HoldsDialed)
    (hturn : w.SupervisionTurn t w') : w'.HoldsDialed := by
  have hlength := hturn.serves.length_le
  cases hturn with
  | connect htask hadvance hsupervisor hbroker htasks =>
      refine holdsDialed_of_dialed hdialed htask htasks (by simp) hlength ?_
      rw [hsupervisor, hbroker]
      exact hadvance.dialed
  | start htask hadvance hsupervisor hbroker htasks =>
      refine holdsDialed_of_dialed hdialed htask htasks ?_ hlength fun c hheld => .inl (.inl ?_)
      · intro x hx
        split at hx
        · rw [List.mem_singleton.mp hx]
          rfl
        · cases hx
      · have hslot := hheld.resolve_right nofun
        rw [hsupervisor] at hslot
        cases hadvance <;> exact hslot
  | shutdown htask hadvance hsupervisor hbroker htasks =>
      refine holdsDialed_of_dialed hdialed htask htasks (by simp) hlength ?_
      rw [hsupervisor, hbroker]
      exact hadvance.dialed
  | watcher htask hadvance hsupervisor hbroker htasks =>
      refine holdsDialed_of_dialed hdialed htask htasks (by simp) hlength ?_
      rw [hsupervisor, hbroker]
      exact hadvance.dialed
  | other htask hother hother' hspawned hsupervisor hkeeps htasks =>
      refine holdsDialed_of_dialed hdialed htask htasks
        (fun x hx => Task.inHand_of_not_isSupervision (hspawned x hx)) hlength ?_
      intro c hheld
      rw [hsupervisor, Task.inHand_of_not_isSupervision hother'] at hheld
      exact .inl (.inl (hheld.resolve_right nofun))

theorem HoldsDialed.change {w w' : System} {what : Happening} (hdialed : w.HoldsDialed)
    (hchange : w.SupervisionChange what w') : w'.HoldsDialed := by
  have hlength := hchange.keepsClosed.length_le
  rcases hchange.turn_or_outside with ⟨t, rfl, hturn⟩ | houtside
  · exact hdialed.turn hturn
  · rintro c (hslot | ⟨u, other, hother, hheld⟩)
    · exact (hdialed c (.inl (houtside.supervisor ▸ hslot))).trans_le hlength
    · -- whoever is new, or gone, has nothing in hand
      rcases houtside.task_cases u other hother with hkept | ⟨_, rfl⟩ | ⟨call, _, _, rfl⟩
      · exact (hdialed c (.inr ⟨u, other, hkept, hheld⟩)).trans_le hlength
      · cases hheld
      · cases call <;> cases hheld

end System

/-! ## Every run -/

namespace Run

variable {w₀ w : System} {past : List Moment}

theorem closesReliably (hrun : Run w₀ past w) (hreliable : w₀.broker.ClosesReliably)
    (hcloses : ∀ m ∈ past, m.what.failsClose = false) : w.broker.ClosesReliably :=
  hrun.grants hreliable fun m hmem => m.what.fails_closeConnection.trans (hcloses m hmem)

theorem accounted (hrun : Run w₀ past w) (hfresh : w₀.Fresh)
    (hreliable : w₀.broker.ClosesReliably) (hcloses : ∀ m ∈ past, m.what.failsClose = false) :
    w.Accounted := by
  induction hrun with
  | refl =>
      intro c hopen
      have hlt := Broker.lt_length_of_open hopen
      rw [hfresh.connections] at hlt
      cases hlt
  | snoc hpast hafter ih =>
      simp only [List.mem_append, List.mem_singleton, or_imp, forall_and, forall_eq] at hcloses
      exact (ih hcloses.1).change (hpast.closesReliably hreliable hcloses.1)
        (System.after_supervisionChange hafter)

theorem holdsDialed (hrun : Run w₀ past w) (hfresh : w₀.Fresh) : w.HoldsDialed := by
  induction hrun with
  | refl =>
      rintro c (hslot | ⟨t, task, htask, _⟩)
      · cases hfresh.slot.symm.trans hslot
      · exact absurd htask hfresh.not_task
  | snoc _ hafter ih => exact ih.change (System.after_supervisionChange hafter)

/-- Whenever all tasks rest, a connection that is open is the one in the slot. -/
theorem open_connection_in_slot (hrun : Run w₀ past w) (hfresh : w₀.Fresh)
    (hreliable : w₀.broker.ClosesReliably) (hcloses : ∀ m ∈ past, m.what.failsClose = false)
    (hrest : w.AtRest) {c : Nat} (hopen : w.broker.connectionClosed c = false) :
    w.supervisor.slot = some c := by
  rcases hrun.accounted hfresh hreliable hcloses c hopen with hslot | ⟨t, task, htask, hheld⟩
  · exact hslot
  · -- whoever has a connection in hand goes on at once
    rw [Task.inHand_of_rests (hrest.rests htask)] at hheld
    cases hheld

/-- Two connects whose dials overlap: the second to finish closes the connection of the first. -/
def overlappingConnects : List Happening :=
  [.call .connect, .turn 0, .call .connect, .turn 1, .turn 0, .turn 0, .turn 0] ++
    List.replicate 4 (.turn 1)

theorem overlappingConnects_leave_one :
    (System.single.played overlappingConnects).2.supervisor.slot = some 1 :=
  (System.single.run_played overlappingConnects).open_connection_in_slot System.single_fresh
    (by simp [Broker.ClosesReliably, System.single]) (by decide) (by decide) (by decide)

end Run

end BrokerClient
