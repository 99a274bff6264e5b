import BrokerClient.Proofs.Supervisor.Handover
import BrokerClient.Proofs.Supervisor.SearchLog
import BrokerClient.Proofs.Supervisor.Watching

/-!
# Round after round

When its connection is lost, the watcher goes through the endpoints from the first one on, round
after round, with one rest between two rounds, until an endpoint answers; then it watches the new
connection.  The list of what it does consists of the searches that are done and, last, of a stage
of the one under way, which the point of the watcher tells.  So the list goes on as it must after
any loss and any number of rounds, and wherever the end is signalled it breaks off.
-/

namespace BrokerClient

/-! ## A notice fires when its connection is closed -/

theorem Failover.Advance.connectionNoticesHeld {s s' : Supervisor} {b b' : Broker}
    {point point' : Failover} (hadvance : point.Advance s b s' b' point')
    (hheld : b.ConnectionNoticesHeld) : b'.ConnectionNoticesHeld := by
  cases hadvance with
  | dial hendpoint => exact hheld
  | @reach index _ _ _ _ hwait hdial | @miss index _ _ _ _ hwait hdial =>
      have hended := hheld.endDial ((s.endpoints[index]?).getD "")
      rwa [hdial] at hended
  | discard | close hopen => exact hheld.closeConnection _
  | _ => exact hheld

theorem System.SupervisionChange.connectionNoticesHeld {w w' : System} {what : Happening}
    (hchange : w.SupervisionChange what w') (hheld : w.broker.ConnectionNoticesHeld) :
    w'.broker.ConnectionNoticesHeld := by
  cases hchange with
  | turn hturn =>
      cases hturn with
      | connect htask hadvance hsupervisor hbroker htasks =>
          rw [hbroker]
          exact hadvance.connectionNoticesHeld hheld
      | start htask hadvance hsupervisor hbroker htasks => rwa [hbroker]
      | shutdown htask hadvance hsupervisor hbroker htasks =>
          rw [hbroker]
          cases hadvance with
          | close hopen => exact hheld.closeConnection _
          | _ => exact hheld
      | watcher htask hadvance hsupervisor hbroker htasks =>
          rw [hbroker]
          cases hadvance with
          | failover hgoesOn hadvance => exact hadvance.connectionNoticesHeld hheld
          | _ => exact hheld
      | other htask hother hother' hspawned hsupervisor hkeeps htasks =>
          exact hheld.of_eq hkeeps.connections
  | call hsupervisor hbroker htasks => rwa [hbroker]
  | abort htask hrests hpending hsupervisor hkeeps htasks => exact hheld.of_eq hkeeps.connections
  | @incident incident _ hsupervisor hbroker htasks =>
      rw [hbroker]
      rcases w.broker.after_cases incident with hkeeps | ⟨c, reason, rfl⟩ | ⟨operation, error, rfl⟩
      · exact hheld.of_eq hkeeps.connections
      · exact hheld.dropConnection c reason
      · exact hheld
  | tokens hwhat hsupervisor hbroker htasks => rwa [hbroker]

theorem Run.connectionNoticesHeld {w₀ w : System} {past : List Moment} (hrun : Run w₀ past w)
    (hfresh : w₀.Fresh) : w.broker.ConnectionNoticesHeld := by
  induction hrun with
  | refl => simp [Broker.ConnectionNoticesHeld, hfresh.connections]
  | snoc _ hafter ih => exact (System.after_supervisionChange hafter).connectionNoticesHeld ih

/-! ## The stage that a point tells -/

/-- The connection is in the slot, unless a shutdown has taken it. -/
def Supervisor.Holds (s : Supervisor) (c : Nat) : Prop :=
  s.slot = some c ∨ s.slot = none ∧ s.terminated = true

/-- The connection has been dialed and is closed. -/
structure Broker.Lost (b : Broker) (c : Nat) : Prop where
  dialed : c < b.connections.length
  closed : b.connectionClosed c = true

theorem Broker.Lost.keep {b b' : Broker} {c : Nat} (hlost : b.Lost c) (hkeeps : b.KeepsClosed b') :
    b'.Lost c :=
  ⟨hlost.dialed.trans_le hkeeps.length_le, hkeeps.closed c hlost.dialed hlost.closed⟩

/-- A lost connection is in the slot, or none. -/
theorem Supervisor.Holds.isConnected {s : Supervisor} {b : Broker} {c : Nat} (hholds : s.Holds c)
    (hlost : b.Lost c) : s.isConnected b = false := by
  rcases hholds with hslot | ⟨hslot, _⟩
  · simp [Supervisor.isConnected, hslot, hlost.closed]
  · simp [Supervisor.isConnected, hslot]

/-- From one supervisor to the other the slot has kept what it holds or has been emptied by a
shutdown. -/
structure Supervisor.KeepsSlot (s s' : Supervisor) : Prop where
  slot : s'.slot = s.slot ∨ s'.slot = none ∧ s'.terminated = true
  terminated : s.terminated = true → s'.terminated = true

theorem Supervisor.Holds.keep {s s' : Supervisor} {c : Nat} (hholds : s.Holds c)
    (hkeeps : s.KeepsSlot s') : s'.Holds c := by
  rcases hkeeps.slot with hslot | hnone
  · exact hholds.imp hslot.trans (And.imp hslot.trans hkeeps.terminated)
  · exact .inr hnone

section Stands

variable (endpoints : List String) (s : Supervisor) (b : Broker) (held : Nat) (stage : SearchStage)

/-- The stage when a failover is at a point, `failed` being the rounds before it and `held` the
connection that was lost. -/
def Failover.Stands (failed : List (List BrokerError)) : Failover → Prop
  | next index last =>
    ∃ errors, stage = .seeking failed errors ∧ index = errors.length ∧ last = errors.getLast? ∧
      s.Holds held ∧ b.Lost held
  | dialing index last _ =>
    ∃ errors, stage = .dialing failed errors ∧ index = errors.length ∧ last = errors.getLast? ∧
      s.Holds held ∧ b.Lost held
  | answered _ c => ∃ errors, stage = .found failed errors c
  | refusing c => s.terminated = true ∧ ∃ errors, stage = .found failed errors c
  | replaced _ _ | connected _ => ∃ errors c, stage = .found failed errors c ∧ s.Holds c
  | finished (.ok ()) => ∃ errors c, stage = .found failed errors c ∧ s.Holds c
  | finished (.error e) =>
    (∃ errors, stage = .seeking failed errors ∧ errors.length = endpoints.length ∧
        errors.getLast? = some e ∧ s.Holds held ∧ b.Lost held) ∨
      e = .terminated ∧ s.terminated = true

/-- The stage when a watcher is at a point, `held` being the connection that it has watched last. -/
def Watcher.Stands : Watcher → Prop
  | starting => False
  | looking => ∃ failed errors c, stage = .found failed errors c ∧ s.Holds c
  | idle _ => s.terminated = true
  | watching c => stage = .settled ∧ c = held ∧ s.Holds c
  | lost c _ => stage = .settled ∧ c = held ∧ s.Holds c ∧ b.Lost c
  | reconnecting attempt failover =>
    ∃ failed, attempt = failed.length + 1 ∧ failover.Stands endpoints s b held stage failed
  | resting attempt _ =>
    ∃ failed, stage = .seeking failed [] ∧ attempt = failed.length ∧ s.Holds held ∧ b.Lost held
  | stopping | stopped => s.terminated = true ∨
    ∃ failed errors, stage = .seeking failed errors ∧ errors.getLast? = some .terminated

end Stands

section Turns

variable {endpoints : List String} {delay : Nat} {s s' : Supervisor} {b b' : Broker} {held : Nat}
  {stage : SearchStage}

/-- What the other tasks do leaves the watcher on its stage. -/
theorem Failover.Stands.keep {failed : List (List BrokerError)} {point : Failover}
    (hstands : point.Stands endpoints s b held stage failed) (hslot : s.KeepsSlot s')
    (hclosed : b.KeepsClosed b') : point.Stands endpoints s' b' held stage failed := by
  cases point with
  | next | dialing =>
      obtain ⟨errors, hstage, hindex, hlast, hholds, hlost⟩ := hstands
      exact ⟨errors, hstage, hindex, hlast, hholds.keep hslot, hlost.keep hclosed⟩
  | answered => exact hstands
  | refusing => exact hstands.imp_left hslot.terminated
  | replaced | connected =>
      exact hstands.imp fun _ => Exists.imp fun _ => And.imp_right fun h => h.keep hslot
  | finished result =>
      cases result with
      | ok _ => exact hstands.imp fun _ => Exists.imp fun _ => And.imp_right fun h => h.keep hslot
      | error e =>
          refine hstands.imp ?_ (And.imp_right hslot.terminated)
          rintro ⟨errors, hstage, hlength, hlast, hholds, hlost⟩
          exact ⟨errors, hstage, hlength, hlast, hholds.keep hslot, hlost.keep hclosed⟩

@[inherit_doc Failover.Stands.keep]
theorem Watcher.Stands.keep {point : Watcher} (hstands : point.Stands endpoints s b held stage)
    (hslot : s.KeepsSlot s') (hclosed : b.KeepsClosed b') :
    point.Stands endpoints s' b' held stage := by
  cases point with
  | starting => exact hstands
  | looking =>
      obtain ⟨failed, errors, c, hstage, hholds⟩ := hstands
      exact ⟨failed, errors, c, hstage, hholds.keep hslot⟩
  | idle => exact hslot.terminated hstands
  | watching => exact ⟨hstands.1, hstands.2.1, hstands.2.2.keep hslot⟩
  | lost =>
      obtain ⟨hstage, hheld, hholds, hlost⟩ := hstands
      exact ⟨hstage, hheld, hholds.keep hslot, hlost.keep hclosed⟩
  | reconnecting =>
      obtain ⟨failed, hattempt, hfailover⟩ := hstands
      exact ⟨failed, hattempt, hfailover.keep hslot hclosed⟩
  | resting =>
      obtain ⟨failed, hstage, hattempt, hholds, hlost⟩ := hstands
      exact ⟨failed, hstage, hattempt, hholds.keep hslot, hlost.keep hclosed⟩
  | stopping | stopped => exact hstands.imp_left hslot.terminated

/-- Each turn of a failover takes the stage further by what it does. -/
theorem Failover.Advance.stands {failed : List (List BrokerError)} {point point' : Failover}
    (hadvance : point.Advance s b s' b' point') (hnonempty : s.endpoints ≠ [])
    (hfits : stage.Fits s.endpoints) (hstands : point.Stands s.endpoints s b held stage failed) :
    ∃ stage' : SearchStage, stage'.Fits s.endpoints ∧ stage'.events s.endpoints delay =
        stage.events s.endpoints delay ++ (point.event? s point').toList ∧
      point'.Stands s.endpoints s' b' held stage' failed := by
  have hserves := hadvance.serves.toKeepsClosed
  cases hadvance with
  | @dial index last endpoint hendpoint =>
      obtain ⟨errors, rfl, rfl, hlast, hholds, hlost⟩ := hstands
      refine ⟨.dialing failed errors, ⟨hfits.1, (List.getElem?_eq_some_iff.mp hendpoint).1⟩, ?_,
        errors, rfl, rfl, hlast, hholds, hlost.keep hserves⟩
      simp [SearchStage.events, Failover.event?]
  | @giveUp index e hend =>
      obtain ⟨errors, rfl, rfl, hlast, hholds, hlost⟩ := hstands
      have hlength := hfits.2.antisymm (List.getElem?_eq_none_iff.mp hend)
      exact ⟨_, hfits, by simp [Failover.event?],
        .inl ⟨errors, rfl, hlength, hlast.symm, hholds, hlost⟩⟩
  | dialNothing hend =>
      -- where there are endpoints a round that has come to their end has failed
      obtain ⟨errors, rfl, rfl, hlast, _⟩ := hstands
      obtain rfl := List.getLast?_eq_none_iff.mp hlast.symm
      exact absurd (List.length_eq_zero_iff.mp
        (Nat.le_zero.mp (List.getElem?_eq_none_iff.mp hend))) hnonempty
  | wait hwait =>
      obtain ⟨errors, hstage, hindex, hlast, hholds, hlost⟩ := hstands
      exact ⟨stage, hfits, by simp [Failover.event?], errors, hstage, hindex, hlast, hholds, hlost⟩
  | reach hwait hdial =>
      obtain ⟨errors, rfl, rfl, hlast, hholds, hlost⟩ := hstands
      exact ⟨.found failed errors _, hfits, by simp [SearchStage.events, Failover.event?], errors,
        rfl⟩
  | @miss index last wait _ e hwait hdial =>
      obtain ⟨errors, rfl, rfl, hlast, hholds, hlost⟩ := hstands
      have hnext := List.getElem?_eq_getElem hfits.2
      have hle : (errors ++ [e]).length ≤ s.endpoints.length := by
        simpa using Nat.succ_le_of_lt hfits.2
      refine ⟨.seeking failed (errors ++ [e]), ⟨hfits.1, hle⟩, ?_, errors ++ [e], rfl, by simp,
        by simp, hholds, hlost.keep hserves⟩
      simp [SearchStage.events, Failover.event?, missedEvents_concat hnext, hnext]
  | refuse hterminated =>
      exact ⟨stage, hfits, by simp [Failover.event?], hterminated, hstands⟩
  | fill hterminated hslot | replace hterminated hslot =>
      obtain ⟨errors, hstage⟩ := hstands
      exact ⟨stage, hfits, by simp [Failover.event?], errors, _, hstage, .inl rfl⟩
  | discard => exact ⟨stage, hfits, by simp [Failover.event?], .inr ⟨rfl, hstands.1⟩⟩
  | leave hclosed => exact ⟨stage, hfits, by simp [Failover.event?], hstands⟩
  | close hopen => exact ⟨stage, hfits, by simp [Failover.event?], hstands⟩
  | succeed => exact ⟨stage, hfits, by simp [Failover.event?], hstands⟩

/-- The connection that is watched after the search that is done, if one is. -/
def heldAfter (held : Nat) (done : List Search) : Nat :=
  ((done.getLast?).map Search.connection).getD held

/-- Each turn of the watcher takes the stage further by what it does, and the one in which it finds
what it has put in place ends the search. -/
theorem Watcher.Advance.stands {point point' : Watcher}
    (hadvance : point.Advance s b s' b' point') (hnonempty : s.endpoints ≠ [])
    (hdelay : s.reconnectDelay.millis = delay)
    (hfits : stage.Fits s.endpoints) (hnotices : b.ConnectionNoticesHeld)
    (hstands : point.Stands s.endpoints s b held stage) :
    ∃ (done : List Search) (stage' : SearchStage), (∀ search ∈ done, search.Fits s.endpoints) ∧
      stage'.Fits s.endpoints ∧
      stage.events s.endpoints delay ++ (point.event? s b point').toList =
        done.flatMap (Search.events s.endpoints delay) ++ stage'.events s.endpoints delay ∧
      point'.Stands s.endpoints s' b' (heldAfter held done) stage' := by
  -- most turns stay on the stage and do nothing that is seen
  have hstay (stage' : SearchStage) (hfits' : stage'.Fits s.endpoints)
      (hevents : stage'.events s.endpoints delay =
        stage.events s.endpoints delay ++ (point.event? s b point').toList)
      (hstands' : point'.Stands s.endpoints s' b' held stage') :
      ∃ (done : List Search) (stage' : SearchStage), (∀ search ∈ done, search.Fits s.endpoints) ∧
        stage'.Fits s.endpoints ∧
        stage.events s.endpoints delay ++ (point.event? s b point').toList =
          done.flatMap (Search.events s.endpoints delay) ++ stage'.events s.endpoints delay ∧
        point'.Stands s.endpoints s' b' (heldAfter held done) stage' :=
    ⟨[], stage', by simp, hfits', by simp [hevents], hstands'⟩
  cases hadvance with
  | begin => exact hstands.elim
  | @subscribe c hslot =>
      obtain ⟨failed, errors, found, rfl, hholds⟩ := hstands
      obtain rfl : found = c := by
        rcases hholds with hfound | ⟨hnone, _⟩
        · exact Option.some.inj (hfound.symm.trans hslot)
        · cases hnone.symm.trans hslot
      -- it finds what it has put in place: the search is done
      refine ⟨[⟨failed, errors, found⟩], .settled, ?_, trivial, ?_, rfl, rfl, hholds⟩
      · simpa [Search.Fits, Search.lastStage] using hfits
      · simp [Search.events, Search.lastStage, SearchStage.events, Watcher.event?]
  | idle hslot =>
      obtain ⟨failed, errors, found, rfl, hholds⟩ := hstands
      rcases hholds with hfound | ⟨_, hterminated⟩
      · cases hfound.symm.trans hslot
      · exact hstay _ hfits (by simp [Watcher.event?]) hterminated
  | leaveIdle hterminated => exact hstay _ hfits (by simp [Watcher.event?]) (.inl hterminated)
  | leaveWatch hterminated => exact hstay _ hfits (by simp [Watcher.event?]) (.inl hterminated)
  | leaveFailover hterminated hsafe =>
      exact hstay _ hfits (by simp [Watcher.event?]) (.inl hterminated)
  | leaveRest hterminated => exact hstay _ hfits (by simp [Watcher.event?]) (.inl hterminated)
  | lookAgain hterminated htime => cases hterminated.symm.trans hstands
  | @lose c reason hterminated hreason =>
      obtain ⟨hstage, rfl, hholds⟩ := hstands
      obtain ⟨hdialed, hclosed⟩ := Broker.connectionClosed_of_reason hnotices hreason
      exact hstay _ hfits (by simp [Watcher.event?]) ⟨hstage, rfl, hholds, hdialed, hclosed⟩
  | resubscribe hconnected =>
      obtain ⟨hstage, rfl, hholds, hlost⟩ := hstands
      cases hconnected.symm.trans (hholds.isConnected hlost)
  | reconnect hconnected =>
      obtain ⟨rfl, rfl, hholds, hlost⟩ := hstands
      exact hstay (.seeking [] []) ⟨by simp, Nat.zero_le _⟩
        (by simp [SearchStage.events, roundEvents, missedEvents, Watcher.event?])
        ⟨[], rfl, [], rfl, rfl, rfl, hholds, hlost⟩
  | @failover attempt _ _ _ _ hgoesOn hadvance =>
      obtain ⟨failed, hattempt, hfailover⟩ := hstands
      obtain ⟨stage', hfits', hevents, hstands'⟩ := hadvance.stands hnonempty hfits hfailover
      exact hstay _ hfits' hevents ⟨failed, hattempt, hstands'⟩
  | reconnected =>
      obtain ⟨failed, hattempt, errors, c, hstage, hholds⟩ := hstands
      exact hstay _ hfits (by simp [Watcher.event?]) ⟨failed, errors, c, hstage, hholds⟩
  | refused =>
      obtain ⟨failed, hattempt, ⟨errors, hstage, hlength, hlast, _⟩ | ⟨_, hterminated⟩⟩ := hstands
      · exact hstay _ hfits (by simp [Watcher.event?]) (.inr ⟨failed, errors, hstage, hlast⟩)
      · exact hstay _ hfits (by simp [Watcher.event?]) (.inl hterminated)
  | rest he =>
      obtain ⟨failed, rfl, ⟨errors, rfl, hlength, hlast, hholds, hlost⟩ | ⟨hended, _⟩⟩ := hstands
      · refine hstay (.seeking (failed ++ [errors]) []) ⟨?_, Nat.zero_le _⟩ ?_
          ⟨failed ++ [errors], rfl, by simp, hholds, hlost⟩
        · intro round hmem
          rcases List.mem_append.mp hmem with hold | hnew
          · exact hfits.1 round hold
          · rw [List.mem_singleton.mp hnew, hlength]
        · simp [SearchStage.events, roundEvents_concat, Watcher.event?, missedEvents, afterDelay,
            hdelay]
      · exact absurd hended he
  | retry hterminated htime =>
      obtain ⟨failed, hstage, rfl, hholds, hlost⟩ := hstands
      exact hstay _ hfits (by simp [Watcher.event?])
        ⟨failed, rfl, [], hstage, rfl, rfl, hholds, hlost⟩
  | stop => exact hstay _ hfits (by simp [Watcher.event?]) hstands

end Turns

/-! ## What the others do meanwhile -/

/-- What the broker is asked to dial in a turn of a failover is what the turn is seen to dial. -/
theorem Failover.Advance.dialLog_event {s s' : Supervisor} {b b' : Broker} {point point' : Failover}
    (hadvance : point.Advance s b s' b' point') :
    b'.dialLog = b.dialLog ++ (point.event? s point').toList.filterMap SearchEvent.dialed? := by
  rw [hadvance.dialLog]
  cases hadvance with
  | dial hendpoint => simp [dials, event?, hendpoint, SearchEvent.dialed?]
  | giveUp hend | dialNothing hend => simp [dials, event?, hend]
  | reach | miss => simp [dials, event?, SearchEvent.dialed?]
  | _ => simp [dials, event?]

@[inherit_doc Failover.Advance.dialLog_event]
theorem Watcher.Advance.dialLog_event {s s' : Supervisor} {b b' : Broker} {point point' : Watcher}
    (hadvance : point.Advance s b s' b' point') :
    b'.dialLog = b.dialLog ++ (point.event? s b point').toList.filterMap SearchEvent.dialed? := by
  cases hadvance with
  | failover hgoesOn hadvance => exact hadvance.dialLog_event
  | subscribe | rest => simp [event?, SearchEvent.dialed?]
  | _ => simp [event?]

/-- Is the task a connect that is under way? -/
def Task.isConnecting : Task → Bool
  | connect point => point.result?.isNone
  | _ => false

namespace System

variable {w w' : System} {what : Happening}

/-- Every connect is at its end. -/
def ConnectsOver (w : System) : Prop :=
  ∀ task ∈ w.tasks, task.isConnecting = false

instance (w : System) : Decidable w.ConnectsOver :=
  inferInstanceAs (Decidable (∀ task ∈ w.tasks, _))

theorem ConnectsOver.eq_finished (hover : w.ConnectsOver) {u : Nat} {point : Failover}
    (htask : w.tasks[u]? = some (.connect point)) : ∃ result, point = .finished result := by
  have hfinished := hover _ (List.mem_of_getElem? htask)
  cases point with
  | finished result => exact ⟨result, rfl⟩
  | _ => cases hfinished

theorem ConnectsOver.change (hover : w.ConnectsOver) (hchange : w.SupervisionChange what w')
    (hcall : what ≠ .call .connect) : w'.ConnectsOver := by
  intro task hmem
  obtain ⟨u, htask⟩ := List.getElem?_of_mem hmem
  rcases hchange.task_cases htask with ⟨_, hkept⟩ | ⟨_, before, hbefore, hmoved⟩ |
    ⟨_, call, rfl, rfl⟩ | ⟨_, rfl, _⟩ | hother
  · exact hover task (List.mem_of_getElem? hkept)
  · cases hmoved with
    | connect hadvance =>
        obtain ⟨result, rfl⟩ := hover.eq_finished hbefore
        cases hadvance
    | other hother' => cases task <;> simp_all [Task.isConnecting, Task.isSupervision]
    | _ => rfl
  · cases call with
    | connect => exact absurd rfl hcall
    | _ => rfl
  · rfl
  · cases task <;> simp_all [Task.isConnecting, Task.isSupervision]

/-- While no connect is under way, nobody but the watcher dials or puts something in the slot. -/
theorem SupervisionChange.keepsSlot {t : Nat} {point : Watcher}
    (hchange : w.SupervisionChange what w') (hall : w.AllFit) (hone : w.OneWatcher)
    (hover : w.ConnectsOver) (htask : w.tasks[t]? = some (.watcher point))
    (hother : what ≠ .turn t) :
    w.supervisor.KeepsSlot w'.supervisor ∧ w'.broker.dialLog = w.broker.dialLog := by
  have hterminated := hchange.lasts.2
  cases hchange with
  | @turn u _ hturn =>
      cases hturn with
      | connect hfound hadvance =>
          obtain ⟨result, rfl⟩ := hover.eq_finished hfound
          cases hadvance
      | start hfound hadvance hsupervisor hbroker htasks =>
          exact ⟨⟨.inl (by rw [hsupervisor, hadvance.slot]), hterminated⟩, by rw [hbroker]⟩
      | shutdown hfound hadvance hsupervisor hbroker htasks =>
          -- a shutdown that has taken a turn has told the supervisor to end
          have hended := hadvance.terminated (hall u _ hfound)
          rw [← hsupervisor] at hended
          refine ⟨⟨hadvance.slot.imp (hsupervisor ▸ ·) fun hnone => ⟨hsupervisor ▸ hnone, hended⟩,
            hterminated⟩, ?_⟩
          rw [hbroker]
          cases hadvance with
          | close hopen => exact (w.broker.closeConnection_mayClose _).dialLog
          | _ => rfl
      | watcher hfound hadvance hsupervisor hbroker htasks =>
          obtain rfl := hone.unique t u ⟨_, htask, rfl⟩ ⟨_, hfound, rfl⟩
          exact absurd rfl hother
      | other hfound hkind hkind' hspawned hsupervisor hkeeps htasks =>
          exact ⟨⟨.inl (by rw [hsupervisor]), hterminated⟩, hkeeps.dialLog⟩
  | call hsupervisor hbroker htasks =>
      exact ⟨⟨.inl (by rw [hsupervisor]), hterminated⟩, by rw [hbroker]⟩
  | abort hfound hrests hpending hsupervisor hkeeps htasks =>
      exact ⟨⟨.inl (by rw [hsupervisor]), hterminated⟩, hkeeps.dialLog⟩
  | @incident incident _ hsupervisor hbroker htasks =>
      refine ⟨⟨.inl (by rw [hsupervisor]), hterminated⟩, ?_⟩
      rw [hbroker]
      rcases w.broker.after_cases incident with hkeeps | ⟨c, reason, rfl⟩ | ⟨operation, error, rfl⟩
      · exact hkeeps.dialLog
      · exact (w.broker.dropConnection_mayClose c reason).dialLog
      · rfl
  | tokens hwhat hsupervisor hbroker htasks =>
      exact ⟨⟨.inl (by rw [hsupervisor]), hterminated⟩, by rw [hbroker]⟩

/-- The delay between rounds stays as it is. -/
theorem SupervisionChange.reconnectDelay (hchange : w.SupervisionChange what w') :
    w'.supervisor.reconnectDelay = w.supervisor.reconnectDelay := by
  have hfailover {s s' : Supervisor} {b b' : Broker} {point point' : Failover}
      (hadvance : point.Advance s b s' b' point') : s'.reconnectDelay = s.reconnectDelay := by
    cases hadvance <;> rfl
  rcases hchange.turn_or_outside with ⟨t, rfl, hturn⟩ | houtside
  · cases hturn with
    | connect htask hadvance hsupervisor hbroker htasks => rw [hsupervisor, hfailover hadvance]
    | start htask hadvance hsupervisor hbroker htasks =>
        rw [hsupervisor]
        cases hadvance <;> rfl
    | shutdown htask hadvance hsupervisor hbroker htasks =>
        rw [hsupervisor]
        cases hadvance <;> rfl
    | watcher htask hadvance hsupervisor hbroker htasks =>
        rw [hsupervisor]
        cases hadvance with
        | failover hgoesOn hadvance => exact hfailover hadvance
        | _ => rfl
    | other htask hother hother' hspawned hsupervisor hkeeps htasks => rw [hsupervisor]
  · rw [houtside.supervisor]

end System

theorem heldAfter_append (held : Nat) (earlier later : List Search) :
    heldAfter held (earlier ++ later) = heldAfter (heldAfter held earlier) later := by
  cases hlast : later.getLast? <;> simp [heldAfter, List.getLast?_append, hlast]

/-- What the watcher `t` has done in `more`, which has led from `w` to `w'`, since it watched the
connection `held`: searches that are done and a stage of one under way. -/
structure Searched (t held : Nat) (w : System) (more : List Moment) (w' : System)
    (point : Watcher) (searches : List Search) (stage : SearchStage) : Prop where
  task : w'.tasks[t]? = some (.watcher point)
  searches_fit : ∀ search ∈ searches, search.Fits w.supervisor.endpoints
  stage_fits : stage.Fits w.supervisor.endpoints
  log : searchLog t more =
    searches.flatMap (Search.events w.supervisor.endpoints w.supervisor.reconnectDelay.millis) ++
      stage.events w.supervisor.endpoints w.supervisor.reconnectDelay.millis
  dialLog : w'.broker.dialLog =
    w.broker.dialLog ++ (searchLog t more).filterMap SearchEvent.dialed?
  stands : point.Stands w.supervisor.endpoints w'.supervisor w'.broker (heldAfter held searches)
    stage

namespace Run

variable {w₀ w w' : System} {past more : List Moment} {t held : Nat}

theorem reconnectDelay (hmore : Run w more w') :
    w'.supervisor.reconnectDelay = w.supervisor.reconnectDelay := by
  induction hmore with
  | refl => rfl
  | snoc _ hafter ih => rw [(System.after_supervisionChange hafter).reconnectDelay, ih]

theorem connectsOver (hmore : Run w more w') (hover : w.ConnectsOver)
    (hcall : ∀ m ∈ more, m.what ≠ .call .connect) : w'.ConnectsOver := by
  induction hmore with
  | refl => exact hover
  | snoc _ hafter ih =>
      simp only [List.mem_append, List.mem_singleton, or_imp, forall_and, forall_eq] at hcall
      exact (ih hcall.1).change (System.after_supervisionChange hafter) hcall.2

theorem searched (hpast : Run w₀ past w) (hmore : Run w more w') (hfresh : w₀.Fresh)
    (hnonempty : w.supervisor.endpoints ≠ []) (hover : w.ConnectsOver)
    (hcall : ∀ m ∈ more, m.what ≠ .call .connect)
    (htask : w.tasks[t]? = some (.watcher (.watching held)))
    (hslot : w.supervisor.slot = some held) :
    ∃ point searches stage, Searched t held w more w' point searches stage := by
  induction hmore with
  | refl =>
      exact ⟨.watching held, [], .settled, htask, by simp, trivial, rfl, by simp [searchLog], rfl,
        rfl, .inl hslot⟩
  | @snoc more w₁ w₂ what hmore hafter ih =>
      simp only [List.mem_append, List.mem_singleton, or_imp, forall_and, forall_eq] at hcall
      obtain ⟨point, searches, stage, hsearched⟩ := ih hcall.1
      have hchange := System.after_supervisionChange hafter
      have hrun := hpast.append hmore
      by_cases hturn : what = .turn t
      · subst hturn
        cases hchange.of_turn with
        | @watcher before point' _ _ hbefore hadvance hsupervisor hbroker htasks =>
            cases hsearched.task.symm.trans hbefore
            have htask' : w₂.tasks[t]? = some (.watcher point') := by
              rw [htasks]
              exact task_set_self hbefore
            have hevent : Moment.searchEvent? t ⟨w₁, .turn t, w₂⟩ =
                point.event? w₁.supervisor w₁.broker point' := by
              simp [Moment.searchEvent?, Moment.isTurnOf, hbefore, htask']
            have hdelay : w₁.supervisor.reconnectDelay.millis =
                w.supervisor.reconnectDelay.millis := by rw [hmore.reconnectDelay]
            obtain ⟨done, stage', hdone, hfits, hevents, hstands⟩ := hadvance.stands
              (by rwa [hmore.lasts.1]) hdelay (by rw [hmore.lasts.1]; exact hsearched.stage_fits)
              (hrun.connectionNoticesHeld hfresh) (by rw [hmore.lasts.1]; exact hsearched.stands)
            rw [hmore.lasts.1] at hdone hfits hevents hstands
            refine ⟨point', searches ++ done, stage', htask', ?_, hfits, ?_, ?_, ?_⟩
            · intro search hmem
              exact (List.mem_append.mp hmem).elim (hsearched.searches_fit search) (hdone search)
            · rw [searchLog_concat, hevent, hsearched.log, List.append_assoc, hevents,
                List.flatMap_append, List.append_assoc]
            · rw [searchLog_concat, hevent, hbroker, hadvance.dialLog_event, hsearched.dialLog,
                List.filterMap_append, List.append_assoc]
            · rw [heldAfter_append, hsupervisor, hbroker]
              exact hstands
        | connect hbefore => cases hsearched.task.symm.trans hbefore
        | start hbefore => cases hsearched.task.symm.trans hbefore
        | shutdown hbefore => cases hsearched.task.symm.trans hbefore
        | other hbefore hother =>
            cases hsearched.task.symm.trans hbefore
            cases hother
      · have hnot : Moment.isTurnOf t ⟨w₁, what, w₂⟩ = false := Moment.isTurnOf_of_ne hturn
        have hquiet : Moment.searchEvent? t ⟨w₁, what, w₂⟩ = none := by
          simp [Moment.searchEvent?, hnot]
        obtain ⟨hkeeps, hdials⟩ := hchange.keepsSlot (hrun.allFit hfresh) (hrun.oneWatcher hfresh)
          (hmore.connectsOver hover hcall.1) hsearched.task hturn
        have hlog : searchLog t (more ++ [⟨w₁, what, w₂⟩]) = searchLog t more := by
          simp [searchLog_concat, hquiet]
        exact ⟨point, searches, stage, hchange.task_kept hturn (.inr rfl) hsearched.task,
          hsearched.searches_fit, hsearched.stage_fits, by rw [hlog, hsearched.log],
          by rw [hlog, hdials, hsearched.dialLog], hsearched.stands.keep hkeeps hchange.keepsClosed⟩

end Run

/-! ## The watcher is not held up -/

/-- How many turns the watcher takes at most until it watches or rests, but for those in which it
waits for a dial. -/
def Watcher.turnsToRest (count : Nat) : Watcher → Nat
  | lost _ _ => 2 * count + 6
  | reconnecting _ failover => failover.turnsLeft count + 2
  | looking => 1
  | _ => 0

/-- How many turns the watcher takes at most once the end has been signalled. -/
def Watcher.turnsToStop (count : Nat) : Watcher → Nat
  | stopped => 0
  | stopping => 1
  | looking => 3
  | starting | lost _ _ => 4
  | reconnecting _ failover => if failover.isSafe then 2 else failover.turnsLeft count + 4
  | idle _ | watching _ | resting _ _ => 2

section Progress

variable {s : Supervisor} {b : Broker} {attempt : Nat}

theorem Watcher.step_of_failover {failover : Failover}
    {turn : Turn (Supervisor × Broker) Failover}
    (hgoesOn : (s.terminated && failover.isSafe) = false)
    (hstep : failover.step s b = some turn) :
    (reconnecting attempt failover).step s b =
      some ⟨turn.state, reconnecting attempt turn.point, turn.log⟩ := by
  cases failover with
  | finished result => cases hstep
  | _ => simp [step, hgoesOn, hstep]

/-- A round that has come to its end is followed by a look, by the end, or by a rest. -/
theorem Watcher.step_finished (s : Supervisor) (b : Broker) (attempt : Nat)
    (result : Except BrokerError Unit) :
    ∃ point log, (reconnecting attempt (.finished result)).step s b = some ⟨(s, b), point, log⟩ ∧
      (point = looking ∨ point = stopping ∨ ∃ time, point = resting attempt time) := by
  simp only [step, Failover.isSafe, Bool.and_false, Bool.false_eq_true, if_false]
  split
  · exact ⟨_, _, rfl, .inl rfl⟩
  · exact ⟨_, _, rfl, .inr (.inl rfl)⟩
  · exact ⟨_, _, rfl, .inr (.inr ⟨_, rfl⟩)⟩
  · rename_i hok _ herror
    cases result with
    | ok _ => exact (hok rfl).elim
    | error e => exact (herror e rfl).elim

/-- Once the end has been signalled nothing holds the watcher up, and each turn brings it nearer to
its own end. -/
theorem Watcher.stops_of_terminated (b : Broker) (point : Watcher)
    (hterminated : s.terminated = true) :
    point = .stopped ∨ ∃ turn, point.step s b = some turn ∧
      turn.point.turnsToStop s.endpoints.length < point.turnsToStop s.endpoints.length := by
  cases point with
  | stopped => exact .inl rfl
  | starting => exact .inr ⟨_, rfl, by simp [turnsToStop]⟩
  | stopping => exact .inr ⟨_, rfl, by simp [turnsToStop]⟩
  | looking =>
      right
      cases hslot : s.slot with
      | none => exact ⟨_, by simp only [step, hslot]; rfl, by simp [turnsToStop]⟩
      | some c => exact ⟨_, by simp only [step, hslot]; rfl, by simp [turnsToStop]⟩
  | idle | watching | resting =>
      exact .inr ⟨_, by simp only [step, hterminated]; rfl, by simp [turnsToStop]⟩
  | lost c reason =>
      right
      cases hconnected : s.isConnected b with
      | true => exact ⟨_, by simp only [step, hconnected]; rfl, by simp [turnsToStop]⟩
      | false =>
          exact ⟨_, by simp only [step, hconnected]; rfl,
            by simp [turnsToStop, Failover.start, Failover.isSafe]⟩
  | reconnecting attempt failover =>
      right
      cases hsafe : failover.isSafe with
      | true =>
          exact ⟨_, by simp only [step, hterminated, hsafe]; rfl, by simp [turnsToStop, hsafe]⟩
      | false =>
          have hgoesOn : (s.terminated && failover.isSafe) = false := by simp [hsafe]
          have hrange (index : Nat) (last : Option BrokerError) (wait : Broker.Wait)
              (hdialing : failover = .dialing index last wait) : index < s.endpoints.length := by
            subst hdialing
            cases hsafe
          rcases Failover.advances b hrange with ⟨result, rfl⟩ | ⟨index, last, wait, rfl, _⟩ |
            ⟨turn, hstep, hlt⟩
          · obtain ⟨point, log, hstep, hpoint⟩ := step_finished s b attempt result
            refine ⟨_, hstep, ?_⟩
            rcases hpoint with rfl | rfl | ⟨time, rfl⟩ <;>
              simp [turnsToStop, Failover.isSafe, Failover.turnsLeft]
          · cases hsafe
          · refine ⟨_, step_of_failover hgoesOn hstep, ?_⟩
            simp only [turnsToStop, hsafe]
            split
            · simp
            · simpa using hlt

/-- Until the end is signalled a watcher that has been watching waits for a loss, for a dial or for
the end of its rest, or it goes on: from a watch or a rest to the next round, and from everywhere
else nearer to a watch or a rest. -/
theorem Watcher.Stands.advances {held : Nat} {stage : SearchStage} {point : Watcher}
    (hstands : point.Stands s.endpoints s b held stage) (hfits : stage.Fits s.endpoints)
    (hterminated : s.terminated = false) :
    (point = .stopping ∨ point = .stopped) ∨
      (∃ c, point = .watching c ∧ b.connectionReason? c = none) ∨
      (∃ attempt index last wait, point = .reconnecting attempt (.dialing index last wait) ∧
        b.progress wait ≠ .passed) ∨
      (∃ attempt time, point = .resting attempt time ∧ b.clock < time) ∨
      ∃ turn, point.step s b = some turn ∧ (point.turnsToRest s.endpoints.length = 0 ∨
        turn.point.turnsToRest s.endpoints.length < point.turnsToRest s.endpoints.length) := by
  cases point with
  | starting => exact hstands.elim
  | stopping => exact .inl (.inl rfl)
  | stopped => exact .inl (.inr rfl)
  | idle => cases hterminated.symm.trans hstands
  | watching c =>
      refine .inr ?_
      cases hreason : b.connectionReason? c with
      | none => exact .inl ⟨c, rfl, hreason⟩
      | some reason =>
          exact .inr (.inr (.inr ⟨_, by simp only [step, hterminated, hreason]; rfl, .inl rfl⟩))
  | resting attempt time =>
      refine .inr (.inr (.inr ?_))
      by_cases htime : b.clock < time
      · exact .inl ⟨attempt, time, rfl, htime⟩
      · exact .inr ⟨_, by simp only [step, hterminated, htime]; rfl, .inl rfl⟩
  | looking =>
      obtain ⟨failed, errors, c, _, hslot | ⟨_, hended⟩⟩ := hstands
      · exact .inr (.inr (.inr (.inr ⟨_, by simp only [step, hslot]; rfl,
          .inr (by simp [turnsToRest])⟩)))
      · cases hterminated.symm.trans hended
  | lost c reason =>
      obtain ⟨_, _, hholds, hlost⟩ := hstands
      exact .inr (.inr (.inr (.inr ⟨_, by simp only [step, hholds.isConnected hlost]; rfl,
        .inr (by simp [turnsToRest, Failover.start, Failover.turnsLeft])⟩)))
  | reconnecting attempt failover =>
      obtain ⟨failed, _, hfailover⟩ := hstands
      have hrange (index : Nat) (last : Option BrokerError) (wait : Broker.Wait)
          (hdialing : failover = .dialing index last wait) : index < s.endpoints.length := by
        subst hdialing
        obtain ⟨errors, rfl, rfl, _⟩ := hfailover
        exact hfits.2
      refine .inr (.inr ?_)
      rcases Failover.advances b hrange with ⟨result, rfl⟩ | ⟨index, last, wait, rfl, hwait⟩ |
        ⟨turn, hstep, hlt⟩
      · obtain ⟨point, log, hstep, hpoint⟩ := step_finished s b attempt result
        refine .inr (.inr ⟨_, hstep, .inr ?_⟩)
        rcases hpoint with rfl | rfl | ⟨time, rfl⟩ <;> simp [turnsToRest, Failover.turnsLeft]
      · exact .inl ⟨attempt, index, last, wait, rfl, hwait⟩
      · exact .inr (.inr ⟨_, step_of_failover (by simp [hterminated]) hstep,
          .inr (Nat.add_lt_add_right hlt 2)⟩)

end Progress

/-! ## The whole -/

/-- What there is to say of the watcher `t` at `w'`, which watched the connection in use, `held`, at
`w`, after `more`. -/
structure GoesRound (t held : Nat) (w : System) (more : List Moment) (w' : System) (point : Watcher)
    (searches : List Search) (stage : SearchStage) : Prop where
  searched : Searched t held w more w' point searches stage
  /-- For each search that is done the broker has been asked to dial the whole list as often as a
  round has failed, and then the list up to the first endpoint that has answered. -/
  dials : w'.broker.dialLog = w.broker.dialLog ++
    (searches.flatMap (Search.dials w.supervisor.endpoints) ++ stage.dials w.supervisor.endpoints)
  /-- There has been one rest after each round that has failed, and it has lasted as long as it
  should. -/
  rests : ∀ search ∈ searches, (search.events w.supervisor.endpoints
      w.supervisor.reconnectDelay.millis).filterMap SearchEvent.rested? =
    List.replicate search.failed.length w.supervisor.reconnectDelay.millis
  wakes : ∀ m ∈ more, ∀ attempt time attempt' failover,
    m.before.tasks[t]? = some (.watcher (.resting attempt time)) →
    m.after.tasks[t]? = some (.watcher (.reconnecting attempt' failover)) →
    time ≤ m.before.broker.clock
  /-- Until the end is signalled, what is watched is in use, and is what the last search has
  brought. -/
  watches : w'.supervisor.terminated = false → ∀ c, point = .watching c →
    w'.supervisor.slot = some c ∧ c = heldAfter held searches ∧ stage = .settled
  /-- Only a round whose last dial has failed as terminated makes the watcher end by itself. -/
  keepsOn : w'.supervisor.terminated = false → point = .stopping ∨ point = .stopped →
    (searchLog t more).getLast? = some (.answer (.error .terminated))
  /-- Otherwise it waits for a loss, for a dial or for the end of its rest, or it goes on: from a
  watch or a rest to the next round, and from everywhere else nearer to a watch or a rest. -/
  advances : w'.supervisor.terminated = false → (point = .stopping ∨ point = .stopped) ∨
    (∃ c, point = .watching c ∧ w'.broker.connectionClosed c = false) ∨
    (∃ attempt index last wait, point = .reconnecting attempt (.dialing index last wait) ∧
      w'.broker.progress wait ≠ .passed) ∨
    (∃ attempt time, point = .resting attempt time ∧ w'.broker.clock < time) ∨
    ∃ w'' point', w'.after? (.turn t) = some w'' ∧ w''.tasks[t]? = some (.watcher point') ∧
      (point.turnsToRest w.supervisor.endpoints.length = 0 ∨
        point'.turnsToRest w.supervisor.endpoints.length <
          point.turnsToRest w.supervisor.endpoints.length)
  /-- Once the end has been signalled it dials no more and comes to its end, and what it has done is
  the beginning of what it would have done. -/
  quiet : ∀ m ∈ more, m.isTurnOf t = true → m.before.supervisor.terminated = true → m.dials = []
  stops : w'.supervisor.terminated = true → point = .stopped ∨
    ∃ w'' point', w'.after? (.turn t) = some w'' ∧ w''.tasks[t]? = some (.watcher point') ∧
      point'.turnsToStop w.supervisor.endpoints.length <
        point.turnsToStop w.supervisor.endpoints.length
  breaksOff : ∃ search : Search, search.Fits w.supervisor.endpoints ∧
    searchLog t more <+: (searches ++ [search]).flatMap
      (Search.events w.supervisor.endpoints w.supervisor.reconnectDelay.millis)

namespace Run

variable {w₀ w w' : System} {past more : List Moment} {t held : Nat}

/-- A watcher leaves its rest for the next round only when its time has come. -/
theorem rested_until (hmore : Run w more w') {m : Moment} (hmem : m ∈ more)
    {attempt time attempt' : Nat} {failover : Failover}
    (hbefore : m.before.tasks[t]? = some (.watcher (.resting attempt time)))
    (hafter : m.after.tasks[t]? = some (.watcher (.reconnecting attempt' failover))) :
    time ≤ m.before.broker.clock := by
  obtain ⟨_, _, _, _, hwhat, _⟩ := hmore.exists_of_mem hmem
  have hchange := System.after_supervisionChange hwhat
  by_cases hturn : m.what = .turn t
  · rw [hturn] at hchange
    cases hchange.of_turn with
    | watcher hfound hadvance hsupervisor hbroker htasks =>
        cases hbefore.symm.trans hfound
        rw [htasks, task_set_self hfound] at hafter
        cases hadvance with
        | retry hterminated htime => exact Nat.le_of_not_lt htime
        | _ => cases hafter
    | connect hfound => cases hbefore.symm.trans hfound
    | start hfound => cases hbefore.symm.trans hfound
    | shutdown hfound => cases hbefore.symm.trans hfound
    | other hfound hother =>
        cases hbefore.symm.trans hfound
        cases hother
  · cases (hchange.task_kept hturn (.inr rfl) hbefore).symm.trans hafter

/-- Once the end has been signalled a watcher that there has been dials no more. -/
theorem dials_nothing_after (hmore : Run w more w') (hwatcher : w.WatcherAt t) {m : Moment}
    (hmem : m ∈ more) (hturn : m.isTurnOf t = true)
    (hterminated : m.before.supervisor.terminated = true) : m.dials = [] := by
  obtain ⟨_, _, _, hearlier, hwhat, _⟩ := hmore.exists_of_mem hmem
  exact (Run.cons hwhat .refl).watcher_dials_nothing hterminated List.mem_cons_self
    (Moment.what_of_isTurnOf hturn) (hearlier.watcherAt_iff.mpr (.inl hwatcher))

end Run

namespace Searched

variable {t held : Nat} {w w' : System} {more : List Moment} {point : Watcher}
  {searches : List Search} {stage : SearchStage}

theorem dials (hsearched : Searched t held w more w' point searches stage) :
    w'.broker.dialLog = w.broker.dialLog ++
      (searches.flatMap (Search.dials w.supervisor.endpoints) ++
        stage.dials w.supervisor.endpoints) := by
  have hdone (search : Search) (hmem : search ∈ searches) :=
    Search.events_dialed w.supervisor.reconnectDelay.millis (hsearched.searches_fit search hmem)
  rw [hsearched.dialLog, hsearched.log, List.filterMap_append, List.filterMap_flatMap,
    List.flatMap_congr hdone, SearchStage.events_dialed _ hsearched.stage_fits]

theorem keepsOn (hsearched : Searched t held w more w' point searches stage)
    (hterminated : w'.supervisor.terminated = false)
    (hpoint : point = .stopping ∨ point = .stopped) :
    (searchLog t more).getLast? = some (.answer (.error .terminated)) := by
  have hstands := hsearched.stands
  have hended : ∃ failed errors, stage = .seeking failed errors ∧
      errors.getLast? = some .terminated := by
    rcases hpoint with rfl | rfl
    · exact hstands.resolve_left (by simp [hterminated])
    · exact hstands.resolve_left (by simp [hterminated])
  obtain ⟨failed, errors, rfl, hlast⟩ := hended
  have hround := missedEvents_getLast? hsearched.stage_fits.2 hlast
  rw [hsearched.log, SearchStage.events, ← List.append_assoc, List.getLast?_append, hround]
  rfl

theorem breaksOff (hsearched : Searched t held w more w' point searches stage)
    (hnonempty : w.supervisor.endpoints ≠ []) :
    ∃ search : Search, search.Fits w.supervisor.endpoints ∧
      searchLog t more <+: (searches ++ [search]).flatMap
        (Search.events w.supervisor.endpoints w.supervisor.reconnectDelay.millis) := by
  obtain ⟨search, hfits, hbegins⟩ := hsearched.stage_fits.exists_search _ hnonempty
  refine ⟨search, hfits, ?_⟩
  rw [hsearched.log, List.flatMap_append, List.flatMap_singleton]
  exact (List.prefix_append_right_inj _).mpr hbegins

end Searched

/-- However often the connection is lost, however many rounds fail and whatever else happens, as
long as nobody else connects: the watcher goes round after round through the endpoints until one
answers. -/
theorem Run.watcher_goes_round {w₀ w w' : System} {past more : List Moment} {t held : Nat}
    (hpast : Run w₀ past w) (hmore : Run w more w') (hfresh : w₀.Fresh)
    (hnonempty : w.supervisor.endpoints ≠ []) (hover : w.ConnectsOver)
    (hcall : ∀ m ∈ more, m.what ≠ .call .connect)
    (htask : w.tasks[t]? = some (.watcher (.watching held)))
    (hslot : w.supervisor.slot = some held) :
    ∃ point searches stage, GoesRound t held w more w' point searches stage := by
  obtain ⟨point, searches, stage, hsearched⟩ :=
    hpast.searched hmore hfresh hnonempty hover hcall htask hslot
  have hendpoints := hmore.lasts.1
  have hrun := hpast.append hmore
  refine ⟨point, searches, stage, hsearched, hsearched.dials,
    fun search _ => search.events_rested _,
    fun m hmem _ _ _ _ => hmore.rested_until hmem, ?_, hsearched.keepsOn, ?_,
    fun m hmem => hmore.dials_nothing_after ⟨_, htask, rfl⟩ hmem, ?_, hsearched.breaksOff hnonempty⟩
  · rintro hterminated c rfl
    obtain ⟨hstage, hheld, hslot' | ⟨_, hended⟩⟩ := hsearched.stands
    · exact ⟨hslot', hheld, hstage⟩
    · cases hterminated.symm.trans hended
  · intro hterminated
    have hfits := hsearched.stage_fits
    have hstands := hsearched.stands
    rw [← hendpoints] at hfits hstands ⊢
    rcases hstands.advances hfits hterminated with hended | ⟨c, rfl, hnone⟩ | hdialing | hresting |
      ⟨turn, hstep, hnearer⟩
    · exact .inl hended
    · have hdialed := (hrun.placed hfresh).dialed ⟨_, hsearched.task, rfl⟩
      exact .inr (.inl ⟨c, rfl, Broker.open_of_connectionReason?_eq_none hdialed hnone⟩)
    · exact .inr (.inr (.inl hdialing))
    · exact .inr (.inr (.inr (.inl hresting)))
    · obtain ⟨w'', hturn, _, _, htask''⟩ := System.step_of_watcher hsearched.task hstep
      exact .inr (.inr (.inr (.inr ⟨w'', turn.point, hturn, htask'', hnearer⟩)))
  · intro hterminated
    rcases point.stops_of_terminated w'.broker hterminated with hstopped | ⟨turn, hstep, hnearer⟩
    · exact .inl hstopped
    · obtain ⟨w'', hturn, _, _, htask''⟩ := System.step_of_watcher hsearched.task hstep
      exact .inr ⟨w'', turn.point, hturn, htask'', by rwa [hendpoints] at hnearer⟩

instance : (what : Happening) → Decidable (what = .call .connect)
  | .call .connect => isTrue rfl
  | .call .start | .call .shutdown | .call (.publish _ _) => isFalse nofun
  | .call (.closePublisher _) | .call (.consume _) => isFalse nofun
  | .turn _ | .abort _ | .incident _ | .cancel _ | .renewToken _ => isFalse nofun

/-- A client of two endpoints, of which the second can be reached. -/
def System.double : System :=
  { System.single with
    broker := { reachable := ["amqp://b"] }
    supervisor := { endpoints := ["amqp://a", "amqp://b"] } }

theorem System.double_fresh : System.double.Fresh := { System.single_fresh with }

def untilWatching : List Happening :=
  [.call .connect] ++ List.replicate 6 (.turn 0) ++ [.call .start] ++ List.replicate 4 (.turn 1) ++
  List.replicate 2 (.turn 2)

/-- The connection is lost and no endpoint can be reached; one comes back during the rest. -/
def endpointsLost : List Happening :=
  [.incident (.setReachable "amqp://b" false), .incident (.dropConnection 0 .graceful)] ++
  List.replicate 8 (.turn 2) ++
  [.incident (.setReachable "amqp://b" true), .incident (.passTime 5000)] ++
  List.replicate 10 (.turn 2)

theorem endpointsLost_searched_once_more :
    ∃ searches stage, GoesRound 2 0 (System.double.played untilWatching).2
        ((System.double.played untilWatching).2.played endpointsLost).1
        ((System.double.played untilWatching).2.played endpointsLost).2 (.watching 1)
        searches stage ∧
      heldAfter 0 searches = 1 ∧
      ((System.double.played untilWatching).2.played endpointsLost).2.broker.dialLog =
        ["amqp://a", "amqp://b", "amqp://a", "amqp://b", "amqp://a", "amqp://b"] := by
  have hbefore : (System.double.played untilWatching).2.tasks[2]? =
      some (.watcher (.watching 0)) := rfl
  have hafter : ((System.double.played untilWatching).2.played endpointsLost).2.tasks[2]? =
      some (.watcher (.watching 1)) := rfl
  obtain ⟨point, searches, stage, hrounds⟩ :=
    (System.double.run_played untilWatching).watcher_goes_round
      ((System.double.played untilWatching).2.run_played endpointsLost) System.double_fresh
      (by decide) (by decide) (by decide) hbefore (by decide)
  obtain rfl : point = .watching 1 :=
    Task.watcher.inj (Option.some.inj (hrounds.searched.task.symm.trans hafter))
  exact ⟨searches, stage, hrounds, (hrounds.watches (by decide) 1 rfl).2.1.symm, by decide⟩

end BrokerClient
