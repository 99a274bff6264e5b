import BrokerClient.Proofs.Supervisor.Lifecycle

/-!
# What a connect has dialed

At each of its points a connect has dialed the first endpoints of the list, one after the other, and
has gone on to the next one only after a dial has failed.  `Failover.History` says so for each point
in terms of what the broker has been asked and what it has answered; it is kept by every turn.
-/

namespace BrokerClient

/-! ## What happens at one moment -/

/-- The endpoints that a turn from this point dials. -/
def Failover.dials (s : Supervisor) : Failover → List String
  | next index _ => (s.endpoints[index]?).toList
  | _ => []

/-- The broker's answer to the dial that a turn from this point ends. -/
def Failover.answer? (s : Supervisor) (b : Broker) : Failover → Option (Except BrokerError Nat)
  | dialing index _ wait =>
    if b.progress wait = .passed then some (b.endDial ((s.endpoints[index]?).getD "")).2 else none
  | _ => none

theorem Failover.Advance.dialLog {s s' : Supervisor} {b b' : Broker} {point point' : Failover}
    (hadvance : point.Advance s b s' b' point') : b'.dialLog = b.dialLog ++ point.dials s := by
  cases hadvance with
  | dial hendpoint => rw [b.beginDial_dialLog, Failover.dials, hendpoint, Option.toList_some]
  | giveUp hend => simp [Failover.dials, hend]
  | dialNothing hend => simp [Failover.dials, hend]
  | reach hwait hdial => simp [Failover.dials, (Broker.endDial_ok hdial).dialLog]
  | miss hwait hdial => simp [Failover.dials, (Broker.endDial_error hdial).dialLog]
  | discard => simp [Failover.dials, (b.closeConnection_mayClose _).dialLog]
  | close hopen => simp [Failover.dials, (b.closeConnection_mayClose _).dialLog]
  | _ => simp [Failover.dials]

namespace Moment

/-- The endpoints that the broker has been asked to dial at a moment. -/
def dials (m : Moment) : List String :=
  m.after.broker.dialLog.drop m.before.broker.dialLog.length

/-- The broker's answer to the dial of a connect that ends at a moment. -/
def answer? (m : Moment) : Option (Except BrokerError Nat) :=
  match m.what with
  | .turn t =>
    match m.before.tasks[t]? with
    | some (.connect point) => point.answer? m.before.supervisor m.before.broker
    | _ => none
  | _ => none

end Moment

/-- The endpoints that the task `t` has dialed. -/
def dialedBy (t : Nat) (past : List Moment) : List String :=
  (past.filter (Moment.isTurnOf t)).flatMap Moment.dials

/-- The broker's answers to the dials of the connect `t`. -/
def answersTo (t : Nat) (past : List Moment) : List (Except BrokerError Nat) :=
  (past.filter (Moment.isTurnOf t)).filterMap Moment.answer?

/-! ## The history of a point -/

section History

variable (endpoints dialed : List String) (answers : List (Except BrokerError Nat))

/-- The first endpoints have been dialed and have all failed, with these errors. -/
structure Tried (errors : List BrokerError) : Prop where
  length_le : errors.length ≤ endpoints.length
  dialed_eq : dialed = endpoints.take errors.length
  answers_eq : answers = errors.map .error

/-- The first endpoints have been dialed, and the last of these has been the first to answer. -/
def Found : Prop :=
  ∃ (errors : List BrokerError) (connection : Nat), errors.length < endpoints.length ∧
    dialed = endpoints.take (errors.length + 1) ∧ answers = errors.map .error ++ [.ok connection]

/-- How a failover ends when no endpoint has answered. -/
def failureResult (errors : List BrokerError) : Except BrokerError Unit :=
  match errors.getLast? with
  | some e => .error e
  | none => .ok ()

/-- What has been dialed and answered when a failover is at a point; `ended` says that the
supervisor has been told to end before the failover began. -/
def Failover.History (ended : Prop) : Failover → Prop
  | next index last =>
    ∃ errors : List BrokerError, Tried endpoints dialed answers errors ∧ index = errors.length ∧
      last = errors.getLast?
  | dialing index last _ =>
    ∃ errors : List BrokerError, index = errors.length ∧ last = errors.getLast? ∧
      index < endpoints.length ∧ dialed = endpoints.take (index + 1) ∧ answers = errors.map .error
  | answered _ _ | refusing _ => Found endpoints dialed answers
  | replaced _ _ | connected _ => Found endpoints dialed answers ∧ ¬ ended
  | finished result =>
    Found endpoints dialed answers ∧
        (result = .ok () ∧ ¬ ended ∨ result = .error .terminated) ∨
      ∃ errors : List BrokerError, Tried endpoints dialed answers errors ∧
        errors.length = endpoints.length ∧ result = failureResult errors

end History

/-- At the end of the list every endpoint has been tried. -/
theorem Failover.History.exhausted {endpoints dialed : List String}
    {answers : List (Except BrokerError Nat)} {ended : Prop} {index : Nat}
    {last : Option BrokerError}
    (hhistory : (next index last).History endpoints dialed answers ended)
    (hend : endpoints[index]? = none) :
    ∃ errors : List BrokerError, Tried endpoints dialed answers errors ∧
      errors.length = endpoints.length ∧ last = errors.getLast? := by
  obtain ⟨errors, htried, rfl, hlast⟩ := hhistory
  have hlength := List.getElem?_eq_none_iff.mp hend
  exact ⟨errors, htried, htried.length_le.antisymm hlength, hlast⟩

theorem Failover.Advance.history {s s' : Supervisor} {b b' : Broker} {point point' : Failover}
    {ended : Prop} {dialed : List String} {answers : List (Except BrokerError Nat)}
    (hadvance : point.Advance s b s' b' point') (hended : ended → s.terminated = true)
    (hhistory : point.History s.endpoints dialed answers ended) :
    point'.History s.endpoints (dialed ++ point.dials s) (answers ++ (point.answer? s b).toList)
      ended := by
  cases hadvance with
  | @dial index last endpoint hendpoint =>
      obtain ⟨errors, htried, rfl, hlast⟩ := hhistory
      refine ⟨errors, rfl, hlast, (List.getElem?_eq_some_iff.mp hendpoint).1, ?_, ?_⟩
      · rw [htried.dialed_eq, Failover.dials, hendpoint, List.take_add_one, hendpoint]
      · simp [answer?, htried.answers_eq]
  | @giveUp index e hend =>
      obtain ⟨errors, htried, hlength, hlast⟩ := hhistory.exhausted hend
      refine .inr ⟨errors, ?_, hlength, by simp [failureResult, ← hlast]⟩
      simpa [Failover.dials, answer?, hend] using htried
  | @dialNothing index hend =>
      obtain ⟨errors, htried, hlength, hlast⟩ := hhistory.exhausted hend
      refine .inr ⟨errors, ?_, hlength, by simp [failureResult, ← hlast]⟩
      simpa [Failover.dials, answer?, hend] using htried
  | wait hwait =>
      simpa [History, Failover.dials, answer?, hwait] using hhistory
  | @reach index connection last wait _ hwait hdial =>
      obtain ⟨errors, rfl, hlast, hlt, hdialed, hanswers⟩ := hhistory
      exact ⟨errors, connection, hlt, by simp [Failover.dials, hdialed],
        by simp [answer?, hwait, hdial, hanswers]⟩
  | @miss index last wait _ e hwait hdial =>
      obtain ⟨errors, rfl, hlast, hlt, hdialed, hanswers⟩ := hhistory
      refine ⟨errors ++ [e], ⟨?_, ?_, ?_⟩, by simp, by simp⟩
      · rw [List.length_append]
        exact hlt
      · simp [Failover.dials, hdialed]
      · simp [answer?, hwait, hdial, hanswers]
  | refuse hterminated => simpa [History, Failover.dials, answer?] using hhistory
  | fill hterminated hslot =>
      have hnot : ¬ ended := fun h => by simp [hended h] at hterminated
      simpa [History, Failover.dials, answer?, hnot] using hhistory
  | replace hterminated hslot =>
      have hnot : ¬ ended := fun h => by simp [hended h] at hterminated
      simpa [History, Failover.dials, answer?, hnot] using hhistory
  | discard =>
      have hfound : Found s.endpoints dialed answers := hhistory
      exact .inl ⟨by simpa [Failover.dials, answer?] using hfound, .inr rfl⟩
  | leave hclosed => simpa [History, Failover.dials, answer?] using hhistory
  | close hopen => simpa [History, Failover.dials, answer?] using hhistory
  | succeed =>
      obtain ⟨hfound, hnot⟩ := hhistory
      exact .inl ⟨by simpa [Failover.dials, answer?] using hfound, .inl ⟨rfl, hnot⟩⟩

/-! ## Progress -/

/-- How many turns a failover over some number of endpoints still takes, but for those in which it
waits for a dial. -/
def Failover.turnsLeft (count : Nat) : Failover → Nat
  | next index _ => 2 * (count - index) + 3
  | dialing index _ _ => 2 * (count - index) + 2
  | answered _ _ => 3
  | replaced _ _ => 2
  | refusing _ | connected _ => 1
  | finished _ => 0

/-- A failover that is not at its end waits for a dial, or its next turn brings it nearer to it. -/
theorem Failover.advances {s : Supervisor} (b : Broker) {point : Failover}
    (hrange : ∀ index last wait, point = .dialing index last wait → index < s.endpoints.length) :
    (∃ result, point = .finished result) ∨
      (∃ index last wait, point = .dialing index last wait ∧ b.progress wait ≠ .passed) ∨
      ∃ turn, point.step s b = some turn ∧
        turn.point.turnsLeft s.endpoints.length < point.turnsLeft s.endpoints.length := by
  cases point with
  | finished result => exact .inl ⟨result, rfl⟩
  | dialing index last wait =>
      by_cases hwait : b.progress wait = .passed
      · have hlt := hrange index last wait rfl
        refine .inr (.inr ?_)
        simp only [step, hwait]
        split
        · exact ⟨_, rfl, by simp only [turnsLeft]; omega⟩
        · exact ⟨_, rfl, by simp only [turnsLeft]; omega⟩
      · exact .inr (.inl ⟨index, last, wait, rfl, hwait⟩)
  | next index last =>
      refine .inr (.inr ?_)
      unfold step
      simp only
      split
      · exact ⟨_, rfl, by simp [turnsLeft]⟩
      · split
        · exact ⟨_, rfl, by simp [turnsLeft]⟩
        · exact ⟨_, rfl, by simp [turnsLeft]⟩
  | answered index connection =>
      refine .inr (.inr ?_)
      rw [step]
      split
      · exact ⟨_, rfl, by simp [turnsLeft]⟩
      · exact ⟨_, rfl, by cases s.slot <;> simp [turnsLeft]⟩
  | refusing connection => exact .inr (.inr ⟨_, rfl, by simp [turnsLeft]⟩)
  | replaced index previous =>
      refine .inr (.inr ?_)
      rw [step]
      split
      · exact ⟨_, rfl, by simp [turnsLeft]⟩
      · exact ⟨_, rfl, by simp [turnsLeft]⟩
  | connected index => exact .inr (.inr ⟨_, rfl, by simp [turnsLeft]⟩)

@[inherit_doc Failover.advances]
theorem Failover.History.advances {s : Supervisor} (b : Broker) {point : Failover} {ended : Prop}
    {dialed : List String} {answers : List (Except BrokerError Nat)}
    (hhistory : point.History s.endpoints dialed answers ended) :
    (∃ result, point = .finished result) ∨
      (∃ index last wait, point = .dialing index last wait ∧ b.progress wait ≠ .passed) ∨
      ∃ turn, point.step s b = some turn ∧
        turn.point.turnsLeft s.endpoints.length < point.turnsLeft s.endpoints.length := by
  refine Failover.advances b ?_
  rintro index last wait rfl
  obtain ⟨errors, _, _, hlt, _⟩ := hhistory
  exact hlt

/-! ## Every run -/

theorem dialedBy_concat (t : Nat) (past : List Moment) (m : Moment) :
    dialedBy t (past ++ [m]) = dialedBy t past ++ if m.isTurnOf t then m.dials else [] := by
  unfold dialedBy
  by_cases hturn : m.isTurnOf t <;> simp [hturn]

theorem answersTo_concat (t : Nat) (past : List Moment) (m : Moment) :
    answersTo t (past ++ [m]) =
      answersTo t past ++ if m.isTurnOf t then m.answer?.toList else [] := by
  unfold answersTo
  by_cases hturn : m.isTurnOf t
  · cases hanswer : m.answer? <;> simp [hturn, hanswer]
  · simp [hturn]

namespace Run

variable {w₀ w w' : System} {past more : List Moment}

theorem history_of_new (hrun : Run w more w') {t : Nat} (hle : w'.tasks.length ≤ t) :
    dialedBy t more = [] ∧ answersTo t more = [] := by
  have hnone : more.filter (Moment.isTurnOf t) = [] := by
    simpa using fun m hmem => hrun.isTurnOf_eq_false hle hmem
  simp [dialedBy, answersTo, hnone]

/-- What a connect that has begun meanwhile has dialed is told by its point. -/
theorem connect_history (hrun : Run w more w') {t : Nat} (hnew : w.tasks.length ≤ t)
    {point : Failover} (htask : w'.tasks[t]? = some (.connect point)) :
    point.History w.supervisor.endpoints (dialedBy t more) (answersTo t more)
      (w.supervisor.terminated = true) := by
  induction hrun generalizing point with
  | refl =>
      rw [List.getElem?_eq_none hnew] at htask
      cases htask
  | @snoc more w₁ w₂ what hmore hafter ih =>
      have hchange := System.after_supervisionChange hafter
      rw [dialedBy_concat, answersTo_concat]
      rcases hchange.task_cases htask with ⟨hother, hkept⟩ | ⟨rfl, task, hbefore, hmoved⟩ |
        ⟨rfl, call, rfl, hcall⟩ | ⟨_, hwatcher, _⟩ | hother
      · have hquiet : Moment.isTurnOf t ⟨w₁, what, w₂⟩ = false := by
          cases what <;> simp_all [Moment.isTurnOf]
        simpa [hquiet] using ih hkept
      · cases hmoved with
        | @connect before _ _ _ hadvance hsupervisor hbroker =>
            -- what the broker has recorded in this turn is what the point before it dials
            have hhistory := ih hbefore
            rw [← hmore.lasts.1] at hhistory ⊢
            have hdials : Moment.dials ⟨w₁, .turn t, w₂⟩ = before.dials w₁.supervisor := by
              rw [Moment.dials, hbroker, hadvance.dialLog, List.drop_left]
            simpa [Moment.isTurnOf, hdials, Moment.answer?, hbefore] using
              hadvance.history hmore.lasts.2 hhistory
        | other hother' => cases hother'
      · -- the connect has only just begun
        obtain ⟨hdialed, hanswers⟩ := hmore.history_of_new le_rfl
        cases call <;> cases hcall
        rw [hdialed, hanswers]
        exact ⟨[], ⟨Nat.zero_le _, rfl, rfl⟩, rfl, rfl⟩
      · cases hwatcher
      · cases hother

/-- A connect that has begun meanwhile is at its end, waits for a dial, or comes nearer to its end
with its next turn. -/
theorem connect_advances (hrun : Run w more w') {t : Nat} (hnew : w.tasks.length ≤ t)
    {point : Failover} (htask : w'.tasks[t]? = some (.connect point)) :
    (∃ result, point = .finished result) ∨
      (∃ index last wait, point = .dialing index last wait ∧ w'.broker.progress wait ≠ .passed) ∨
      ∃ w'' point', w'.after? (.turn t) = some w'' ∧ w''.tasks[t]? = some (.connect point') ∧
        point'.turnsLeft w.supervisor.endpoints.length <
          point.turnsLeft w.supervisor.endpoints.length := by
  have hhistory := hrun.connect_history hnew htask
  rw [← hrun.lasts.1] at hhistory ⊢
  rcases hhistory.advances w'.broker with hfinished | hwaits | ⟨turn, hstep, hlt⟩
  · exact .inl hfinished
  · exact .inr (.inl hwaits)
  · obtain ⟨w'', hturn, _, _, htask''⟩ := System.step_of_connect htask hstep
    exact .inr (.inr ⟨w'', turn.point, hturn, htask'', hlt⟩)

end Run

end BrokerClient
