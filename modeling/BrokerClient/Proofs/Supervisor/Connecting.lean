import BrokerClient.Proofs.Supervisor.DialHistory

/-!
# What a connect leaves behind

A connect that is let run, while nothing else happens than what goes on at the broker, ends in one
of three ways: no endpoint has answered and nothing has been touched, or the first connection that
has been got is in the slot and the broker has been asked to close the one before, or the supervisor
has been told to end and the broker has been asked to close what has been got.  `Failover.Course`
says for each point how far that has come, and is kept by every turn.

Nothing is assumed of the system that the connect meets.
-/

namespace BrokerClient

/-! ## Runs of one task -/

/-- Does something go on at the broker at the moment, without the client having asked for it? -/
def Moment.isIncident (m : Moment) : Bool :=
  match m.what with
  | .incident _ => true
  | _ => false

/-- Nothing happens but turns of the task `t` and what goes on at the broker. -/
def Undisturbed (t : Nat) (past : List Moment) : Prop :=
  ∀ m ∈ past, m.isTurnOf t = true ∨ m.isIncident = true

instance (t : Nat) (past : List Moment) : Decidable (Undisturbed t past) :=
  inferInstanceAs (Decidable (∀ m ∈ past, _))

theorem undisturbed_concat {t : Nat} {past : List Moment} {m : Moment} :
    Undisturbed t (past ++ [m]) ↔
      Undisturbed t past ∧ (m.isTurnOf t = true ∨ m.isIncident = true) := by
  simp [Undisturbed, or_imp, forall_and]

/-! ## What one turn writes down -/

/-- The connections that a turn from this point asks to close. -/
def Failover.closes (b : Broker) : Failover → List Nat
  | refusing connection => [connection]
  | replaced _ previous => if b.connectionClosed previous then [] else [previous]
  | _ => []

theorem Failover.Advance.entries {s s' : Supervisor} {b b' : Broker} {point point' : Failover}
    (hadvance : point.Advance s b s' b' point') :
    b'.entries = b.entries ++ (point.dials s).map Broker.Entry.dial ++
      (point.closes b).map Broker.Entry.closeConnection := by
  cases hadvance with
  | dial hendpoint => simp [Failover.dials, Failover.closes, hendpoint]
  | giveUp hend => simp [Failover.dials, Failover.closes, hend]
  | dialNothing hend => simp [Failover.dials, Failover.closes, hend]
  | @reach index _ _ _ _ hwait hdial | @miss index _ _ _ _ hwait hdial =>
      have hentries := b.endDial_entries ((s.endpoints[index]?).getD "")
      rw [hdial] at hentries
      simpa [Failover.dials, Failover.closes] using hentries
  | discard => simp [Failover.dials, Failover.closes]
  | leave hclosed => simp [Failover.dials, Failover.closes, hclosed]
  | close hopen => simp [Failover.dials, Failover.closes, hopen]
  | _ => simp [Failover.dials, Failover.closes]

/-! ## The course of a connect -/

section Course

variable (t : Nat) (s₀ : Supervisor) (more : List Moment) (s : Supervisor)

/-- The connect `t` has got no connection, and has left the supervisor, which was `s₀`, and all
connections as they were. -/
structure OnlyDialed : Prop where
  supervisor : s = s₀
  answers : ∀ c, (answersTo t more).getLast? ≠ some (.ok c)
  connections : ∀ m ∈ more, m.isTurnOf t = true →
    m.after.broker.connections = m.before.broker.connections

/-- The connect `t` has got a connection, which is not in place. -/
structure HasGot (c : Nat) : Prop where
  supervisor : s = s₀
  answer : (answersTo t more).getLast? = some (.ok c)

/-- The connect `t` has got a connection and has put it in the slot. -/
structure HasInstalled (c : Nat) : Prop where
  running : s₀.terminated = false
  supervisor : s = { s₀ with slot := some c }
  answer : (answersTo t more).getLast? = some (.ok c)

/-- The connections that the connect `t` has asked to close after it has filled the slot: the one
before, unless it was closed when the connect looked at it. -/
def ClosesPrevious (closed : List Nat) : Prop :=
  match s₀.slot with
  | none => closed = []
  | some previous => ∃ look ∈ more, look.isTurnOf t = true ∧ look.before.supervisor = s ∧
      closed = if look.before.broker.connectionClosed previous then [] else [previous]

/-- How far a connect has come at a point, and which connections it has asked to close. -/
def Failover.Course (closed : List Nat) : Failover → Prop
  | next _ _ | dialing _ _ _ => OnlyDialed t s₀ more s ∧ closed = []
  | answered _ c => HasGot t s₀ more s c ∧ closed = []
  | refusing c => HasGot t s₀ more s c ∧ s₀.terminated = true ∧ closed = []
  | replaced _ previous =>
    ∃ c, HasInstalled t s₀ more s c ∧ s₀.slot = some previous ∧ closed = []
  | connected _ => ∃ c, HasInstalled t s₀ more s c ∧ ClosesPrevious t s₀ more s closed
  | finished result =>
    (OnlyDialed t s₀ more s ∧ closed = []) ∨
      (∃ c, HasInstalled t s₀ more s c ∧ ClosesPrevious t s₀ more s closed ∧ result = .ok ()) ∨
      ∃ c, HasGot t s₀ more s c ∧ s₀.terminated = true ∧ closed = [c] ∧
        result = .error .terminated

end Course

variable {t : Nat} {s₀ s : Supervisor} {more : List Moment} {closed : List Nat}

theorem OnlyDialed.concat {m : Moment} (honly : OnlyDialed t s₀ more s)
    (hanswers : ∀ c, (answersTo t (more ++ [m])).getLast? ≠ some (.ok c))
    (hconnections : m.isTurnOf t = true →
      m.after.broker.connections = m.before.broker.connections) :
    OnlyDialed t s₀ (more ++ [m]) s := by
  refine ⟨honly.supervisor, hanswers, fun m' hmem => ?_⟩
  rcases List.mem_append.mp hmem with hold | hnew
  · exact honly.connections m' hold
  · rw [List.mem_singleton.mp hnew]
    exact hconnections

theorem ClosesPrevious.concat {m : Moment} (hcloses : ClosesPrevious t s₀ more s closed) :
    ClosesPrevious t s₀ (more ++ [m]) s closed := by
  unfold ClosesPrevious at hcloses ⊢
  split
  · rename_i hslot
    simpa [hslot] using hcloses
  · rename_i previous hslot
    simp only [hslot] at hcloses
    obtain ⟨look, hmem, hlook⟩ := hcloses
    exact ⟨look, List.mem_append_left _ hmem, hlook⟩

/-- What brings no answer to the connect and is not its turn leaves it where it is. -/
theorem Failover.Course.concat {m : Moment} {point : Failover}
    (hcourse : point.Course t s₀ more s closed) (hother : m.isTurnOf t = false) :
    point.Course t s₀ (more ++ [m]) s closed := by
  have hanswers : answersTo t (more ++ [m]) = answersTo t more := by
    simp [answersTo_concat, hother]
  have honly (h : OnlyDialed t s₀ more s) : OnlyDialed t s₀ (more ++ [m]) s :=
    h.concat (hanswers ▸ h.answers) (by simp [hother])
  have hgot {c : Nat} (h : HasGot t s₀ more s c) : HasGot t s₀ (more ++ [m]) s c :=
    ⟨h.supervisor, hanswers ▸ h.answer⟩
  have hinstalled {c : Nat} (h : HasInstalled t s₀ more s c) :
      HasInstalled t s₀ (more ++ [m]) s c :=
    ⟨h.running, h.supervisor, hanswers ▸ h.answer⟩
  cases point with
  | next | dialing => exact hcourse.imp_left honly
  | answered | refusing => exact hcourse.imp_left hgot
  | replaced => exact hcourse.imp fun c => And.imp_left hinstalled
  | connected => exact hcourse.imp fun c => And.imp hinstalled .concat
  | finished =>
      exact hcourse.imp (And.imp_left honly)
        (Or.imp (Exists.imp fun c => And.imp hinstalled (And.imp_left .concat))
          (Exists.imp fun c => And.imp_left hgot))

/-- A turn that keeps the connections and brings no connection only dials. -/
private theorem OnlyDialed.turn {w w' : System} {answer : Option (Except BrokerError Nat)}
    (honly : OnlyDialed t s₀ more s)
    (hanswers : answersTo t (more ++ [⟨w, .turn t, w'⟩]) = answersTo t more ++ answer.toList)
    (hanswer : ∀ c, answer ≠ some (.ok c))
    (hconnections : w'.broker.connections = w.broker.connections) :
    OnlyDialed t s₀ (more ++ [⟨w, .turn t, w'⟩]) s := by
  refine honly.concat (fun c => ?_) fun _ => hconnections
  rw [hanswers]
  cases answer with
  | none => simpa using honly.answers c
  | some answer => simpa using hanswer c

/-- Each turn of a connect takes it further on its course. -/
theorem Failover.Advance.course {w w' : System} {s' : Supervisor} {b' : Broker}
    {point point' : Failover} (hadvance : point.Advance w.supervisor w.broker s' b' point')
    (hsupervisor : w'.supervisor = s') (hbroker : w'.broker = b')
    (htask : w.tasks[t]? = some (.connect point))
    (hcourse : point.Course t s₀ more w.supervisor closed) :
    point'.Course t s₀ (more ++ [⟨w, .turn t, w'⟩]) s' (closed ++ point.closes w.broker) := by
  have hturn : Moment.isTurnOf t ⟨w, .turn t, w'⟩ = true := by simp [Moment.isTurnOf]
  have hanswers : answersTo t (more ++ [⟨w, .turn t, w'⟩]) =
      answersTo t more ++ (point.answer? w.supervisor w.broker).toList := by
    simp [answersTo_concat, hturn, Moment.answer?, htask]
  cases hadvance with
  | dial hendpoint =>
      obtain ⟨honly, rfl⟩ := hcourse
      exact ⟨honly.turn hanswers (by simp [answer?]) (by rw [hbroker]; rfl), rfl⟩
  | giveUp hend | dialNothing hend =>
      obtain ⟨honly, rfl⟩ := hcourse
      exact .inl ⟨honly.turn hanswers (by simp [answer?]) (by rw [hbroker]), rfl⟩
  | wait hwait =>
      obtain ⟨honly, rfl⟩ := hcourse
      exact ⟨honly.turn hanswers (by simp [answer?, hwait]) (by rw [hbroker]), rfl⟩
  | @reach index connection _ _ _ hwait hdial =>
      obtain ⟨honly, rfl⟩ := hcourse
      exact ⟨⟨honly.supervisor, by simp [hanswers, answer?, hwait, hdial]⟩, rfl⟩
  | miss hwait hdial =>
      obtain ⟨honly, rfl⟩ := hcourse
      exact ⟨honly.turn hanswers (by simp [answer?, hwait, hdial])
        (by rw [hbroker, (Broker.endDial_error hdial).connections]), rfl⟩
  | refuse hterminated =>
      obtain ⟨hgot, rfl⟩ := hcourse
      exact ⟨⟨hgot.supervisor, by simpa [hanswers, answer?] using hgot.answer⟩,
        hgot.supervisor ▸ hterminated, rfl⟩
  | fill hterminated hslot =>
      obtain ⟨hgot, rfl⟩ := hcourse
      refine ⟨_, ⟨hgot.supervisor ▸ hterminated, by rw [hgot.supervisor],
        by simpa [hanswers, answer?] using hgot.answer⟩, ?_⟩
      rw [hgot.supervisor] at hslot
      simp [ClosesPrevious, hslot, closes]
  | replace hterminated hslot =>
      obtain ⟨hgot, rfl⟩ := hcourse
      exact ⟨_, ⟨hgot.supervisor ▸ hterminated, by rw [hgot.supervisor],
        by simpa [hanswers, answer?] using hgot.answer⟩, hgot.supervisor ▸ hslot, rfl⟩
  | discard =>
      obtain ⟨hgot, hterminated, rfl⟩ := hcourse
      exact .inr (.inr ⟨_, ⟨hgot.supervisor, by simpa [hanswers, answer?] using hgot.answer⟩,
        hterminated, rfl, rfl⟩)
  | leave hclosed =>
      obtain ⟨c, hinstalled, hslot, rfl⟩ := hcourse
      refine ⟨c, ⟨hinstalled.running, hinstalled.supervisor,
        by simpa [hanswers, answer?] using hinstalled.answer⟩, ?_⟩
      simp only [ClosesPrevious, hslot]
      exact ⟨⟨w, .turn t, w'⟩, by simp, hturn, rfl, by simp [closes, hclosed]⟩
  | close hopen =>
      obtain ⟨c, hinstalled, hslot, rfl⟩ := hcourse
      refine ⟨c, ⟨hinstalled.running, hinstalled.supervisor,
        by simpa [hanswers, answer?] using hinstalled.answer⟩, ?_⟩
      simp only [ClosesPrevious, hslot]
      exact ⟨⟨w, .turn t, w'⟩, by simp, hturn, rfl, by simp [closes, hopen]⟩
  | succeed =>
      obtain ⟨c, hinstalled, hcloses⟩ := hcourse
      refine .inr (.inl ⟨c, ⟨hinstalled.running, hinstalled.supervisor,
        by simpa [hanswers, answer?] using hinstalled.answer⟩, ?_, rfl⟩)
      simpa [closes] using hcloses.concat

/-- A connect that has asked to close something dials no more. -/
theorem Failover.Course.dials_or_closed {point : Failover}
    (hcourse : point.Course t s₀ more s closed) (s' : Supervisor) :
    point.dials s' = [] ∨ closed = [] := by
  cases point with
  | next => exact .inr hcourse.2
  | _ => exact .inl rfl

/-! ## Every run -/

namespace Run

variable {w w' : System}

/-- How far a connect that is let run has come, and what it has written down. -/
theorem connect_course (hmore : Run (w.called .connect) more w')
    (halone : Undisturbed w.tasks.length more) :
    ∃ (point : Failover) (closed : List Nat), w'.tasks[w.tasks.length]? = some (.connect point) ∧
      point.Course w.tasks.length w.supervisor more w'.supervisor closed ∧
      w'.broker.entries = w.broker.entries ++
        (dialedBy w.tasks.length more).map Broker.Entry.dial ++
        closed.map Broker.Entry.closeConnection := by
  induction hmore with
  | refl =>
      refine ⟨.start, [], by simp [System.called, System.spawn, System.taskOf], ?_,
        by simp [dialedBy, System.called, System.spawn]⟩
      exact ⟨⟨rfl, by simp [answersTo], by simp⟩, rfl⟩
  | @snoc more w₁ w₂ what hmore hafter ih =>
      obtain ⟨hbefore, hwhat⟩ := undisturbed_concat.mp halone
      obtain ⟨point, closed, htask, hcourse, hentries⟩ := ih hbefore
      have hchange := System.after_supervisionChange hafter
      cases what with
      | turn u =>
          obtain rfl : u = w.tasks.length := by
            simpa [Moment.isTurnOf, Moment.isIncident] using hwhat
          cases hchange.of_turn with
          | connect hfound hadvance hsupervisor hbroker htasks =>
              cases htask.symm.trans hfound
              refine ⟨_, _, by rw [htasks]; exact task_set_self htask,
                hsupervisor ▸ hadvance.course hsupervisor hbroker htask hcourse, ?_⟩
              have hdials : Moment.dials ⟨w₁, .turn w.tasks.length, w₂⟩ =
                  point.dials w₁.supervisor := by
                rw [Moment.dials, hbroker, hadvance.dialLog, List.drop_left]
              rw [hbroker, hadvance.entries, hentries, dialedBy_concat, hdials]
              rcases hcourse.dials_or_closed w₁.supervisor with hnone | rfl
              · simp [hnone]
              · simp [Moment.isTurnOf]
          | start hfound => cases htask.symm.trans hfound
          | shutdown hfound => cases htask.symm.trans hfound
          | watcher hfound => cases htask.symm.trans hfound
          | other hfound hother =>
              cases htask.symm.trans hfound
              cases hother
      | incident incident =>
          have hother : Moment.isTurnOf w.tasks.length ⟨w₁, .incident incident, w₂⟩ = false := rfl
          cases hafter
          refine ⟨point, closed, htask, hcourse.concat hother, ?_⟩
          rw [dialedBy_concat, hother]
          simpa [System.atBroker, Broker.after_entries] using hentries
      | _ => simp [Moment.isTurnOf, Moment.isIncident] at hwhat

end Run

/-! ## The end of a connect -/

/-- How a connect that was called at `w` has ended at `w'`. -/
inductive ConnectEnds (w : System) (more : List Moment) (w' : System) :
    Except BrokerError Unit → Prop
  /-- All endpoints have been dialed and have failed.  Nothing else has been asked for, and no turn
  has touched the supervisor or a connection. -/
  | failed {errors : List BrokerError}
      (htried : Tried w.supervisor.endpoints (dialedBy w.tasks.length more)
        (answersTo w.tasks.length more) errors)
      (hlength : errors.length = w.supervisor.endpoints.length)
      (honly : OnlyDialed w.tasks.length w.supervisor more w'.supervisor)
      (hentries : w'.broker.entries =
        w.broker.entries ++ w.supervisor.endpoints.map Broker.Entry.dial) :
      ConnectEnds w more w' (failureResult errors)
  /-- The endpoints up to the first that answers have been dialed.  Its connection is in the slot,
  and the broker has been asked to close the one before if that was still open. -/
  | installed {errors : List BrokerError} {c : Nat} {closed : List Nat}
      (hrunning : w.supervisor.terminated = false)
      (hlt : errors.length < w.supervisor.endpoints.length)
      (hdialed : dialedBy w.tasks.length more = w.supervisor.endpoints.take (errors.length + 1))
      (hanswers : answersTo w.tasks.length more = errors.map .error ++ [.ok c])
      (hsupervisor : w'.supervisor = { w.supervisor with slot := some c })
      (hcloses : ClosesPrevious w.tasks.length w.supervisor more w'.supervisor closed)
      (hentries : w'.broker.entries = w.broker.entries ++
        (w.supervisor.endpoints.take (errors.length + 1)).map Broker.Entry.dial ++
        closed.map Broker.Entry.closeConnection) : ConnectEnds w more w' (.ok ())
  /-- The end has been signalled.  The endpoints up to the first that answers have been dialed, and
  the broker has been asked to close its connection. -/
  | refused {errors : List BrokerError} {c : Nat} (hterminated : w.supervisor.terminated = true)
      (hlt : errors.length < w.supervisor.endpoints.length)
      (hdialed : dialedBy w.tasks.length more = w.supervisor.endpoints.take (errors.length + 1))
      (hanswers : answersTo w.tasks.length more = errors.map .error ++ [.ok c])
      (hsupervisor : w'.supervisor = w.supervisor)
      (hentries : w'.broker.entries = w.broker.entries ++
        (w.supervisor.endpoints.take (errors.length + 1)).map Broker.Entry.dial ++
        [.closeConnection c]) : ConnectEnds w more w' (.error .terminated)

/-- The result of a connect by the answers to its dials, and whether the end has been signalled. -/
def connectResult (terminated : Bool) (answers : List (Except BrokerError Nat)) :
    Except BrokerError Unit :=
  match answers.getLast? with
  | none => .ok ()
  | some (.error e) => .error e
  | some (.ok _) => if terminated then .error .terminated else .ok ()

theorem ConnectEnds.result_eq {w w' : System} {result : Except BrokerError Unit}
    (hends : ConnectEnds w more w' result) :
    result = connectResult w.supervisor.terminated (answersTo w.tasks.length more) := by
  cases hends with
  | @failed errors htried =>
      rw [htried.answers_eq, failureResult, connectResult, List.getLast?_map]
      cases errors.getLast? <;> rfl
  | installed hrunning hlt hdialed hanswers => simp [connectResult, hanswers, hrunning]
  | refused hterminated hlt hdialed hanswers => simp [connectResult, hanswers, hterminated]

namespace Run

variable {w w' : System}

theorem cons_call (call : Call) (hmore : Run (w.called call) more w') :
    Run w (⟨w, .call call, w.called call⟩ :: more) w' :=
  .cons rfl hmore

theorem called_history (hmore : Run (w.called .connect) more w') {point : Failover}
    (htask : w'.tasks[w.tasks.length]? = some (.connect point)) :
    point.History w.supervisor.endpoints (dialedBy w.tasks.length more)
      (answersTo w.tasks.length more) (w.supervisor.terminated = true) :=
  -- the call itself is nobody's turn
  (hmore.cons_call .connect).connect_history le_rfl htask

theorem connectEnds (hmore : Run (w.called .connect) more w')
    (halone : Undisturbed w.tasks.length more) {result : Except BrokerError Unit}
    (htask : w'.tasks[w.tasks.length]? = some (.connect (.finished result))) :
    ConnectEnds w more w' result := by
  obtain ⟨point, closed, hfound, hcourse, hentries⟩ := hmore.connect_course halone
  cases htask.symm.trans hfound
  -- what the dials have brought decides which of the three it is
  rcases hmore.called_history htask with ⟨⟨errors, c, hlt, hdialed, hanswers⟩, _⟩ |
    ⟨errors, htried, hlength, rfl⟩
  · have hlast : (answersTo w.tasks.length more).getLast? = some (.ok c) := by simp [hanswers]
    rw [hdialed] at hentries
    rcases hcourse with ⟨honly, _⟩ | ⟨c', hinstalled, hcloses, rfl⟩ |
      ⟨c', hgot, hterminated, rfl, rfl⟩
    · exact absurd hlast (honly.answers c)
    · obtain rfl : c' = c := by simpa using hinstalled.answer.symm.trans hlast
      exact .installed hinstalled.running hlt hdialed hanswers hinstalled.supervisor hcloses
        hentries
    · obtain rfl : c' = c := by simpa using hgot.answer.symm.trans hlast
      exact .refused hterminated hlt hdialed hanswers hgot.supervisor hentries
  · have hlast (c : Nat) : (answersTo w.tasks.length more).getLast? ≠ some (.ok c) := by
      rw [htried.answers_eq, List.getLast?_map]
      cases errors.getLast? <;> simp
    rcases hcourse with ⟨honly, rfl⟩ | ⟨c, hinstalled, _⟩ | ⟨c, hgot, _⟩
    · refine .failed htried hlength honly ?_
      simpa [htried.dialed_eq, hlength] using hentries
    · exact absurd hinstalled.answer (hlast c)
    · exact absurd hgot.answer (hlast c)

end Run

/-- What a connect that was called at `w` has done when it is at a point. -/
structure Connects (w : System) (more : List Moment) (w' : System) (point : Failover) : Prop where
  task : w'.tasks[w.tasks.length]? = some (.connect point)
  /-- It is at its end, waits for a dial, or comes nearer to its end with its next turn. -/
  advances : (∃ result, point = .finished result) ∨
    (∃ index last wait, point = .dialing index last wait ∧ w'.broker.progress wait ≠ .passed) ∨
    ∃ w'' point', w'.after? (.turn w.tasks.length) = some w'' ∧
      w''.tasks[w.tasks.length]? = some (.connect point') ∧
      point'.turnsLeft w.supervisor.endpoints.length <
        point.turnsLeft w.supervisor.endpoints.length
  ends : ∀ result, point = .finished result → ConnectEnds w more w' result
  /-- No close has a say in the result. -/
  result : ∀ result, point = .finished result →
    result = connectResult w.supervisor.terminated (answersTo w.tasks.length more)
  /-- Without endpoints nothing is dialed, and nothing is changed. -/
  empty : w.supervisor.endpoints = [] → ∀ result, point = .finished result → result = .ok () ∧
    OnlyDialed w.tasks.length w.supervisor more w'.supervisor ∧
    w'.broker.entries = w.broker.entries

/-- Whatever system a connect meets, and whatever the dials and the closes come to. -/
theorem Run.connect_connects {w w' : System} {more : List Moment}
    (hmore : Run (w.called .connect) more w') (halone : Undisturbed w.tasks.length more) :
    ∃ point, Connects w more w' point := by
  obtain ⟨point, closed, htask, -, -⟩ := hmore.connect_course halone
  have hends (result : Except BrokerError Unit) (hpoint : point = .finished result) :
      ConnectEnds w more w' result := by
    subst hpoint
    exact hmore.connectEnds halone htask
  refine ⟨point, htask, (hmore.cons_call .connect).connect_advances le_rfl htask, hends,
    fun result hpoint => (hends result hpoint).result_eq, fun hempty result hpoint => ?_⟩
  cases hends result hpoint with
  | @failed errors htried hlength honly hentries =>
      obtain rfl : errors = [] := List.length_eq_zero_iff.mp (by rw [hlength, hempty]; rfl)
      exact ⟨rfl, honly, by simpa [hempty] using hentries⟩
  | installed hrunning hlt => simp [hempty] at hlt
  | refused hterminated hlt => simp [hempty] at hlt

/-- A client whose connection is open, and whose first endpoint cannot be reached any more; the next
close is going to fail. -/
def withOpenConnection : System :=
  { System.single with
    broker :=
      { reachable := ["amqp://b", "amqp://c"]
        connections := [⟨"amqp://a", .new⟩]
        failures := [(.closeConnection, .unknown "gone")] }
    supervisor := { endpoints := ["amqp://a", "amqp://b", "amqp://c"], slot := some 0 } }

theorem withOpenConnection_connects :
    let played := (withOpenConnection.called .connect).played (List.replicate 7 (.turn 0))
    ConnectEnds withOpenConnection played.1 played.2 (.ok ()) ∧
      played.2.supervisor.slot = some 1 ∧
      played.2.broker.entries = [.dial "amqp://a", .dial "amqp://b", .closeConnection 0] := by
  intro played
  obtain ⟨point, hconnects⟩ :=
    ((withOpenConnection.called .connect).run_played (List.replicate 7 (.turn 0))).connect_connects
      (w := withOpenConnection) (by decide)
  have hfinished : played.2.tasks[0]? = some (.connect (.finished (.ok ()))) := rfl
  cases hfinished.symm.trans hconnects.task
  exact ⟨hconnects.ends _ rfl, rfl, rfl⟩

end BrokerClient
