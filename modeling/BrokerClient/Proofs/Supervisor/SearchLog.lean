import BrokerClient.Proofs.Supervisor.Lifecycle

/-!
# The searches of a watcher, as a list

What a watcher does while it looks for a connection is written as a list of events: a dial, what
has come of it, a rest, and in the end the connection that is watched from then on.  A `Search` says
what has come of every dial of a search that is done, and so determines its events; a `SearchStage`
does the same for one that is under way.
-/

namespace BrokerClient

/-! ## What a watcher does, as a list -/

/-- What a watcher does in its turns, as far as it can be seen from outside. -/
inductive SearchEvent
  | dial (endpoint : String)
  | answer (result : Except BrokerError Nat)
  | rest (millis : Nat)
  | watch (connection : Nat)

namespace SearchEvent

def dialed? : SearchEvent → Option String
  | dial endpoint => some endpoint
  | _ => none

def rested? : SearchEvent → Option Nat
  | rest millis => some millis
  | _ => none

end SearchEvent

/-- What a failover does when it goes from one point to another. -/
def Failover.event? (s : Supervisor) : Failover → Failover → Option SearchEvent
  | next index _, dialing _ _ _ => some (.dial ((s.endpoints[index]?).getD ""))
  | dialing _ _ _, answered _ connection => some (.answer (.ok connection))
  | dialing _ _ _, next _ (some e) => some (.answer (.error e))
  | _, _ => none

/-- What a watcher does when it goes from one point to another. -/
def Watcher.event? (s : Supervisor) (b : Broker) : Watcher → Watcher → Option SearchEvent
  | reconnecting _ failover, reconnecting _ failover' => failover.event? s failover'
  | reconnecting _ _, resting _ time => some (.rest (time - b.clock))
  | looking, watching connection => some (.watch connection)
  | _, _ => none

/-- What the watcher `t` does at a moment. -/
def Moment.searchEvent? (t : Nat) (m : Moment) : Option SearchEvent :=
  if m.isTurnOf t then
    match m.before.tasks[t]?, m.after.tasks[t]? with
    | some (.watcher point), some (.watcher point') =>
      point.event? m.before.supervisor m.before.broker point'
    | _, _ => none
  else none

/-- What the watcher `t` has done. -/
def searchLog (t : Nat) (past : List Moment) : List SearchEvent :=
  past.filterMap (Moment.searchEvent? t)

theorem searchLog_concat (t : Nat) (past : List Moment) (m : Moment) :
    searchLog t (past ++ [m]) = searchLog t past ++ (m.searchEvent? t).toList :=
  filterMap_concat _ past m

/-! ## Searches -/

/-- A search that has come to its end: the errors of each round that has failed, those of the last
round, and the connection that it has brought. -/
structure Search where
  failed : List (List BrokerError)
  misses : List BrokerError
  connection : Nat

/-- How far a search has come; `errors` are those of the round under way. -/
inductive SearchStage
  /-- There is no search. -/
  | settled
  | seeking (failed : List (List BrokerError)) (errors : List BrokerError)
  | dialing (failed : List (List BrokerError)) (errors : List BrokerError)
  | found (failed : List (List BrokerError)) (errors : List BrokerError) (connection : Nat)

section Searches

variable (endpoints : List String) (delay : Nat)

/-- The first endpoints are dialed and fail with these errors. -/
def missedEvents (errors : List BrokerError) : List SearchEvent :=
  (endpoints.zip errors).flatMap fun (endpoint, e) => [.dial endpoint, .answer (.error e)]

/-- Rounds that fail, each followed by a rest. -/
def roundEvents (failed : List (List BrokerError)) : List SearchEvent :=
  failed.flatMap fun errors => missedEvents endpoints errors ++ [.rest delay]

namespace SearchStage

def events : SearchStage → List SearchEvent
  | settled => []
  | seeking failed errors => roundEvents endpoints delay failed ++ missedEvents endpoints errors
  | dialing failed errors =>
    roundEvents endpoints delay failed ++ missedEvents endpoints errors ++
      [.dial ((endpoints[errors.length]?).getD "")]
  | found failed errors connection =>
    roundEvents endpoints delay failed ++ missedEvents endpoints errors ++
      [.dial ((endpoints[errors.length]?).getD ""), .answer (.ok connection)]

/-- A round fails only after the last endpoint. -/
def Fits : SearchStage → Prop
  | settled => True
  | seeking failed errors =>
    (∀ round ∈ failed, round.length = endpoints.length) ∧ errors.length ≤ endpoints.length
  | dialing failed errors | found failed errors _ =>
    (∀ round ∈ failed, round.length = endpoints.length) ∧ errors.length < endpoints.length

/-- Whole rounds, and the first endpoints of the one under way. -/
def dials : SearchStage → List String
  | settled => []
  | seeking failed errors =>
    (List.replicate failed.length endpoints).flatten ++ endpoints.take errors.length
  | dialing failed errors | found failed errors _ =>
    (List.replicate failed.length endpoints).flatten ++ endpoints.take (errors.length + 1)

end SearchStage

namespace Search

/-- The stage before the new connection is watched. -/
def lastStage (search : Search) : SearchStage :=
  .found search.failed search.misses search.connection

def events (search : Search) : List SearchEvent :=
  search.lastStage.events endpoints delay ++ [.watch search.connection]

def Fits (search : Search) : Prop :=
  search.lastStage.Fits endpoints

/-- A copy of the whole list for each round that has failed, and the list up to the first endpoint
that has answered. -/
def dials (search : Search) : List String :=
  search.lastStage.dials endpoints

end Search

variable {endpoints}

theorem missedEvents_concat {errors : List BrokerError} {endpoint : String} {e : BrokerError}
    (hendpoint : endpoints[errors.length]? = some endpoint) :
    missedEvents endpoints (errors ++ [e]) =
      missedEvents endpoints errors ++ [.dial endpoint, .answer (.error e)] := by
  induction errors generalizing endpoints with
  | nil =>
      cases endpoints with
      | nil => cases hendpoint
      | cons first endpoints =>
          obtain rfl : first = endpoint := by simpa using hendpoint
          simp [missedEvents]
  | cons error errors ih =>
      cases endpoints with
      | nil => cases hendpoint
      | cons first endpoints =>
          have hnext : endpoints[errors.length]? = some endpoint := by simpa using hendpoint
          simpa [missedEvents] using ih hnext

theorem roundEvents_concat (failed : List (List BrokerError)) (errors : List BrokerError) :
    roundEvents endpoints delay (failed ++ [errors]) =
      roundEvents endpoints delay failed ++ missedEvents endpoints errors ++ [.rest delay] := by
  simp [roundEvents]

theorem missedEvents_dialed {errors : List BrokerError} (hle : errors.length ≤ endpoints.length) :
    (missedEvents endpoints errors).filterMap SearchEvent.dialed? =
      endpoints.take errors.length := by
  induction errors generalizing endpoints with
  | nil => simp [missedEvents]
  | cons error errors ih =>
      cases endpoints with
      | nil => simp at hle
      | cons first endpoints =>
          have hrest : errors.length ≤ endpoints.length := by simpa using hle
          simpa [missedEvents, List.filterMap_cons, SearchEvent.dialed?] using ih hrest

theorem missedEvents_rested (errors : List BrokerError) :
    (missedEvents endpoints errors).filterMap SearchEvent.rested? = [] := by
  simp [missedEvents, List.filterMap_flatMap, SearchEvent.rested?]

theorem roundEvents_dialed {failed : List (List BrokerError)}
    (hfailed : ∀ round ∈ failed, round.length = endpoints.length) :
    (roundEvents endpoints delay failed).filterMap SearchEvent.dialed? =
      (List.replicate failed.length endpoints).flatten := by
  induction failed with
  | nil => rfl
  | cons errors failed ih =>
      simp only [List.mem_cons, forall_eq_or_imp] at hfailed
      have hround := missedEvents_dialed hfailed.1.le
      rw [hfailed.1, List.take_length] at hround
      have hrest := ih hfailed.2
      simp only [roundEvents, List.flatMap_cons, List.filterMap_append] at hrest ⊢
      rw [hrest, hround]
      simp [SearchEvent.dialed?, List.replicate_succ]

theorem roundEvents_rested (failed : List (List BrokerError)) :
    (roundEvents endpoints delay failed).filterMap SearchEvent.rested? =
      List.replicate failed.length delay := by
  induction failed with
  | nil => rfl
  | cons errors failed ih =>
      simp only [roundEvents, List.flatMap_cons, List.filterMap_append] at ih ⊢
      rw [ih, missedEvents_rested]
      simp [SearchEvent.rested?, List.replicate_succ]

/-- The endpoints of a stage are dialed in the order of the list, round after round. -/
theorem SearchStage.events_dialed {stage : SearchStage} (hfits : stage.Fits endpoints) :
    (stage.events endpoints delay).filterMap SearchEvent.dialed? = stage.dials endpoints := by
  cases stage with
  | settled => rfl
  | seeking failed errors =>
      simp [events, dials, roundEvents_dialed delay hfits.1, missedEvents_dialed hfits.2]
  | dialing failed errors | found failed errors connection =>
      obtain ⟨hfailed, hlt⟩ := hfits
      have hnext := List.getElem?_eq_getElem hlt
      simp only [events, dials, List.filterMap_append, roundEvents_dialed delay hfailed,
        missedEvents_dialed hlt.le, List.take_add_one, hnext]
      simp [List.filterMap_cons, SearchEvent.dialed?]

@[inherit_doc SearchStage.events_dialed]
theorem Search.events_dialed {search : Search} (hfits : search.Fits endpoints) :
    (search.events endpoints delay).filterMap SearchEvent.dialed? = search.dials endpoints := by
  rw [events, List.filterMap_append, SearchStage.events_dialed delay hfits]
  simp [SearchEvent.dialed?, dials]

/-- Between two rounds there is one rest. -/
theorem Search.events_rested (search : Search) :
    (search.events endpoints delay).filterMap SearchEvent.rested? =
      List.replicate search.failed.length delay := by
  simp [events, lastStage, SearchStage.events, roundEvents_rested, missedEvents_rested,
    SearchEvent.rested?]

/-- A round that has failed ends with its last error. -/
theorem missedEvents_getLast? {errors : List BrokerError} {e : BrokerError}
    (hle : errors.length ≤ endpoints.length) (hlast : errors.getLast? = some e) :
    (missedEvents endpoints errors).getLast? = some (.answer (.error e)) := by
  obtain ⟨earlier, rfl⟩ := List.getLast?_eq_some_iff.mp hlast
  have hlt : earlier.length < endpoints.length := by simpa [Nat.succ_le_iff] using hle
  rw [missedEvents_concat (List.getElem?_eq_getElem hlt)]
  simp

/-- Every stage is on the way to the end of a search. -/
theorem SearchStage.Fits.exists_search {stage : SearchStage} (hfits : stage.Fits endpoints)
    (hnonempty : endpoints ≠ []) :
    ∃ search : Search, search.Fits endpoints ∧
      stage.events endpoints delay <+: search.events endpoints delay := by
  have hpos : 0 < endpoints.length := List.length_pos_iff.mpr hnonempty
  cases stage with
  | settled => exact ⟨⟨[], [], 0⟩, ⟨by simp, hpos⟩, List.nil_prefix⟩
  | seeking failed errors =>
      obtain ⟨hfailed, hle⟩ := hfits
      rcases hle.lt_or_eq with hlt | heq
      · exact ⟨⟨failed, errors, 0⟩, ⟨hfailed, hlt⟩,
          by simp [Search.events, Search.lastStage, events]⟩
      · refine ⟨⟨failed ++ [errors], [], 0⟩, ⟨?_, hpos⟩, ?_⟩
        · intro round hmem
          exact (List.mem_append.mp hmem).elim (hfailed round) fun hnew =>
            (List.mem_singleton.mp hnew) ▸ heq
        · simp [Search.events, Search.lastStage, events, roundEvents_concat]
  | dialing failed errors =>
      exact ⟨⟨failed, errors, 0⟩, hfits, by simp [Search.events, Search.lastStage, events]⟩
  | found failed errors c => exact ⟨⟨failed, errors, c⟩, hfits, List.prefix_append _ _⟩

end Searches

end BrokerClient
