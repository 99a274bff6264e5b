import BrokerClient.Proofs.Broker.Orphans

/-!
# Requests under way

`Traffic` is a broker with the requests that have been made of it.  It knows nothing of who makes
them: a run is any list of moves, so that what is proved of every run holds for every client and
for every interleaving.  That a system is such a client is `Run.isTraffic`.

A request that takes time is late when that which it is made on has been closed.  None is late at
its begin (`Broker.begun_onTime`), since late ones are refused there.
-/

namespace BrokerClient

namespace Broker

/-! ## Requests -/

/-- A request that takes time. -/
inductive LongRequest
  | dial (endpoint : String)
  | openChannel (connection : Nat)
  | publish (publication : Publication)

/-- A request that is answered at once. -/
inductive ShortRequest
  | closeConnection (connection : Nat)
  | closeChannel (channel : Nat)
  | qos (channel : Nat) (prefetch : Prefetch)
  | consume (request : SubscribeRequest)
  | receive (subscription : Nat)
  | hangUp (subscription : Nat)
  | settle (tag : UInt64) (settlement : Settlement)

theorem eq_ok_of_toOption {ε α : Type} {result : Except ε α} {a : α}
    (hresult : result.toOption = some a) : result = .ok a := by
  cases result with
  | ok value => exact congrArg _ (Option.some.inj hresult)
  | error e => cases hresult

/-- The begin of a request: the broker after it, and what the request then waits for, unless it has
been refused. -/
def begun (b : Broker) : LongRequest → Broker × Option Wait
  | .dial endpoint => ((b.beginDial endpoint).1, some (b.beginDial endpoint).2)
  | .openChannel connection => ((b.beginOpen connection).1, (b.beginOpen connection).2.toOption)
  | .publish publication =>
    ((b.beginPublish publication.channel).1, (b.beginPublish publication.channel).2.toOption)

/-- The broker after the end of a request. -/
def ended (b : Broker) : LongRequest → Broker
  | .dial endpoint => (b.endDial endpoint).1
  | .openChannel connection => (b.endOpen connection).1
  | .publish publication => b.endPublish publication

/-- The broker after the answer to a request. -/
def answered (b : Broker) : ShortRequest → Broker
  | .closeConnection connection => (b.closeConnection connection).1
  | .closeChannel channel => (b.closeChannel channel).1
  | .qos channel prefetch => (b.qos channel prefetch).1
  | .consume request => (b.consume request).1
  | .receive subscription => ((b.receive subscription).map Prod.fst).getD b
  | .hangUp subscription => b.hangUp subscription
  | .settle tag settlement => (b.settle tag settlement).1

namespace LongRequest

/-- Has that which the request is made on been closed? -/
def isLate (b : Broker) : LongRequest → Bool
  | dial _ => false
  | openChannel connection => b.connectionClosed connection
  | publish publication => b.channelClosed publication.channel

/-- Does that which the request is made on exist? -/
def IsFounded (b : Broker) : LongRequest → Prop
  | dial _ => True
  | openChannel connection => connection < b.connections.length
  | publish publication => publication.channel < b.channels.length

/-- The connection that a channel is opened on at the end of the request. -/
def opens? : LongRequest → Option Nat
  | openChannel connection => some connection
  | _ => none

/-- The message that is taken at the end of the request. -/
def sends? : LongRequest → Option Publication
  | publish publication => some publication
  | _ => none

variable {b b' : Broker} {asked : LongRequest}

theorem opens?_eq_some {connection : Nat} :
    asked.opens? = some connection ↔ asked = openChannel connection := by
  cases asked <;> simp [opens?]

theorem sends?_eq_some {publication : Publication} :
    asked.sends? = some publication ↔ asked = publish publication := by
  cases asked <;> simp [sends?]

theorem isFounded_of_onTime (honTime : asked.isLate b = false) : asked.IsFounded b := by
  cases asked with
  | dial endpoint => trivial
  | openChannel connection => exact lt_length_of_open honTime
  | publish publication => exact lt_length_of_channelOpen honTime

theorem IsFounded.mono (hfounded : asked.IsFounded b) (hkeeps : b.KeepsClosed b') :
    asked.IsFounded b' := by
  cases asked with
  | dial endpoint => trivial
  | openChannel connection => exact Nat.lt_of_lt_of_le hfounded hkeeps.length_le
  | publish publication => exact Nat.lt_of_lt_of_le hfounded hkeeps.channels.length_le

/-- A request that is late stays late. -/
theorem IsFounded.isLate_mono (hfounded : asked.IsFounded b) (hkeeps : b.KeepsClosed b')
    (hlate : asked.isLate b = true) : asked.isLate b' = true := by
  cases asked with
  | dial endpoint => cases hlate
  | openChannel connection => exact hkeeps.closed connection hfounded hlate
  | publish publication => exact hkeeps.channels.closed publication.channel hfounded hlate

end LongRequest

section Requests

variable (b : Broker)

theorem begun_addsNothing (asked : LongRequest) : b.AddsNothing (b.begun asked).1 := by
  cases asked with
  | dial endpoint => exact b.beginDial_addsNothing endpoint
  | openChannel connection => exact b.beginOpen_addsNothing connection
  | publish publication => exact b.beginPublish_addsNothing publication.channel

/-- A request that is late is refused, so that none is late at its begin. -/
theorem begun_onTime {asked : LongRequest} {wait : Wait}
    (hbegun : (b.begun asked).2 = some wait) : asked.isLate (b.begun asked).1 = false := by
  cases asked with
  | dial endpoint => rfl
  | openChannel connection =>
      exact connectionOpen_beginOpen (Prod.ext rfl (eq_ok_of_toOption hbegun))
  | publish publication =>
      exact channelOpen_beginPublish (Prod.ext rfl (eq_ok_of_toOption hbegun))

theorem answered_addsNothing (request : ShortRequest) : b.AddsNothing (b.answered request) := by
  cases request with
  | closeConnection connection => exact b.closeConnection_addsNothing connection
  | closeChannel channel => exact b.closeChannel_addsNothing channel
  | qos channel prefetch => exact b.qos_addsNothing channel prefetch
  | consume request => exact b.consume_addsNothing request
  | receive subscription =>
      cases hreceive : b.receive subscription with
      | none =>
          simp only [answered, hreceive, Option.map_none, Option.getD_none]
          rfl
      | some received =>
          simp only [answered, hreceive, Option.map_some, Option.getD_some]
          exact b.receive_addsNothing hreceive
  | hangUp subscription => exact b.hangUp_addsNothing subscription
  | settle tag settlement => exact b.settle_addsNothing tag settlement

theorem ended_follows (asked : LongRequest) : b.Follows (b.ended asked) := by
  cases asked with
  | dial endpoint => exact (b.endDial_addsNothing endpoint).follows
  | openChannel connection => exact b.endOpen_follows connection
  | publish publication => exact b.endPublish_follows publication

end Requests

/-- The list grows at the end of requests, by what they bring, and nowhere else. -/
structure GrowsBy {α : Type} (ledger : Broker → List α) (brings : LongRequest → Option α) :
    Prop where
  ended : ∀ b asked, ledger (b.ended asked) = ledger b ++ (brings asked).toList
  same : ∀ {b b' : Broker}, b.AddsNothing b' → ledger b' = ledger b

theorem origins_growsBy : GrowsBy origins LongRequest.opens? where
  ended b asked := by
    cases asked with
    | dial endpoint =>
        exact (b.endDial_addsNothing endpoint).origins.trans (List.append_nil _).symm
    | openChannel connection => exact b.endOpen_origins connection
    | publish publication => exact (List.append_nil _).symm
  same hadds := hadds.origins

theorem publications_growsBy : GrowsBy publications LongRequest.sends? where
  ended b asked := by
    cases asked with
    | dial endpoint =>
        exact (b.endDial_addsNothing endpoint).publications.trans (List.append_nil _).symm
    | openChannel connection => exact (List.append_nil _).symm
    | publish publication => exact b.endPublish_publications publication
  same hadds := hadds.publications

end Broker

open Broker

/-! ## Moves -/

/-- A request that has been made, and what it waits for; `none` once it is over. -/
structure Pending where
  asked : LongRequest
  wait : Option Wait

/-- A broker with the requests that have been made of it. -/
structure Traffic where
  broker : Broker
  requests : List Pending := []

namespace Traffic

/-- What can happen. -/
inductive Move
  | ask (asked : LongRequest)
  /-- A request that is under way is looked at; it may have to wait still. -/
  | goOn (request : Nat)
  | giveUp (request : Nat)
  | answer (request : ShortRequest)
  | incident (incident : Incident)

def after (t : Traffic) : Move → Traffic
  | .ask asked =>
    { broker := (t.broker.begun asked).1
      requests := t.requests ++ [⟨asked, (t.broker.begun asked).2⟩] }
  | .goOn r =>
    match t.requests[r]? with
    | some ⟨asked, some wait⟩ =>
      match t.broker.progress wait with
      | .blocked => t
      | .goesOn wait => { t with requests := t.requests.set r ⟨asked, some wait⟩ }
      | .passed => { broker := t.broker.ended asked, requests := t.requests.set r ⟨asked, none⟩ }
    | _ => t
  | .giveUp r =>
    { t with requests := t.requests.modify r fun request => { request with wait := none } }
  | .answer request => { t with broker := t.broker.answered request }
  | .incident incident => { t with broker := t.broker.after incident }

/-- The request has been made and is not over. -/
def UnderWay (t : Traffic) (r : Nat) (asked : LongRequest) : Prop :=
  ∃ wait, t.requests[r]? = some ⟨asked, some wait⟩

/-- The request ends when it goes on. -/
def IsDue (t : Traffic) (r : Nat) (asked : LongRequest) : Prop :=
  ∃ wait, t.requests[r]? = some ⟨asked, some wait⟩ ∧ t.broker.progress wait = .passed

variable {t : Traffic} {r : Nat} {asked : LongRequest}

theorem IsDue.underWay (hdue : t.IsDue r asked) : t.UnderWay r asked :=
  let ⟨wait, hrequest, _⟩ := hdue
  ⟨wait, hrequest⟩

theorem UnderWay.lt_length (hunder : t.UnderWay r asked) : r < t.requests.length :=
  let ⟨_, hrequest⟩ := hunder
  (List.getElem?_eq_some_iff.mp hrequest).1

theorem IsDue.after_broker (hdue : t.IsDue r asked) :
    (t.after (.goOn r)).broker = t.broker.ended asked := by
  obtain ⟨wait, hrequest, hpassed⟩ := hdue
  simp [after, hrequest, hpassed]

/-- Nothing comes to the broker but at the end of a request. -/
theorem after_cases (t : Traffic) (move : Move) :
    (∃ r asked, move = .goOn r ∧ t.IsDue r asked) ∨
      t.broker.AddsNothing (t.after move).broker := by
  cases move with
  | ask asked => exact .inr (t.broker.begun_addsNothing asked)
  | goOn r =>
      rw [after]
      split
      · rename_i asked wait hrequest
        cases hprogress : t.broker.progress wait with
        | passed => exact .inl ⟨r, asked, rfl, wait, hrequest, hprogress⟩
        | blocked | goesOn wait => exact .inr (.refl _)
      · exact .inr (.refl _)
  | giveUp r => exact .inr (.refl _)
  | answer request => exact .inr (t.broker.answered_addsNothing request)
  | incident incident => exact .inr (t.broker.after_addsNothing incident)

/-- What comes to a list comes with the end of a request. -/
theorem grows_cases {α : Type} {ledger : Broker → List α} {brings : LongRequest → Option α}
    (hgrows : GrowsBy ledger brings) (t : Traffic) (move : Move) :
    ledger (t.after move).broker = ledger t.broker ∨
      ∃ r asked x, move = .goOn r ∧ t.IsDue r asked ∧ brings asked = some x ∧
        ledger (t.after move).broker = ledger t.broker ++ [x] := by
  rcases t.after_cases move with ⟨r, asked, rfl, hdue⟩ | hadds
  · rw [hdue.after_broker, hgrows.ended]
    cases hbrings : brings asked with
    | none => exact .inl (List.append_nil _)
    | some x => exact .inr ⟨r, asked, x, rfl, hdue, hbrings, rfl⟩
  · exact .inl (hgrows.same hadds)

theorem due_of_grows {α : Type} {ledger : Broker → List α} {brings : LongRequest → Option α}
    (hgrows : GrowsBy ledger brings) {move : Move} {x : α}
    (hnew : ledger (t.after move).broker = ledger t.broker ++ [x]) :
    ∃ r asked, move = .goOn r ∧ t.IsDue r asked ∧ brings asked = some x := by
  rcases grows_cases hgrows t move with hsame | ⟨r, asked, y, rfl, hdue, hbrings, hadded⟩
  · rw [hsame] at hnew
    simp at hnew
  · rw [hadded, List.append_cancel_left_eq] at hnew
    obtain rfl := List.singleton_inj.mp hnew
    exact ⟨r, asked, rfl, hdue, hbrings⟩

theorem after_follows (t : Traffic) (move : Move) : t.broker.Follows (t.after move).broker := by
  rcases t.after_cases move with ⟨r, asked, rfl, hdue⟩ | hadds
  · rw [hdue.after_broker]
    exact t.broker.ended_follows asked
  · exact hadds.follows

theorem length_le_after (t : Traffic) (move : Move) :
    t.requests.length ≤ (t.after move).requests.length := by
  cases move with
  | ask asked => simp [after]
  | goOn r =>
      rw [after]
      repeat' split
      all_goals simp
  | giveUp r => simp [after]
  | answer request => exact le_rfl
  | incident incident => exact le_rfl

/-- A request that is under way has been so before, or it has just been made and is on time. -/
theorem UnderWay.of_after {move : Move} (hunder : (t.after move).UnderWay r asked) :
    t.UnderWay r asked ∨ r = t.requests.length ∧ asked.isLate (t.after move).broker = false := by
  obtain ⟨wait, hrequest⟩ := hunder
  cases move with
  | ask other =>
      rw [after, List.getElem?_append] at hrequest
      split at hrequest
      · exact .inl ⟨wait, hrequest⟩
      · obtain ⟨hlt, hmade⟩ := List.getElem?_eq_some_iff.mp hrequest
        rw [List.length_singleton] at hlt
        simp only [List.getElem_singleton, Pending.mk.injEq] at hmade
        obtain ⟨rfl, hbegun⟩ := hmade
        exact .inr ⟨by omega, t.broker.begun_onTime hbegun⟩
  | goOn s =>
      left
      rw [after] at hrequest
      split at hrequest
      · rename_i found waited hfound
        -- whatever it waits for now, it is the same request
        have hset {wait' : Option Wait}
            (h : (t.requests.set s ⟨found, wait'⟩)[r]? = some ⟨asked, some wait⟩) :
            t.UnderWay r asked := by
          rw [List.getElem?_set] at h
          split at h
          · rename_i heq
            subst heq
            split at h <;> cases h
            exact ⟨waited, hfound⟩
          · exact ⟨wait, h⟩
        split at hrequest
        · exact ⟨wait, hrequest⟩
        · exact hset hrequest
        · exact hset hrequest
      · exact ⟨wait, hrequest⟩
  | giveUp s =>
      left
      rw [after, List.getElem?_modify] at hrequest
      obtain ⟨before, hbefore, hafter⟩ := Option.map_eq_some_iff.mp hrequest
      split at hafter
      · cases hafter
      · exact ⟨wait, hafter ▸ hbefore⟩
  | answer request => exact .inl ⟨wait, hrequest⟩
  | incident incident => exact .inl ⟨wait, hrequest⟩

/-! ## Runs -/

/-- The traffic after some moves. -/
def run (start : Traffic) (moves : List Move) : Traffic :=
  moves.foldl after start

@[simp] theorem run_nil (start : Traffic) : start.run [] = start := rfl

@[simp] theorem run_concat (start : Traffic) (moves : List Move) (move : Move) :
    start.run (moves ++ [move]) = (start.run moves).after move := by
  simp [run]

theorem run_append (start : Traffic) (earlier later : List Move) :
    start.run (earlier ++ later) = (start.run earlier).run later := by
  simp [run]

theorem run_follows (start : Traffic) (moves : List Move) :
    start.broker.Follows (start.run moves).broker := by
  induction moves using List.reverseRecOn with
  | nil => exact (AddsNothing.refl _).follows
  | append_singleton moves move ih =>
      rw [run_concat]
      exact ih.trans (after_follows _ move)

theorem length_le_run (start : Traffic) (moves : List Move) :
    start.requests.length ≤ (start.run moves).requests.length := by
  induction moves using List.reverseRecOn with
  | nil => exact le_rfl
  | append_singleton moves move ih =>
      rw [run_concat]
      exact ih.trans (length_le_after _ move)

end Traffic

end BrokerClient
