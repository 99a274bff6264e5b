import BrokerClient.Proofs.Broker.Traffic

/-!
# Dead channels

A channel is to be dead once it or its connection is closed: an open channel has an open connection,
no connection that is closed produces one, and no message is taken on a channel that is closed.
`Traffic.KeepsPromise` says so of a run.

The broker looks at the begin of a request and not at its end, so that an opening or a publish that
has to wait goes through however late it is.  `Traffic.run_checksAtBegin` shows that the promise is
broken in no other way, and names the channels and the messages that it is broken by.
-/

namespace BrokerClient.Traffic

open Broker

variable {start : Traffic} {r : Nat} {asked : LongRequest} {moves earlier : List Move}
  {move : Move}

/-! ## What becomes late on its way -/

/-- While the request was under way, that which it is made on has been closed. -/
def ClosedMeanwhile (start : Traffic) (moves : List Move) (r : Nat) (asked : LongRequest) : Prop :=
  ∃ first move second, moves = first ++ move :: second ∧ (start.run first).UnderWay r asked ∧
    asked.isLate (start.run first).broker = false ∧
    asked.isLate (start.run (first ++ [move])).broker = true

/-- The request ends with the next move after the earlier ones. -/
def EndsAfter (start : Traffic) (moves earlier : List Move) (r : Nat) (asked : LongRequest) :
    Prop :=
  ∃ later, moves = earlier ++ .goOn r :: later ∧ (start.run earlier).IsDue r asked

theorem closedMeanwhile_concat : ClosedMeanwhile start (moves ++ [move]) r asked ↔
    ClosedMeanwhile start moves r asked ∨ ((start.run moves).UnderWay r asked ∧
      asked.isLate (start.run moves).broker = false ∧
      asked.isLate ((start.run moves).after move).broker = true) := by
  constructor
  · rintro ⟨first, closing, second, hsplit, hunder, honTime, hlate⟩
    -- the closing move is the last one, or the last one comes later
    rcases List.eq_nil_or_concat second with rfl | ⟨second, last, rfl⟩
    · obtain ⟨rfl, hlast⟩ := List.append_inj' hsplit rfl
      obtain rfl := (List.cons.inj hlast).1
      rw [run_concat] at hlate
      exact .inr ⟨hunder, honTime, hlate⟩
    · rw [List.concat_eq_append, ← List.cons_append, ← List.append_assoc] at hsplit
      exact .inl ⟨first, closing, second, (List.append_inj' hsplit rfl).1, hunder, honTime, hlate⟩
  · rintro (⟨first, closing, second, rfl, hclosing⟩ | ⟨hunder, honTime, hlate⟩)
    · exact ⟨first, closing, second ++ [move], by simp, hclosing⟩
    · exact ⟨moves, move, [], rfl, hunder, honTime, by rwa [run_concat]⟩

theorem EndsAfter.append (hends : EndsAfter start moves earlier r asked) (more : List Move) :
    EndsAfter start (moves ++ more) earlier r asked := by
  obtain ⟨later, rfl, hdue⟩ := hends
  exact ⟨later ++ more, by simp, hdue⟩

/-- Nothing has been asked for, there is no channel, and nothing is on the record. -/
structure Fresh (start : Traffic) : Prop where
  requests : start.requests = []
  channels : start.broker.channels = []
  record : start.broker.record = []

/-- A request that is under way is late iff it has become so on its way. -/
theorem UnderWay.isLate_iff (hfresh : start.Fresh) (hunder : (start.run moves).UnderWay r asked) :
    asked.IsFounded (start.run moves).broker ∧
      (asked.isLate (start.run moves).broker = true ↔ ClosedMeanwhile start moves r asked) := by
  induction moves using List.reverseRecOn with
  | nil =>
      have hlt := hunder.lt_length
      simp [hfresh.requests] at hlt
  | append_singleton moves move ih =>
      rw [run_concat] at hunder ⊢
      have hkeeps := (after_follows (start.run moves) move).closed
      rw [closedMeanwhile_concat]
      rcases hunder.of_after with hbefore | ⟨rfl, honTime⟩
      · obtain ⟨hfounded, hlate⟩ := ih hbefore
        refine ⟨hfounded.mono hkeeps, fun hnow => ?_, ?_⟩
        · cases hwas : asked.isLate (start.run moves).broker with
          | true => exact .inl (hlate.mp hwas)
          | false => exact .inr ⟨hbefore, rfl, hnow⟩
        · rintro (hclosed | ⟨_, _, hnow⟩)
          · exact hfounded.isLate_mono hkeeps (hlate.mpr hclosed)
          · exact hnow
      · refine ⟨LongRequest.isFounded_of_onTime honTime, fun hnow => ?_, ?_⟩
        · rw [honTime] at hnow
          cases hnow
        · rintro (⟨first, closing, second, rfl, hunder', _⟩ | ⟨hunder', _, _⟩)
          · -- there was no request of this number yet
            have hlt := hunder'.lt_length
            have hle := length_le_run (start.run first) (closing :: second)
            rw [← run_append] at hle
            omega
          · exact absurd hunder'.lt_length (lt_irrefl _)

/-- What is on a list that grows at the end of requests has come with the end of one. -/
theorem exists_ending {α : Type} {ledger : Broker → List α} {brings : LongRequest → Option α}
    (hgrows : GrowsBy ledger brings) (hempty : ledger start.broker = []) {i : Nat} {x : α}
    (hx : (ledger (start.run moves).broker)[i]? = some x) :
    ∃ earlier r asked, EndsAfter start moves earlier r asked ∧ brings asked = some x ∧
      (ledger (start.run earlier).broker).length = i := by
  induction moves using List.reverseRecOn with
  | nil => simp [hempty] at hx
  | append_singleton moves move ih =>
      rw [run_concat] at hx
      rcases grows_cases hgrows (start.run moves) move with
        hsame | ⟨r, asked, y, rfl, hdue, hbrings, hadded⟩
      · rw [hsame] at hx
        obtain ⟨earlier, r, asked, hends, hbrought⟩ := ih hx
        exact ⟨earlier, r, asked, hends.append [move], hbrought⟩
      · rw [hadded, List.getElem?_append] at hx
        split at hx
        · obtain ⟨earlier, s, asked, hends, hbrought⟩ := ih hx
          exact ⟨earlier, s, asked, hends.append [.goOn r], hbrought⟩
        · -- it is the last one
          rw [List.getElem?_singleton] at hx
          split at hx
          · exact ⟨moves, r, asked, ⟨[], rfl, hdue⟩, hbrings.trans hx, by omega⟩
          · cases hx

/-! ## The promise -/

/-- At no time is a channel open whose connection is closed. -/
def ClosesWithConnection (start : Traffic) (moves : List Move) : Prop :=
  ∀ earlier later, moves = earlier ++ later → ∀ c, ¬ (start.run earlier).broker.Orphan c

/-- Whenever a channel comes, its connection is open. -/
def OpensOnOpen (start : Traffic) (moves : List Move) : Prop :=
  ∀ earlier move later connection, moves = earlier ++ move :: later →
    (start.run (earlier ++ [move])).broker.origins =
      (start.run earlier).broker.origins ++ [connection] →
    (start.run earlier).broker.connectionClosed connection = false

/-- Whenever a message is taken, its channel is open. -/
def TakesOnOpen (start : Traffic) (moves : List Move) : Prop :=
  ∀ earlier move later publication, moves = earlier ++ move :: later →
    (start.run (earlier ++ [move])).broker.publications =
      (start.run earlier).broker.publications ++ [publication] →
    (start.run earlier).broker.channelClosed publication.channel = false

/-- A channel is dead once it or its connection is closed. -/
structure KeepsPromise (start : Traffic) (moves : List Move) : Prop where
  closes : ClosesWithConnection start moves
  opens : OpensOnOpen start moves
  takes : TakesOnOpen start moves

/-- The broker looks at the begin of a request, whether that which it is made on is closed, and not
at its end. -/
structure ChecksAtBegin (start : Traffic) (moves : List Move) : Prop where
  /-- A request that ends is late iff it has become so on its way. -/
  late_iff : ∀ earlier r asked, EndsAfter start moves earlier r asked →
    (asked.isLate (start.run earlier).broker = true ↔ ClosedMeanwhile start earlier r asked)
  /-- Every channel comes from an opening, and is one that is left open by its closed connection iff
  that opening was late and the channel has not been closed since. -/
  channels : ∀ c connection, (start.run moves).broker.connectionOf c = some connection →
    ∃ earlier r, EndsAfter start moves earlier r (.openChannel connection) ∧
      (start.run earlier).broker.channels.length = c ∧
      ((start.run moves).broker.Orphan c ↔
        ClosedMeanwhile start earlier r (.openChannel connection) ∧
          (start.run moves).broker.channelClosed c = false)
  /-- Every message comes from a publish. -/
  messages : ∀ i publication, (start.run moves).broker.publications[i]? = some publication →
    ∃ earlier r, EndsAfter start moves earlier r (.publish publication) ∧
      (start.run earlier).broker.publications.length = i
  /-- The promise is kept but for requests that end late. -/
  promise_iff : KeepsPromise start moves ↔
    ∀ earlier r asked, EndsAfter start moves earlier r asked →
      ¬ ClosedMeanwhile start earlier r asked

namespace EndsAfter

theorem isLate_iff (hends : EndsAfter start moves earlier r asked) (hfresh : start.Fresh) :
    asked.isLate (start.run earlier).broker = true ↔ ClosedMeanwhile start earlier r asked :=
  let ⟨_, _, hdue⟩ := hends
  (hdue.underWay.isLate_iff hfresh).2

/-- The channel that an opening brings is left open by its closed connection iff the opening was
late. -/
theorem orphan_iff {connection : Nat}
    (hends : EndsAfter start moves earlier r (.openChannel connection)) (hfresh : start.Fresh) :
    (start.run moves).broker.Orphan (start.run earlier).broker.channels.length ↔
      ClosedMeanwhile start earlier r (.openChannel connection) ∧
        (start.run moves).broker.channelClosed (start.run earlier).broker.channels.length =
          false := by
  have hlate := hends.isLate_iff hfresh
  obtain ⟨later, rfl, hdue⟩ := hends
  have hfounded := (hdue.underWay.isLate_iff hfresh).1
  have hopening := after_follows (start.run earlier) (.goOn r)
  have hlater := run_follows ((start.run earlier).after (.goOn r)) later
  have hrun : start.run (earlier ++ .goOn r :: later) =
      ((start.run earlier).after (.goOn r)).run later := run_append start earlier _
  have hall := hopening.trans hlater
  rw [hdue.after_broker] at hlater
  rw [hrun]
  have hlt : (start.run earlier).broker.channels.length <
      ((start.run earlier).broker.ended (.openChannel connection)).channels.length := by
    simp [ended, endOpen]
  constructor
  · intro horphan
    have hborn := hlater.orphan _ hlt horphan
    exact ⟨hlate.mp ((orphan_endOpen_iff _ connection).mp hborn), horphan.1⟩
  · rintro ⟨hclosed, hopen⟩
    refine ⟨hopen, connection, ?_, hall.closed.closed connection hfounded (hlate.mpr hclosed)⟩
    rw [hlater.connectionOf hlt]
    simp [ended, endOpen, connectionOf]

end EndsAfter

theorem exists_opening (hfresh : start.Fresh) {c connection : Nat}
    (horigin : (start.run moves).broker.connectionOf c = some connection) :
    ∃ earlier r, EndsAfter start moves earlier r (.openChannel connection) ∧
      (start.run earlier).broker.channels.length = c := by
  rw [connectionOf_eq] at horigin
  obtain ⟨earlier, r, asked, hends, hopens, hlength⟩ :=
    exists_ending origins_growsBy (by simp [origins, hfresh.channels]) horigin
  obtain rfl := LongRequest.opens?_eq_some.mp hopens
  exact ⟨earlier, r, hends, by rwa [length_origins] at hlength⟩

theorem exists_publish (hfresh : start.Fresh) {i : Nat} {publication : Publication}
    (htaken : (start.run moves).broker.publications[i]? = some publication) :
    ∃ earlier r, EndsAfter start moves earlier r (.publish publication) ∧
      (start.run earlier).broker.publications.length = i := by
  obtain ⟨earlier, r, asked, hends, hsends, hlength⟩ :=
    exists_ending publications_growsBy (by simp [publications, entries, hfresh.record]) htaken
  obtain rfl := LongRequest.sends?_eq_some.mp hsends
  exact ⟨earlier, r, hends, hlength⟩

theorem keepsPromise_iff (hfresh : start.Fresh) : KeepsPromise start moves ↔
    ∀ earlier r asked, EndsAfter start moves earlier r asked →
      ¬ ClosedMeanwhile start earlier r asked := by
  constructor
  · rintro ⟨_, hopens, htakes⟩ earlier r asked hends
    rw [← hends.isLate_iff hfresh, Bool.not_eq_true]
    obtain ⟨later, hsplit, hdue⟩ := hends
    cases asked with
    | dial endpoint => rfl
    | openChannel connection =>
        refine hopens earlier (.goOn r) later connection hsplit ?_
        rw [run_concat, hdue.after_broker, origins_growsBy.ended]
        rfl
    | publish publication =>
        refine htakes earlier (.goOn r) later publication hsplit ?_
        rw [run_concat, hdue.after_broker, publications_growsBy.ended]
        rfl
  · intro hnever
    have honTime {earlier later : List Move} {r : Nat} {asked : LongRequest}
        (hsplit : moves = earlier ++ .goOn r :: later) (hdue : (start.run earlier).IsDue r asked) :
        asked.isLate (start.run earlier).broker = false := by
      have hends : EndsAfter start moves earlier r asked := ⟨later, hsplit, hdue⟩
      exact Bool.eq_false_iff.mpr (mt (hends.isLate_iff hfresh).mp (hnever earlier r asked hends))
    refine ⟨?_, ?_, ?_⟩
    · rintro earlier later rfl c horphan
      have ⟨_, connection, horigin, _⟩ := horphan
      obtain ⟨first, r, hends, rfl⟩ := exists_opening hfresh horigin
      exact hnever first r _ (hends.append later) ((hends.orphan_iff hfresh).mp horphan).1
    · intro earlier move later connection hsplit hnew
      rw [run_concat] at hnew
      obtain ⟨r, asked, rfl, hdue, hopens⟩ := due_of_grows origins_growsBy hnew
      obtain rfl := LongRequest.opens?_eq_some.mp hopens
      exact honTime hsplit hdue
    · intro earlier move later publication hsplit hnew
      rw [run_concat] at hnew
      obtain ⟨r, asked, rfl, hdue, hsends⟩ := due_of_grows publications_growsBy hnew
      obtain rfl := LongRequest.sends?_eq_some.mp hsends
      exact honTime hsplit hdue

/-- Channels and messages break the promise exactly by the requests that become late on their way
and end all the same. -/
theorem run_checksAtBegin (hfresh : start.Fresh) (moves : List Move) :
    ChecksAtBegin start moves where
  late_iff earlier r asked hends := hends.isLate_iff hfresh
  channels c connection horigin := by
    obtain ⟨earlier, r, hends, rfl⟩ := exists_opening hfresh horigin
    exact ⟨earlier, r, hends, rfl, hends.orphan_iff hfresh⟩
  messages i publication htaken := exists_publish hfresh htaken
  promise_iff := keepsPromise_iff hfresh

/-! ## Runs that break the promise -/

/-- The broker that tests use: whoever waits at a gate looks every five milliseconds. -/
def inProcess : Traffic where
  broker := { reachable := ["a"], lookEvery := some 5 }

theorem inProcess_fresh : inProcess.Fresh := ⟨rfl, rfl, rfl⟩

/-- An opening waits at the gate while its connection is dropped, and goes on after that. -/
def untilLateOpening : List Move :=
  [.ask (.dial "a"), .goOn 0, .incident (.setPace .opening ⟨true, 0⟩), .ask (.openChannel 0),
    .incident (.dropConnection 0 (.error "blip")), .incident (.setPace .opening ⟨false, 0⟩),
    .incident (.passTime 5), .goOn 1]

def smallMessage : Publication :=
  ⟨0, "x", "k", false, false, ⟨"m", "c", ⟨0, 0⟩, []⟩⟩

/-- A publish waits at the gate while its channel is dropped, and goes on after that. -/
def untilLatePublish : List Move :=
  [.ask (.dial "a"), .goOn 0, .ask (.openChannel 0), .goOn 1,
    .incident (.setPace .publishing ⟨true, 0⟩), .ask (.publish smallMessage),
    .incident (.dropChannel 0 (.error "blip")), .incident (.setPace .publishing ⟨false, 0⟩),
    .incident (.passTime 5), .goOn 2]

theorem lateOpening_checksAtBegin :
    inProcess.Fresh ∧ ChecksAtBegin inProcess (untilLateOpening ++ [.goOn 1]) ∧
      (inProcess.run (untilLateOpening ++ [.goOn 1])).broker.Orphan 0 :=
  ⟨inProcess_fresh, run_checksAtBegin inProcess_fresh _, by decide, 0, by decide, by decide⟩

/-- Each part of the promise is broken by a run. -/
theorem not_forall_keepsPromise :
    (¬ ∀ moves, ClosesWithConnection inProcess moves) ∧
      (¬ ∀ moves, OpensOnOpen inProcess moves) ∧ ¬ ∀ moves, TakesOnOpen inProcess moves := by
  refine ⟨fun hcloses => ?_, fun hopens => ?_, fun htakes => ?_⟩
  · refine hcloses (untilLateOpening ++ [.goOn 1]) _ [] (List.append_nil _).symm 0 ?_
    exact ⟨by decide, 0, by decide, by decide⟩
  · have hopen := hopens (untilLateOpening ++ [.goOn 1]) untilLateOpening (.goOn 1) [] 0 rfl
      (by decide)
    exact absurd hopen (by decide)
  · have hopen := htakes (untilLatePublish ++ [.goOn 2]) untilLatePublish (.goOn 2) [] smallMessage
      rfl (by decide)
    exact absurd hopen (by decide)

end BrokerClient.Traffic
