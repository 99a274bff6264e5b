import BrokerClient.Proofs.System.Recording
import Mathlib.Data.List.Forall2
import Mathlib.Data.List.Nodup

/-!
# Each publish that returns well is recorded once

The broker takes a message in one turn of its publish, the last but one: from then on the publish
can only return well, and it gets there in no other way.  So the messages in the record and the
publishes that have returned well are the same in number and in order, whatever fails, stalls,
elapses, closes or is given up on the way.
-/

namespace BrokerClient

namespace Broker

/-- The message that an entry of the record says has been taken. -/
def Entry.published? : Entry → Option Publication
  | .published publication => some publication
  | _ => none

/-- The messages that the broker has taken, in order. -/
def publications (b : Broker) : List Publication :=
  b.entries.filterMap Entry.published?

theorem Writes.publications_eq {b b' : Broker} {may : Entry → Bool} (hwrites : b.Writes b' may)
    (hother : ∀ publication, may (.published publication) = false) :
    b'.publications = b.publications := by
  refine hwrites.filterMap_eq fun entry hmay => ?_
  cases entry with
  | published publication =>
      rw [hother] at hmay
      cases hmay
  | _ => rfl

end Broker

/-! ## The turn in which a message is taken -/

/-- The message that the broker takes in the next turn of a publish. -/
def Publishing.sends? (b : Broker) (event : Event) : Publishing → Option Broker.Publication
  | sending _ channel wait _ =>
    if b.progress wait = .passed then some (publication event channel) else none
  | _ => none

theorem Publishing.Advance.publications {s : Supervisor} {b b' : Broker} {p p' : Publisher}
    {me : Nat} {event : Event} {point point' : Publishing}
    (hadvance : Advance s b p me event point p' b' point') :
    b'.publications = b.publications ++ (point.sends? b event).toList := by
  cases point with
  | sending attempt channel wait deadline =>
      cases hadvance with
      | waitPublish hwait => simp [sends?, hwait]
      | endPublish hwait =>
          simp [sends?, hwait, Broker.publications, Broker.Entry.published?]
      | publishElapsed hwait => simp [sends?, hwait]
  | _ =>
      rw [hadvance.writes.publications_eq fun _ => rfl]
      exact (List.append_nil _).symm

namespace Moment

/-- The publish whose turn it is and the message that the broker takes in it. -/
def sends? (m : Moment) : Option (Nat × Broker.Publication) :=
  match m.what with
  | .turn t =>
    match m.before.tasks[t]? with
    | some (.publish _ event point) =>
      (point.sends? m.before.broker event).map fun sent => (t, sent)
    | _ => none
  | _ => none

theorem sends?_turn {w w' : System} {i t : Nat} {event : Event} {point : Publishing}
    (htask : w.tasks[t]? = some (.publish i event point)) :
    (⟨w, .turn t, w'⟩ : Moment).sends? =
      (point.sends? w.broker event).map fun sent => (t, sent) := by
  simp [sends?, htask]

theorem sends?_of_other {w w' : System} {t : Nat} {task : Task} (htask : w.tasks[t]? = some task)
    (hother : ∀ i event point, task ≠ .publish i event point) :
    (⟨w, .turn t, w'⟩ : Moment).sends? = none := by
  cases task with
  | publish i event point => exact absurd rfl (hother i event point)
  | _ => simp [sends?, htask]

theorem exists_of_sends? {m : Moment} {t : Nat} {publication : Broker.Publication}
    (hsends : m.sends? = some (t, publication)) :
    ∃ i event attempt channel wait deadline, m.what = .turn t ∧
      m.before.tasks[t]? = some (.publish i event (.sending attempt channel wait deadline)) ∧
      m.before.broker.progress wait = .passed ∧
      publication = Publishing.publication event channel := by
  unfold sends? at hsends
  split at hsends
  · rename_i u hwhat
    split at hsends
    · rename_i i event point htask
      obtain ⟨sent, hsent, heq⟩ := Option.map_eq_some_iff.mp hsends
      cases heq
      cases point with
      | sending attempt channel wait deadline =>
          obtain ⟨hpassed, hpublication⟩ := Option.ite_none_right_eq_some.mp hsent
          exact ⟨i, event, attempt, channel, wait, deadline, hwhat, htask, hpassed,
            (Option.some.inj hpublication).symm⟩
      | _ => cases hsent
    · cases hsends
  · cases hsends

end Moment

/-- The publishes whose messages the broker has taken, with the messages, in order. -/
def sent (past : List Moment) : List (Nat × Broker.Publication) :=
  past.filterMap Moment.sends?

/-- The publishes whose messages the broker has taken, in order. -/
def senders (past : List Moment) : List Nat :=
  (sent past).map Prod.fst

theorem sent_append (earlier later : List Moment) :
    sent (earlier ++ later) = sent earlier ++ sent later :=
  List.filterMap_append

theorem sent_concat (past : List Moment) (m : Moment) :
    sent (past ++ [m]) = sent past ++ m.sends?.toList :=
  filterMap_concat _ _ _

/-- Only a publish has the broker take a message. -/
theorem Task.mayWrite_published {task : Task}
    (hother : ∀ i event point, task ≠ publish i event point) (publication : Broker.Publication) :
    task.mayWrite (.published publication) = false := by
  cases task with
  | publish i event point => exact absurd rfl (hother i event point)
  | closePublisher i point => cases point <;> rfl
  | consume i token point => cases point <;> rfl
  | _ => rfl

/-! ## Publishes whose message has been taken -/

/-- Has the broker taken the message of the publish? -/
def Task.hasSent : Task → Bool
  | publish _ _ .succeeded | publish _ _ (.finished (.ok ())) => true
  | _ => false

theorem Task.exists_of_hasSent {task : Task} (hsent : task.hasSent = true) :
    ∃ i event, task = publish i event .succeeded ∨
      task = publish i event (.finished (.ok ())) := by
  unfold hasSent at hsent
  split at hsent
  · exact ⟨_, _, .inl rfl⟩
  · exact ⟨_, _, .inr rfl⟩
  · cases hsent

/-- After a turn the message has been taken if it had been, or has been in this turn. -/
theorem Publishing.Advance.hasSent_iff {s : Supervisor} {b b' : Broker} {p p' : Publisher}
    {me i : Nat} {event : Event} {point point' : Publishing}
    (hadvance : Advance s b p me event point p' b' point') :
    (Task.publish i event point').hasSent = true ↔
      (Task.publish i event point).hasSent = true ∨ (point.sends? b event).isSome = true := by
  cases hadvance with
  | waitPublish hwait => simp [Task.hasSent, sends?, hwait]
  | endPublish hwait => simp [Task.hasSent, sends?, hwait]
  | publishElapsed hwait => simp [Task.hasSent, sends?, hwait]
  | _ => simp [Task.hasSent, sends?]

namespace System

variable {w w' : System}

/-- Has the broker taken the message of the publish `t`? -/
def HasSent (w : System) (t : Nat) : Prop :=
  (w.tasks[t]?).any Task.hasSent = true

theorem after_publications {what : Happening} (hafter : w.after? what = some w') :
    w'.broker.publications = w.broker.publications ++
      ((⟨w, what, w'⟩ : Moment).sends?.map Prod.snd).toList := by
  cases what with
  | turn t =>
      obtain ⟨task, _, _, htask, _⟩ := step_acts hafter
      by_cases hpublish : ∃ i event point, task = .publish i event point
      · obtain ⟨i, event, point, rfl⟩ := hpublish
        obtain ⟨p', point', _, hadvance⟩ := step_publish htask hafter
        rw [hadvance.publications, Moment.sends?_turn htask]
        cases point.sends? w.broker event <;> rfl
      · have hother : ∀ i event point, task ≠ .publish i event point := by simpa using hpublish
        have hwrites := step_writes htask hafter
        rw [hwrites.publications_eq (Task.mayWrite_published hother),
          Moment.sends?_of_other htask hother]
        exact (List.append_nil _).symm
  | _ =>
      have hentries := after_entries_eq hafter nofun
      simp [Broker.publications, hentries, Moment.sends?]

theorem hasSent_of_task {t : Nat} {task : Task} (htask : w.tasks[t]? = some task) :
    w.HasSent t ↔ task.hasSent = true := by
  simp [HasSent, htask]

theorem hasSent_turn {t i : Nat} {event : Event} {point : Publishing}
    (htask : w.tasks[t]? = some (.publish i event point)) (hstep : w.step t = some w') :
    w'.HasSent t ↔
      w.HasSent t ∨ ∃ publication, (⟨w, .turn t, w'⟩ : Moment).sends? = some (t, publication) := by
  obtain ⟨p', point', htask', hadvance⟩ := step_publish htask hstep
  rw [hasSent_of_task htask, hasSent_of_task htask', hadvance.hasSent_iff,
    Moment.sends?_turn htask, Option.isSome_iff_exists]
  simp

/-- The message of a publish has been taken if it had been before, or has been just now. -/
theorem hasSent_after {what : Happening} (hafter : w.after? what = some w') {t : Nat} :
    w'.HasSent t ↔
      w.HasSent t ∨ ∃ publication, (⟨w, what, w'⟩ : Moment).sends? = some (t, publication) := by
  constructor
  · intro hsent
    obtain ⟨other, hother, hhas⟩ := (Option.any_eq_true _ _).mp hsent
    obtain ⟨i, event, hkind⟩ := Task.exists_of_hasSent hhas
    have hbegun : other.begun = .publish i event .start := by
      rcases hkind with rfl | rfl <;> rfl
    rcases after_task_cases hafter hother with ⟨_, hkept⟩ | ⟨rfl, task, htask, hsame⟩ | rfl |
      ⟨_, hnew⟩
    · exact .inl ((hasSent_of_task hkept).mpr hhas)
    · obtain ⟨point, rfl⟩ := Task.begun_eq_publish (hsame.symm.trans hbegun)
      exact (hasSent_turn htask hafter).mp hsent
    · cases hhas
    · -- a publish that is new has sent nothing
      rw [hnew] at hbegun
      rw [hbegun] at hhas
      cases hhas
  · rintro (hsent | ⟨publication, hsends⟩)
    · obtain ⟨task, htask, hhas⟩ := (Option.any_eq_true _ _).mp hsent
      obtain ⟨i, event, hkind⟩ := Task.exists_of_hasSent hhas
      rcases after_task_next hafter htask with ⟨rfl, _⟩ | ⟨hrests, hpending, _⟩ | ⟨_, hkept⟩
      · rcases hkind with rfl | rfl <;> exact (hasSent_turn htask hafter).mpr (.inl hsent)
      · -- it does not rest before its end, and cannot be given up after it
        rcases hkind with rfl | rfl
        · cases hrests
        · cases hpending
      · exact (hasSent_of_task hkept).mpr hhas
    · obtain ⟨i, event, attempt, channel, wait, deadline, rfl, htask, _⟩ :=
        Moment.exists_of_sends? hsends
      exact (hasSent_turn htask hafter).mpr (.inr ⟨publication, hsends⟩)

/-- The publish `t` has returned well. -/
def HasPublished (w : System) (t : Nat) : Prop :=
  ∃ i event, w.tasks[t]? = some (.publish i event (.finished (.ok ())))

theorem HasPublished.hasSent {t : Nat} (hpublished : w.HasPublished t) : w.HasSent t := by
  obtain ⟨i, event, htask⟩ := hpublished
  exact (hasSent_of_task htask).mpr rfl

/-- Every publish rests, as it does in particular once it has returned. -/
def PublishesRest (w : System) : Prop :=
  ∀ (t i : Nat) (event : Event) (point : Publishing),
    w.tasks[t]? = some (.publish i event point) → point.rests = true

theorem AtRest.publishesRest (hrest : w.AtRest) : w.PublishesRest :=
  fun _ _ _ _ htask => hrest.rests htask

/-- A publish whose message has been taken and which rests has returned. -/
theorem HasSent.hasPublished {t : Nat} (hsent : w.HasSent t) (hrest : w.PublishesRest) :
    w.HasPublished t := by
  obtain ⟨task, htask, hhas⟩ := (Option.any_eq_true _ _).mp hsent
  obtain ⟨i, event, rfl | rfl⟩ := Task.exists_of_hasSent hhas
  · cases hrest t i event _ htask
  · exact ⟨i, event, htask⟩

/-- The publish `t` is about this event. -/
def IsAbout (w : System) (t : Nat) (event : Event) : Prop :=
  ∃ i point, w.tasks[t]? = some (.publish i event point)

theorem IsAbout.after {what : Happening} (hafter : w.after? what = some w') {t : Nat}
    {event : Event} (habout : w.IsAbout t event) (hsent : w.HasSent t) : w'.IsAbout t event := by
  obtain ⟨i, point, htask⟩ := habout
  have hhas := (hasSent_of_task htask).mp hsent
  rcases after_task_next hafter htask with ⟨_, task', htask', hbegun⟩ | ⟨hrests, hpending, _⟩ |
    ⟨_, hkept⟩
  · obtain ⟨point', rfl⟩ := Task.begun_eq_publish hbegun
    exact ⟨i, point', htask'⟩
  · obtain ⟨j, event', hkind | hkind⟩ := Task.exists_of_hasSent hhas
    · cases hkind
      cases hrests
    · cases hkind
      cases hpending
  · exact ⟨i, point, hkept⟩

end System

/-! ## Every run -/

namespace Run

variable {w₀ w : System} {past : List Moment}

theorem publications_eq (hrun : Run w₀ past w) :
    w.broker.publications = w₀.broker.publications ++ (sent past).map Prod.snd := by
  induction hrun with
  | refl => exact (List.append_nil _).symm
  | @snoc past w w' what _ hafter ih =>
      rw [System.after_publications hafter, ih, sent_concat, List.map_append, List.append_assoc]
      cases (⟨w, what, w'⟩ : Moment).sends? <;> rfl

theorem mem_senders_concat {t : Nat} {m : Moment} :
    t ∈ senders (past ++ [m]) ↔
      t ∈ senders past ∨ ∃ publication, m.sends? = some (t, publication) := by
  simp [senders, sent_concat]

theorem mem_senders (hrun : Run w₀ past w) (hfresh : w₀.Fresh) {t : Nat} :
    t ∈ senders past ↔ w.HasSent t := by
  induction hrun with
  | refl =>
      refine ⟨nofun, fun hsent => ?_⟩
      obtain ⟨task, htask, _⟩ := (Option.any_eq_true _ _).mp hsent
      exact absurd htask hfresh.not_task
  | snoc _ hafter ih => rw [mem_senders_concat, ih, System.hasSent_after hafter]

/-- The broker takes no message twice. -/
theorem senders_nodup (hrun : Run w₀ past w) (hfresh : w₀.Fresh) : (senders past).Nodup := by
  induction hrun with
  | refl => exact .nil
  | @snoc past w w' what hpast hafter ih =>
      cases hsends : (⟨w, what, w'⟩ : Moment).sends? with
      | none =>
          have hsame : senders (past ++ [⟨w, what, w'⟩]) = senders past := by
            simp [senders, sent_concat, hsends]
          rwa [hsame]
      | some pair =>
          obtain ⟨t, publication⟩ := pair
          have hnew : senders (past ++ [⟨w, what, w'⟩]) = senders past ++ [t] := by
            simp [senders, sent_concat, hsends]
          -- whoever sends has not sent before
          obtain ⟨i, event, attempt, channel, wait, deadline, _, htask, _⟩ :=
            Moment.exists_of_sends? hsends
          have hnot : t ∉ senders past := by
            rw [hpast.mem_senders hfresh, System.hasSent_of_task htask]
            exact nofun
          rw [hnew]
          exact List.nodup_append_comm.mp (List.nodup_cons.mpr ⟨hnot, ih⟩)

/-- What the broker has taken is the message of the publish that has sent it. -/
theorem sent_isAbout (hrun : Run w₀ past w) (hfresh : w₀.Fresh) {t : Nat}
    {publication : Broker.Publication} (hmem : (t, publication) ∈ sent past) :
    ∃ event channel, w.IsAbout t event ∧
      publication = Publishing.publication event channel := by
  induction hrun with
  | refl => cases hmem
  | @snoc past w w' what hpast hafter ih =>
      rw [sent_concat, List.mem_append, Option.mem_toList] at hmem
      rcases hmem with hold | hnew
      · obtain ⟨event, channel, habout, hpublication⟩ := ih hold
        have hsent : w.HasSent t :=
          (hpast.mem_senders hfresh).mp (List.mem_map.mpr ⟨_, hold, rfl⟩)
        exact ⟨event, channel, habout.after hafter hsent, hpublication⟩
      · obtain ⟨i, event, attempt, channel, wait, deadline, rfl, htask, _, hpublication⟩ :=
          Moment.exists_of_sends? hnew
        obtain ⟨p', point', htask', _⟩ := System.step_publish htask hafter
        exact ⟨event, channel, ⟨i, point', htask'⟩, hpublication⟩

/-- A publish that has returned before another one is called comes first. -/
theorem senders_ordered {m : System} {earlier later : List Moment} (hearlier : Run w₀ earlier m)
    (hlater : Run m later w) (hfresh : w₀.Fresh) {t u : Nat} (ht : m.HasPublished t)
    (hu : m.tasks.length ≤ u) (hpublished : w.HasPublished u) :
    [t, u].Sublist (senders (earlier ++ later)) := by
  have hsplit : senders (earlier ++ later) = senders earlier ++ senders later := by
    simp [senders, sent_append]
  have hfirst : t ∈ senders earlier := (hearlier.mem_senders hfresh).mpr ht.hasSent
  have hsecond : u ∈ senders later := by
    have hmem := ((hearlier.append hlater).mem_senders hfresh).mpr hpublished.hasSent
    rw [hsplit, List.mem_append] at hmem
    refine hmem.resolve_left fun hbefore => ?_
    -- there was no task of this number yet
    obtain ⟨task, htask, _⟩ :=
      (Option.any_eq_true _ _).mp ((hearlier.mem_senders hfresh).mp hbefore)
    have hlt : u < m.tasks.length := (List.getElem?_eq_some_iff.mp htask).1
    omega
  rw [hsplit]
  exact (List.singleton_sublist.mpr hfirst).append (List.singleton_sublist.mpr hsecond)

end Run

/-- The broker has been sent the message of the event, and nothing else. -/
structure Broker.Publication.Carries (publication : Broker.Publication) (event : Event) : Prop where
  exchange : publication.exchange = event.exchange
  routingKey : publication.routingKey = event.routingKey
  messageId : publication.message.messageId = event.messageId
  contentType : publication.message.contentType = event.contentType
  timestamp : publication.message.timestamp = event.timestamp
  body : publication.message.body = event.body
  mandatory : publication.mandatory = false
  immediate : publication.immediate = false

/-- What the broker has recorded in the course of a run is one message for each publish that has
returned well. -/
structure RecordsEachOnce (w₀ w : System) (past : List Moment) : Prop where
  /-- No publish has sent its message twice. -/
  once : (senders past).Nodup
  /-- Those that have sent it are those that have returned well. -/
  complete : ∀ t, t ∈ senders past ↔ w.HasPublished t
  /-- The record has grown by their messages. -/
  recorded : ∃ taken, w.broker.publications = w₀.broker.publications ++ taken ∧
    List.Forall₂ (fun t publication => ∃ event, w.IsAbout t event ∧ publication.Carries event)
      (senders past) taken
  /-- A publish that has returned before another one is called comes first. -/
  ordered : ∀ (earlier later : List Moment) (m : System), past = earlier ++ later →
    Run w₀ earlier m → Run m later w → ∀ t u, m.HasPublished t → m.tasks.length ≤ u →
    w.HasPublished u → [t, u].Sublist (senders past)

/-- Whenever all publishes rest, the record holds exactly one entry for each publish that has
returned well, with its message, and none for any other. -/
theorem Run.recordsEachOnce {w₀ w : System} {past : List Moment} (hrun : Run w₀ past w)
    (hfresh : w₀.Fresh) (hrest : w.PublishesRest) : RecordsEachOnce w₀ w past where
  once := hrun.senders_nodup hfresh
  complete t := by
    rw [hrun.mem_senders hfresh]
    exact ⟨fun hsent => hsent.hasPublished hrest, System.HasPublished.hasSent⟩
  recorded := by
    refine ⟨(sent past).map Prod.snd, hrun.publications_eq, ?_⟩
    rw [senders, List.forall₂_map_left_iff, List.forall₂_map_right_iff, List.forall₂_same]
    rintro ⟨t, publication⟩ hmem
    obtain ⟨event, channel, habout, rfl⟩ := hrun.sent_isAbout hfresh hmem
    exact ⟨event, habout, ⟨rfl, rfl, rfl, rfl, rfl, rfl, rfl, rfl⟩⟩
  ordered := by
    rintro earlier later m rfl hearlier hlater t u ht hu hpublished
    exact hearlier.senders_ordered hlater hfresh ht hu hpublished

namespace Run

/-- A message; the second one that is sent has another identifier than the first. -/
def smallEvent (id : String) : Event where
  exchange := "x"
  routingKey := "k"
  messageId := id
  contentType := "c"
  body := []
  timestamp := ⟨0, 0⟩

/-- The first publish fails with its channel gone and succeeds when it is tried again; the second
one elapses behind the gate; the third one goes through. -/
def retriedPublish : List Happening :=
  [.call .connect] ++ List.replicate 4 (.turn 0) ++
  [.incident (.queueFailure .publish (.channelClosed "x")), .call (.publish 0 (smallEvent "a"))] ++
  List.replicate 10 (.turn 1) ++ [.incident (.passTime 200)] ++ List.replicate 9 (.turn 1) ++
  [.incident (.setPace .publishing ⟨true, 0⟩), .call (.publish 0 (smallEvent "b"))] ++
  List.replicate 4 (.turn 4) ++ [.incident (.passTime 5000)] ++ List.replicate 2 (.turn 4) ++
  [.incident (.setPace .publishing ⟨false, 0⟩), .call (.publish 0 (smallEvent "c"))] ++
  List.replicate 7 (.turn 5)

theorem retriedPublish_recorded_once :
    RecordsEachOnce System.single (System.single.played retriedPublish).2
        (System.single.played retriedPublish).1 ∧
      (System.single.played retriedPublish).2.broker.publications.map (·.message.messageId) =
        ["a", "c"] :=
  ⟨(System.single.run_played retriedPublish).recordsEachOnce System.single_fresh
      (System.AtRest.publishesRest (by decide)),
    by decide⟩

end Run

end BrokerClient
