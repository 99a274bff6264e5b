import BrokerClient.NoticeBoard
import Mathlib.Data.List.Infix

/-!
# A close notice is a latch

Handles and signals of several notices are used in any order: notices are added and fired, handles
are cloned and dropped, signals begin to wait and are asked.  What has been done is kept as a list
of events, and what each notice says is read off that list alone:

* its first fire, and no other, is told that it was the first;
* from then on every handle knows that the notice has fired, and every signal learns the reason of
  that fire, whenever it began to wait and whichever handles have been dropped since;
* a notice that has not fired says nothing as long as there is a handle to it, and without one that
  it was closed gracefully.

The number of handles that a notice counts is the number of handles that are on the board
(`Held`); this is why a notice that has said something never says anything else.
-/

namespace BrokerClient.NoticeBoard

/-! ## What is done on a board -/

/-- What can be done with the handles and the signals of a board. -/
inductive Operation
  | add
  | fire (handle : Nat) (reason : CloseReason)
  | clone (handle : Nat)
  | drop (handle : Nat)
  | subscribe (handle : Nat)
  | poll (signal : Nat)

/-- What has come of an operation: the notice or the signal that it was about, and the answer. -/
inductive Event
  | added
  | fired (notice : Nat) (reason : CloseReason) (first : Bool)
  | cloned (notice : Nat)
  | dropped (notice : Nat)
  | subscribed (notice : Nat)
  | polled (signal : Nat) (answer : Answer)
  deriving DecidableEq

/-- Does what is asked, unless there is no such handle or signal. -/
def perform (board : NoticeBoard) : Operation → Option (NoticeBoard × Event)
  | .add => some (board.add, .added)
  | .fire handle reason => (board.notice? handle).bind fun (i, _) =>
      (board.fire handle reason).map fun (board, first) => (board, .fired i reason first)
  | .clone handle => (board.notice? handle).bind fun (i, _) =>
      (board.clone handle).map (·, .cloned i)
  | .drop handle => (board.notice? handle).bind fun (i, _) =>
      (board.drop handle).map (·, .dropped i)
  | .subscribe handle => (board.notice? handle).bind fun (i, _) =>
      (board.subscribe handle).map (·, .subscribed i)
  | .poll signal => (board.poll signal).map fun (board, answer) => (board, .polled signal answer)

/-- A board with what has been done on it. -/
structure History where
  past : List Event := []
  board : NoticeBoard := {}

/-- The history after an operation; one that cannot be done leaves no trace. -/
def History.after (history : History) (operation : Operation) : History :=
  match history.board.perform operation with
  | some (board, event) => ⟨history.past ++ [event], board⟩
  | none => history

/-- The history of these operations on a board that is empty at first. -/
def historyOf (operations : List Operation) : History :=
  operations.foldl History.after {}

/-- The reason that a notice is fired with, and whether the fire is told that it is the first. -/
def Event.fires? (i : Nat) : Event → Option (CloseReason × Bool)
  | .fired notice reason first => if notice = i then some (reason, first) else none
  | _ => none

/-- The notice that a signal begins to wait on. -/
def Event.subscribes? : Event → Option Nat
  | .subscribed notice => some notice
  | _ => none

/-- The fires of a notice in order. -/
def firesOf (i : Nat) (past : List Event) : List (CloseReason × Bool) :=
  past.filterMap (Event.fires? i)

/-- The reason of the first fire of a notice. -/
def firstReason (i : Nat) (past : List Event) : Option CloseReason :=
  (firesOf i past).head?.map Prod.fst

/-- The notices that the signals wait on, in the order in which they have begun to. -/
def subscriptionsOf (past : List Event) : List Nat :=
  past.filterMap Event.subscribes?

/-- What those who wait on a notice are to be told: the reason of its first fire; without a fire,
that it was closed gracefully, once no handle to it is left. -/
def History.due (history : History) (i : Nat) : Answer :=
  match firstReason i history.past with
  | some reason => .closed reason
  | none => if some i ∈ history.board.handles then .pending else .closed .graceful

theorem historyOf_concat (operations : List Operation) (operation : Operation) :
    historyOf (operations ++ [operation]) = (historyOf operations).after operation := by
  simp [historyOf]

theorem firesOf_concat (i : Nat) (past : List Event) (event : Event) :
    firesOf i (past ++ [event]) = firesOf i past ++ (event.fires? i).toList := by
  cases h : event.fires? i <;> simp [firesOf, h]

/-- What is no fire of the notice leaves its fires. -/
theorem firesOf_concat_of_none {i : Nat} {event : Event} (hnone : event.fires? i = none)
    (past : List Event) : firesOf i (past ++ [event]) = firesOf i past := by
  rw [firesOf_concat, hnone, Option.toList_none, List.append_nil]

theorem subscriptionsOf_concat (past : List Event) (event : Event) :
    subscriptionsOf (past ++ [event]) = subscriptionsOf past ++ event.subscribes?.toList := by
  cases h : event.subscribes? <;> simp [subscriptionsOf, h]

/-- What has been done stays done. -/
theorem past_isPrefix (operations more : List Operation) :
    (historyOf operations).past <+: (historyOf (operations ++ more)).past := by
  induction more using List.reverseRecOn with
  | nil => rw [List.append_nil]
  | append_singleton more operation ih =>
      rw [← List.append_assoc, historyOf_concat, History.after]
      split
      · exact ih.trans (List.prefix_append _ _)
      · exact ih

/-! ## What an operation does -/

/-- `board.Does event board'` says what the operation that is written down as `event` makes of a
board. -/
inductive Does (board : NoticeBoard) : Event → NoticeBoard → Prop
  | add : Does board .added board.add
  | fire {i : Nat} {notice : CloseNotice} {reason : CloseReason} :
      board.notices[i]? = some notice → some i ∈ board.handles →
      Does board (.fired i reason (notice.fire reason).1)
        { board with notices := board.notices.set i (notice.fired reason) }
  | clone {i : Nat} {notice : CloseNotice} :
      board.notices[i]? = some notice → some i ∈ board.handles →
      Does board (.cloned i)
        { board with
          notices := board.notices.set i notice.clone
          handles := board.handles ++ [some i] }
  | drop {handle i : Nat} {notice : CloseNotice} :
      board.notices[i]? = some notice → board.handles[handle]? = some (some i) →
      Does board (.dropped i)
        { board with
          notices := board.notices.set i notice.drop
          handles := board.handles.set handle none }
  | subscribe {i : Nat} {notice : CloseNotice} :
      board.notices[i]? = some notice →
      Does board (.subscribed i) { board with signals := board.signals ++ [{ notice := i }] }
  | askAgain {signal : Nat} {s : Signal} :
      board.signals[signal]? = some s → s.answered = true →
      Does board (.polled signal .given) board
  | wait {signal : Nat} {s : Signal} {notice : CloseNotice} :
      board.signals[signal]? = some s → board.notices[s.notice]? = some notice →
      s.answered = false → notice.closed? = none →
      Does board (.polled signal .pending) board
  | learn {signal : Nat} {s : Signal} {notice : CloseNotice} {reason : CloseReason} :
      board.signals[signal]? = some s → board.notices[s.notice]? = some notice →
      s.answered = false → notice.closed? = some reason →
      Does board (.polled signal (.closed reason))
        { board with signals := board.signals.set signal { s with answered := true } }

theorem notice?_eq_some {board : NoticeBoard} {handle i : Nat} {notice : CloseNotice} :
    board.notice? handle = some (i, notice) ↔
      board.handles[handle]? = some (some i) ∧ board.notices[i]? = some notice := by
  rw [notice?]
  cases board.handles[handle]? with
  | none => simp
  | some held =>
      cases held with
      | none => simp
      | some j =>
          simp only [Option.join_some, Option.bind_some, Option.map_eq_some_iff, Prod.mk.injEq,
            Option.some.injEq]
          constructor
          · rintro ⟨found, hfound, rfl, rfl⟩
            exact ⟨rfl, hfound⟩
          · rintro ⟨rfl, hfound⟩
            exact ⟨notice, hfound, rfl, rfl⟩

/-- A signal that is asked. -/
theorem poll_does {board board' : NoticeBoard} {signal : Nat} {answer : Answer}
    (hpoll : board.poll signal = some (board', answer)) :
    board.Does (.polled signal answer) board' := by
  rw [poll] at hpoll
  obtain ⟨s, hsignal, hpoll⟩ := Option.bind_eq_some_iff.mp hpoll
  obtain ⟨notice, hnotice, hpoll⟩ := Option.map_eq_some_iff.mp hpoll
  split at hpoll
  · rename_i hanswered
    cases hpoll
    exact .askAgain hsignal hanswered
  · rename_i hwaits
    rw [Bool.not_eq_true] at hwaits
    split at hpoll
    · rename_i hclosed
      cases hpoll
      exact .wait hsignal hnotice hwaits hclosed
    · rename_i reason hclosed
      cases hpoll
      exact .learn hsignal hnotice hwaits hclosed

theorem perform_does {board board' : NoticeBoard} {operation : Operation} {event : Event}
    (hperform : board.perform operation = some (board', event)) : board.Does event board' := by
  cases operation with
  | add =>
      cases hperform
      exact .add
  | poll signal =>
      obtain ⟨⟨_, answer⟩, hpoll, hsame⟩ := Option.map_eq_some_iff.mp hperform
      cases hsame
      exact poll_does hpoll
  | fire handle reason =>
      obtain ⟨⟨i, notice⟩, hfound, hperform⟩ := Option.bind_eq_some_iff.mp hperform
      obtain ⟨hhandle, hnotice⟩ := notice?_eq_some.mp hfound
      simp only [fire, hfound, Option.map_some, Option.some.injEq] at hperform
      cases hperform
      exact .fire hnotice (List.mem_of_getElem? hhandle)
  | clone handle =>
      obtain ⟨⟨i, notice⟩, hfound, hperform⟩ := Option.bind_eq_some_iff.mp hperform
      obtain ⟨hhandle, hnotice⟩ := notice?_eq_some.mp hfound
      simp only [clone, hfound, Option.map_some, Option.some.injEq] at hperform
      cases hperform
      exact .clone hnotice (List.mem_of_getElem? hhandle)
  | drop handle =>
      obtain ⟨⟨i, notice⟩, hfound, hperform⟩ := Option.bind_eq_some_iff.mp hperform
      obtain ⟨hhandle, hnotice⟩ := notice?_eq_some.mp hfound
      simp only [drop, hfound, Option.map_some, Option.some.injEq] at hperform
      cases hperform
      exact .drop hnotice hhandle
  | subscribe handle =>
      obtain ⟨⟨i, notice⟩, hfound, hperform⟩ := Option.bind_eq_some_iff.mp hperform
      simp only [subscribe, hfound, Option.map_some, Option.some.injEq] at hperform
      cases hperform
      exact .subscribe (notice?_eq_some.mp hfound).2

/-- What holds of the empty board, and stays through each operation, holds of every history. -/
theorem history_induction {P : History → Prop} (hempty : P {})
    (hdoes : ∀ {past : List Event} {board board' : NoticeBoard} {event : Event},
      board.Does event board' → P ⟨past, board⟩ → P ⟨past ++ [event], board'⟩)
    (operations : List Operation) : P (historyOf operations) := by
  induction operations using List.reverseRecOn with
  | nil => exact hempty
  | append_singleton operations operation ih =>
      rw [historyOf_concat, History.after]
      split
      · rename_i hperform
        exact hdoes (perform_does hperform) ih
      · exact ih

/-! ## The handles of a notice -/

/-- Each notice counts the handles to it that are on the board, and whatever is on the board belongs
to one of its notices. -/
structure Held (board : NoticeBoard) : Prop where
  counted : ∀ i notice, board.notices[i]? = some notice →
    notice.handles = board.handles.count (some i)
  handles_lt : ∀ i, some i ∈ board.handles → i < board.notices.length
  signals_lt : ∀ s ∈ board.signals, s.notice < board.notices.length

/-- What is in a list after one entry has changed. -/
private theorem cases_of_set {α : Type} {entries : List α} {i j : Nat} {new found : α}
    (hfound : (entries.set i new)[j]? = some found) :
    j = i ∧ found = new ∨ j ≠ i ∧ entries[j]? = some found := by
  rw [List.getElem?_set] at hfound
  split_ifs at hfound with hsame hlt
  · exact .inl ⟨hsame.symm, (Option.some.inj hfound).symm⟩
  · exact .inr ⟨Ne.symm hsame, hfound⟩

/-- What is in a list after one entry has been added. -/
private theorem cases_of_append {α : Type} {entries : List α} {j : Nat} {new found : α}
    (hfound : (entries ++ [new])[j]? = some found) :
    j = entries.length ∧ found = new ∨ j < entries.length ∧ entries[j]? = some found := by
  rcases Nat.lt_trichotomy j entries.length with hlt | rfl | hgt
  · exact .inr ⟨hlt, (List.getElem?_append_left hlt).symm.trans hfound⟩
  · rw [List.getElem?_concat_length] at hfound
    exact .inl ⟨rfl, (Option.some.inj hfound).symm⟩
  · have hlen := (List.getElem?_eq_some_iff.mp hfound).1
    rw [List.length_append, List.length_singleton] at hlen
    omega

theorem count_handles_append (handles : List (Option Nat)) (i j : Nat) :
    (handles ++ [some i]).count (some j) =
      handles.count (some j) + if j = i then 1 else 0 := by
  rw [List.count_append, List.count_singleton]
  by_cases hsame : j = i
  · simp [hsame]
  · simp [hsame, Ne.symm hsame]

theorem count_handles_set {handles : List (Option Nat)} {handle i : Nat}
    (hhandle : handles[handle]? = some (some i)) (j : Nat) :
    (handles.set handle none).count (some j) =
      handles.count (some j) - if j = i then 1 else 0 := by
  obtain ⟨hlt, hheld⟩ := List.getElem?_eq_some_iff.mp hhandle
  rw [List.count_set hlt, hheld]
  by_cases hsame : j = i
  · simp [hsame]
  · simp [hsame, Ne.symm hsame]

theorem Held.add {board : NoticeBoard} (hheld : board.Held) : board.add.Held := by
  have hlength : board.add.notices.length = board.notices.length + 1 := by
    simp [NoticeBoard.add]
  refine ⟨fun i notice hnotice => ?_, fun i hmem => ?_, fun s hmem => ?_⟩
  · show notice.handles = (board.handles ++ [some board.notices.length]).count (some i)
    rw [count_handles_append]
    rcases cases_of_append hnotice with ⟨rfl, rfl⟩ | ⟨hlt, hold⟩
    · -- no handle has belonged to the notice that is added
      have hnone : some board.notices.length ∉ board.handles := fun hmem =>
        Nat.lt_irrefl _ (hheld.handles_lt _ hmem)
      rw [List.count_eq_zero.mpr hnone, if_pos rfl]
      rfl
    · rw [if_neg hlt.ne, Nat.add_zero]
      exact hheld.counted i notice hold
  · rw [hlength]
    rcases List.mem_append.mp hmem with hold | hnew
    · exact Nat.lt_succ_of_lt (hheld.handles_lt i hold)
    · cases List.mem_singleton.mp hnew
      exact Nat.lt_succ_self _
  · rw [hlength]
    exact Nat.lt_succ_of_lt (hheld.signals_lt s hmem)

/-- A notice may change if the handles to it are counted right and those to other notices stay. -/
theorem Held.set {board : NoticeBoard} (hheld : board.Held) {i : Nat} {notice changed : CloseNotice}
    {handles : List (Option Nat)} (hnotice : board.notices[i]? = some notice)
    (hcounted : changed.handles = handles.count (some i))
    (hothers : ∀ j, j ≠ i → handles.count (some j) = board.handles.count (some j)) :
    Held { board with notices := board.notices.set i changed, handles := handles } := by
  refine ⟨fun j found hfound => ?_, fun j hmem => ?_, fun s hmem => ?_⟩
  · rcases cases_of_set hfound with ⟨rfl, rfl⟩ | ⟨hne, hold⟩
    · exact hcounted
    · rw [hheld.counted j found hold]
      exact (hothers j hne).symm
  · rw [List.length_set]
    by_cases hj : j = i
    · subst hj
      exact (List.getElem?_eq_some_iff.mp hnotice).1
    · have hpos := List.count_pos_iff.mpr hmem
      rw [hothers j hj] at hpos
      exact hheld.handles_lt j (List.count_pos_iff.mp hpos)
  · rw [List.length_set]
    exact hheld.signals_lt s hmem

theorem Does.held {board board' : NoticeBoard} {event : Event} (hdoes : board.Does event board')
    (hheld : board.Held) : board'.Held := by
  cases hdoes with
  | add => exact hheld.add
  | @fire i notice reason hnotice hhandle =>
      refine hheld.set hnotice ?_ fun _ _ => rfl
      rw [CloseNotice.handles_fired]
      exact hheld.counted i notice hnotice
  | @clone i notice hnotice hhandle =>
      refine hheld.set hnotice ?_ fun j hne => ?_
      · rw [count_handles_append, if_pos rfl, ← hheld.counted i notice hnotice]
        rfl
      · rw [count_handles_append, if_neg hne, Nat.add_zero]
  | @drop handle i notice hnotice hhandle =>
      refine hheld.set hnotice ?_ fun j hne => ?_
      · rw [count_handles_set hhandle, if_pos rfl, ← hheld.counted i notice hnotice]
        rfl
      · rw [count_handles_set hhandle, if_neg hne, Nat.sub_zero]
  | @subscribe i notice hnotice =>
      refine ⟨hheld.counted, hheld.handles_lt, fun s hmem => ?_⟩
      rcases List.mem_append.mp hmem with hold | hnew
      · exact hheld.signals_lt s hold
      · cases List.mem_singleton.mp hnew
        exact (List.getElem?_eq_some_iff.mp hnotice).1
  | askAgain | wait => exact hheld
  | @learn signal s notice reason hsignal hnotice =>
      refine ⟨hheld.counted, hheld.handles_lt, fun s' hmem => ?_⟩
      rcases List.mem_or_eq_of_mem_set hmem with hold | rfl
      · exact hheld.signals_lt s' hold
      · exact (List.getElem?_eq_some_iff.mp hnotice).1

theorem held (operations : List Operation) : (historyOf operations).board.Held := by
  refine history_induction (P := fun history => history.board.Held) ?_
    (fun hdoes hheld => hdoes.held hheld) operations
  exact ⟨nofun, nofun, nofun⟩

/-! ## The reason of a notice -/

/-- Each notice has the reason of its first fire, and only that fire was told that it was first. -/
structure Latched (history : History) : Prop where
  reason : ∀ i notice, history.board.notices[i]? = some notice →
    notice.reason = firstReason i history.past
  first : ∀ i k reason first, (firesOf i history.past)[k]? = some (reason, first) →
    (first = true ↔ k = 0)
  fires_lt : ∀ i, firesOf i history.past ≠ [] → i < history.board.notices.length

/-- What is done without a fire, and leaves the reasons of the notices, leaves what is known of
them. -/
theorem Latched.of_reasons {past : List Event} {board board' : NoticeBoard} {event : Event}
    (hlatched : Latched ⟨past, board⟩) (hnone : ∀ i, event.fires? i = none)
    (hlength : board.notices.length ≤ board'.notices.length)
    (hreason : ∀ i notice, board'.notices[i]? = some notice →
      notice.reason = firstReason i past) :
    Latched ⟨past ++ [event], board'⟩ := by
  have hsame : ∀ i, firesOf i (past ++ [event]) = firesOf i past := fun i =>
    firesOf_concat_of_none (hnone i) past
  refine ⟨fun i notice hnotice => ?_, fun i k reason first hfire => ?_, fun i hsome => ?_⟩
  · show notice.reason = firstReason i (past ++ [event])
    rw [firstReason, hsame]
    exact hreason i notice hnotice
  · rw [hsame] at hfire
    exact hlatched.first i k reason first hfire
  · rw [hsame] at hsome
    exact (hlatched.fires_lt i hsome).trans_le hlength

/-- A notice may change without a fire if its reason stays. -/
theorem Latched.set {past : List Event} {board : NoticeBoard} {event : Event}
    (hlatched : Latched ⟨past, board⟩) (hnone : ∀ i, event.fires? i = none) {i : Nat}
    {notice changed : CloseNotice} {handles : List (Option Nat)}
    (hnotice : board.notices[i]? = some notice) (hsame : changed.reason = notice.reason) :
    Latched ⟨past ++ [event],
      { board with notices := board.notices.set i changed, handles := handles }⟩ := by
  refine hlatched.of_reasons hnone (by simp) fun j found hfound => ?_
  rcases cases_of_set hfound with ⟨rfl, rfl⟩ | ⟨-, hold⟩
  · rw [hsame]
    exact hlatched.reason j notice hnotice
  · exact hlatched.reason j found hold

/-- A fire is told that it is the first if the notice has no reason yet. -/
theorem fire_fst (notice : CloseNotice) (reason : CloseReason) :
    (notice.fire reason).1 = true ↔ notice.reason = none := by
  rw [CloseNotice.fire]
  cases notice.reason <;> simp

theorem firstReason_eq_none {i : Nat} {past : List Event} :
    firstReason i past = none ↔ firesOf i past = [] := by
  simp [firstReason]

/-- The first reason stays, and is the one that has come now if there was none. -/
theorem firstReason_concat_fired (i : Nat) (past : List Event) (reason : CloseReason)
    (first : Bool) :
    firstReason i (past ++ [.fired i reason first]) =
      some ((firstReason i past).getD reason) := by
  rw [firstReason, firesOf_concat, firstReason]
  cases hfires : firesOf i past with
  | nil => simp [Event.fires?]
  | cons fire fires => simp

theorem Latched.fire {past : List Event} {board : NoticeBoard} {i : Nat} {notice : CloseNotice}
    {reason : CloseReason} (hlatched : Latched ⟨past, board⟩)
    (hnotice : board.notices[i]? = some notice) :
    Latched ⟨past ++ [.fired i reason (notice.fire reason).1],
      { board with notices := board.notices.set i (notice.fired reason) }⟩ := by
  have hreason : notice.reason = firstReason i past := hlatched.reason i notice hnotice
  have hother : ∀ j, j ≠ i →
      firesOf j (past ++ [.fired i reason (notice.fire reason).1]) = firesOf j past := fun j hne =>
    firesOf_concat_of_none (show Event.fires? j (.fired i _ _) = none from if_neg hne.symm) past
  refine ⟨fun j found hfound => ?_, fun j k reason' first hfire => ?_, fun j hsome => ?_⟩
  · rcases cases_of_set hfound with ⟨rfl, rfl⟩ | ⟨hne, hold⟩
    · show (notice.fired reason).reason = _
      rw [CloseNotice.reason_fired, firstReason_concat_fired, hreason]
    · show found.reason = firstReason j (past ++ _)
      rw [firstReason, hother j hne]
      exact hlatched.reason j found hold
  · by_cases hj : j = i
    · subst hj
      rw [firesOf_concat, show Event.fires? j (.fired j reason (notice.fire reason).1) =
        some (reason, (notice.fire reason).1) from if_pos rfl] at hfire
      rcases cases_of_append hfire with ⟨rfl, hnew⟩ | ⟨-, hold⟩
      · -- the notice says that it is the first fire if it has no reason yet
        cases hnew
        rw [List.length_eq_zero_iff, ← firstReason_eq_none, ← hreason, fire_fst]
      · exact hlatched.first j k reason' first hold
    · rw [hother j hj] at hfire
      exact hlatched.first j k reason' first hfire
  · rw [List.length_set]
    by_cases hj : j = i
    · subst hj
      exact (List.getElem?_eq_some_iff.mp hnotice).1
    · rw [hother j hj] at hsome
      exact hlatched.fires_lt j hsome

theorem Does.latched {past : List Event} {board board' : NoticeBoard} {event : Event}
    (hdoes : board.Does event board') (hlatched : Latched ⟨past, board⟩) :
    Latched ⟨past ++ [event], board'⟩ := by
  cases hdoes with
  | fire hnotice hhandle => exact hlatched.fire hnotice
  | add =>
      refine hlatched.of_reasons (fun _ => rfl) (by simp [NoticeBoard.add]) fun i notice hnotice => ?_
      rcases cases_of_append hnotice with ⟨rfl, rfl⟩ | ⟨-, hold⟩
      · -- a notice that is added has not been fired before
        have hnone : firesOf board.notices.length past = [] := by
          by_contra hsome
          exact Nat.lt_irrefl _ (hlatched.fires_lt _ hsome)
        rw [firstReason_eq_none.mpr hnone]
        rfl
      · exact hlatched.reason i notice hold
  | clone hnotice => exact hlatched.set (fun _ => rfl) hnotice rfl
  | drop hnotice => exact hlatched.set (fun _ => rfl) hnotice rfl
  | subscribe | askAgain | wait | learn =>
      exact hlatched.of_reasons (fun _ => rfl) le_rfl hlatched.reason

theorem latched (operations : List Operation) : Latched (historyOf operations) := by
  refine history_induction ?_ (fun hdoes hlatched => hdoes.latched hlatched) operations
  exact ⟨nofun, nofun, fun i hsome => absurd rfl hsome⟩

/-! ## What signals are told -/

/-- A notice with a handle has nothing to say but the reason that it was fired with. -/
theorem reason_of_closed? {notice : CloseNotice} {reason : CloseReason}
    (hhandle : notice.handles ≠ 0) (hclosed : notice.closed? = some reason) :
    notice.reason = some reason := by
  rw [CloseNotice.closed?] at hclosed
  cases hreason : notice.reason with
  | none =>
      rw [hreason] at hclosed
      simp [hhandle] at hclosed
  | some first =>
      rw [hreason] at hclosed
      exact hclosed

theorem closed?_of_reason {notice : CloseNotice} {reason : CloseReason}
    (hreason : notice.reason = some reason) : notice.closed? = some reason := by
  rw [CloseNotice.closed?, hreason]

theorem Held.handles_ne_zero {board : NoticeBoard} (hheld : board.Held) {i : Nat}
    {notice : CloseNotice} (hnotice : board.notices[i]? = some notice)
    (hhandle : some i ∈ board.handles) : notice.handles ≠ 0 := by
  rw [hheld.counted i notice hnotice]
  exact (List.count_pos_iff.mpr hhandle).ne'

/-- A notice that says something says the same for good: only who has a handle can change it, and
then it has been fired. -/
theorem Does.closed?_stays {board board' : NoticeBoard} {event : Event}
    (hdoes : board.Does event board') (hheld : board.Held) {i : Nat}
    {notice notice' : CloseNotice} {reason : CloseReason}
    (hnotice : board.notices[i]? = some notice) (hclosed : notice.closed? = some reason)
    (hnotice' : board'.notices[i]? = some notice') : notice'.closed? = some reason := by
  -- Whatever changes a notice needs a handle to it, and keeps the reason that it was fired with.
  have hset : ∀ {j : Nat} {old changed : CloseNotice}, board.notices[j]? = some old →
      some j ∈ board.handles → (board.notices.set j changed)[i]? = some notice' →
      (old.reason = some reason → changed.reason = some reason) →
      notice'.closed? = some reason := by
    intro j old changed hold hhandle hfound hkeeps
    rcases cases_of_set hfound with ⟨rfl, rfl⟩ | ⟨-, hsame⟩
    · cases hold.symm.trans hnotice
      exact closed?_of_reason
        (hkeeps (reason_of_closed? (hheld.handles_ne_zero hnotice hhandle) hclosed))
    · cases hsame.symm.trans hnotice
      exact hclosed
  cases hdoes with
  | add =>
      rcases cases_of_append hnotice' with ⟨rfl, -⟩ | ⟨-, hold⟩
      · cases (List.getElem?_eq_none (Nat.le_refl _)).symm.trans hnotice
      · cases hold.symm.trans hnotice
        exact hclosed
  | fire hchanged hhandle =>
      refine hset hchanged hhandle hnotice' fun hreason => ?_
      rw [CloseNotice.reason_fired, hreason, Option.getD_some]
  | clone hchanged hhandle => exact hset hchanged hhandle hnotice' fun hreason => hreason
  | drop hchanged hhandle =>
      exact hset hchanged (List.mem_of_getElem? hhandle) hnotice' fun hreason => hreason
  | subscribe | askAgain | wait | learn =>
      cases hnotice.symm.trans hnotice'
      exact hclosed

/-- The signals are those that have begun to wait; each knows whether it has been told something,
and what it has been told is what its notice says. -/
structure Told (history : History) : Prop where
  subscribed : history.board.signals.map Signal.notice = subscriptionsOf history.past
  polled_lt : ∀ signal answer, .polled signal answer ∈ history.past →
    signal < history.board.signals.length
  answered : ∀ signal s, history.board.signals[signal]? = some s →
    (s.answered = true ↔ ∃ reason, .polled signal (.closed reason) ∈ history.past)
  told : ∀ signal s notice reason, history.board.signals[signal]? = some s →
    history.board.notices[s.notice]? = some notice →
    .polled signal (.closed reason) ∈ history.past → notice.closed? = some reason

section Signals

variable {past : List Event} {board board' : NoticeBoard} {event : Event}

/-- What a signal was told stays what its notice says. -/
theorem Told.stays (htold : Told ⟨past, board⟩) (hheld : board.Held)
    (hdoes : board.Does event board') {signal : Nat} {s : Signal} {notice : CloseNotice}
    {reason : CloseReason} (hsignal : board.signals[signal]? = some s)
    (hnotice : board'.notices[s.notice]? = some notice)
    (hpolled : .polled signal (.closed reason) ∈ past) : notice.closed? = some reason := by
  have hlt := hheld.signals_lt s (List.mem_of_getElem? hsignal)
  have hbefore := List.getElem?_eq_getElem hlt
  exact hdoes.closed?_stays hheld hbefore (htold.told signal s _ reason hsignal hbefore hpolled)
    hnotice

/-- What tells no signal anything, and adds none, leaves what is known of the signals. -/
theorem Told.of_signals (htold : Told ⟨past, board⟩) (hheld : board.Held)
    (hdoes : board.Does event board') (hsignals : board'.signals = board.signals)
    (hnone : event.subscribes? = none)
    (hpolled : ∀ signal answer, event = .polled signal answer →
      signal < board.signals.length ∧ ∀ reason, answer ≠ .closed reason) :
    Told ⟨past ++ [event], board'⟩ := by
  have hbefore : ∀ {signal reason}, .polled signal (.closed reason) ∈ past ++ [event] →
      .polled signal (.closed reason) ∈ past := by
    intro signal reason hmem
    rcases List.mem_append.mp hmem with hold | hnew
    · exact hold
    · exact absurd rfl ((hpolled signal _ (List.mem_singleton.mp hnew).symm).2 reason)
  refine ⟨?_, fun signal answer hmem => ?_, fun signal s hsignal => ?_,
    fun signal s notice reason hsignal hnotice hmem => ?_⟩
  · rw [hsignals, subscriptionsOf_concat, hnone, Option.toList_none, List.append_nil]
    exact htold.subscribed
  · rw [hsignals]
    rcases List.mem_append.mp hmem with hold | hnew
    · exact htold.polled_lt signal answer hold
    · exact (hpolled signal answer (List.mem_singleton.mp hnew).symm).1
  · rw [hsignals] at hsignal
    rw [htold.answered signal s hsignal]
    exact exists_congr fun reason => ⟨List.mem_append_left _, hbefore⟩
  · rw [hsignals] at hsignal
    exact htold.stays hheld hdoes hsignal hnotice (hbefore hmem)

/-- A signal that begins to wait has been told nothing. -/
theorem Told.subscribe (htold : Told ⟨past, board⟩) (i : Nat) :
    Told ⟨past ++ [.subscribed i], { board with signals := board.signals ++ [{ notice := i }] }⟩ := by
  have hbefore : ∀ {signal answer}, .polled signal answer ∈ past ++ [Event.subscribed i] →
      .polled signal answer ∈ past := by
    intro signal answer hmem
    rcases List.mem_append.mp hmem with hold | hnew
    · exact hold
    · cases List.mem_singleton.mp hnew
  have hnothing : ∀ {answer}, .polled board.signals.length answer ∉ past := fun hmem =>
    Nat.lt_irrefl _ (htold.polled_lt _ _ hmem)
  refine ⟨?_, fun signal answer hmem => ?_, fun signal s hsignal => ?_,
    fun signal s notice reason hsignal hnotice hmem => ?_⟩
  · rw [subscriptionsOf_concat, ← htold.subscribed, List.map_append]
    rfl
  · rw [List.length_append]
    exact Nat.lt_add_right _ (htold.polled_lt signal answer (hbefore hmem))
  · rcases cases_of_append hsignal with ⟨rfl, rfl⟩ | ⟨-, hold⟩
    · exact iff_of_false Bool.false_ne_true fun ⟨reason, hmem⟩ => hnothing (hbefore hmem)
    · rw [htold.answered signal s hold]
      exact exists_congr fun reason => ⟨List.mem_append_left _, hbefore⟩
  · rcases cases_of_append hsignal with ⟨rfl, rfl⟩ | ⟨-, hold⟩
    · exact absurd (hbefore hmem) hnothing
    · exact htold.told signal s notice reason hold hnotice (hbefore hmem)

/-- A signal that is told the reason has been told nothing before. -/
theorem Told.learn (htold : Told ⟨past, board⟩) {signal : Nat} {s : Signal} {notice : CloseNotice}
    {reason : CloseReason} (hsignal : board.signals[signal]? = some s)
    (hnotice : board.notices[s.notice]? = some notice) (hwaits : s.answered = false)
    (hclosed : notice.closed? = some reason) :
    Told ⟨past ++ [.polled signal (.closed reason)],
      { board with signals := board.signals.set signal { s with answered := true } }⟩ := by
  have hlt := (List.getElem?_eq_some_iff.mp hsignal).1
  have hnothing : ∀ {reason'}, .polled signal (.closed reason') ∉ past := fun {reason'} hmem => by
    have htrue := (htold.answered signal s hsignal).mpr ⟨reason', hmem⟩
    exact Bool.false_ne_true (hwaits.symm.trans htrue)
  have hother : ∀ {other reason'}, other ≠ signal →
      (.polled other (.closed reason') ∈ past ++ [Event.polled signal (.closed reason)] ↔
        .polled other (.closed reason') ∈ past) := by
    intro other reason' hne
    rw [List.mem_append, List.mem_singleton]
    refine or_iff_left fun hnew => ?_
    cases hnew
    exact hne rfl
  refine ⟨?_, fun signal' answer hmem => ?_, fun signal' s' hsignal' => ?_,
    fun signal' s' notice' reason' hsignal' hnotice' hmem => ?_⟩
  · rw [subscriptionsOf_concat, List.map_set]
    show (board.signals.map Signal.notice).set signal s.notice = subscriptionsOf past ++ []
    have hsame : (board.signals.map Signal.notice)[signal]? = some s.notice := by
      rw [List.getElem?_map, hsignal, Option.map_some]
    obtain ⟨_, hget⟩ := List.getElem?_eq_some_iff.mp hsame
    rw [List.append_nil, ← htold.subscribed, ← hget, List.set_getElem_self]
  · rw [List.length_set]
    rcases List.mem_append.mp hmem with hold | hnew
    · exact htold.polled_lt signal' answer hold
    · cases List.mem_singleton.mp hnew
      exact hlt
  · rcases cases_of_set hsignal' with ⟨rfl, rfl⟩ | ⟨hne, hold⟩
    · exact iff_of_true rfl ⟨reason, List.mem_append_right _ (List.mem_singleton_self _)⟩
    · rw [htold.answered signal' s' hold]
      exact exists_congr fun reason' => (hother hne).symm
  · rcases cases_of_set hsignal' with ⟨rfl, rfl⟩ | ⟨hne, hold⟩
    · cases hnotice.symm.trans hnotice'
      rcases List.mem_append.mp hmem with hold | hnew
      · exact absurd hold hnothing
      · cases List.mem_singleton.mp hnew
        exact hclosed
    · exact htold.told signal' s' notice' reason' hold hnotice' ((hother hne).mp hmem)

theorem Does.tells (hdoes : board.Does event board') (hheld : board.Held)
    (htold : Told ⟨past, board⟩) : Told ⟨past ++ [event], board'⟩ := by
  cases hdoes with
  | subscribe hnotice => exact htold.subscribe _
  | learn hsignal hnotice hwaits hclosed => exact htold.learn hsignal hnotice hwaits hclosed
  | add => exact htold.of_signals hheld .add rfl rfl nofun
  | fire hnotice hhandle => exact htold.of_signals hheld (.fire hnotice hhandle) rfl rfl nofun
  | clone hnotice hhandle => exact htold.of_signals hheld (.clone hnotice hhandle) rfl rfl nofun
  | drop hnotice hhandle => exact htold.of_signals hheld (.drop hnotice hhandle) rfl rfl nofun
  | askAgain hsignal hanswered =>
      refine htold.of_signals hheld (.askAgain hsignal hanswered) rfl rfl fun signal answer heq => ?_
      cases heq
      exact ⟨(List.getElem?_eq_some_iff.mp hsignal).1, nofun⟩
  | wait hsignal hnotice hwaits hclosed =>
      refine htold.of_signals hheld (.wait hsignal hnotice hwaits hclosed) rfl rfl
        fun signal answer heq => ?_
      cases heq
      exact ⟨(List.getElem?_eq_some_iff.mp hsignal).1, nofun⟩

end Signals

theorem told (operations : List Operation) : Told (historyOf operations) := by
  refine (history_induction (P := fun history => history.board.Held ∧ Told history) ?_
    (fun hdoes ⟨hheld, htold⟩ => ⟨hdoes.held hheld, hdoes.tells hheld htold⟩) operations).2
  exact ⟨⟨nofun, nofun, nofun⟩, ⟨rfl, nofun, nofun, nofun⟩⟩

/-! ## The latch -/

/-- What is due to those who wait on a notice is what the notice says. -/
theorem due_eq {history : History} (hheld : history.board.Held) (hlatched : Latched history)
    {i : Nat} {notice : CloseNotice} (hnotice : history.board.notices[i]? = some notice) :
    history.due i = notice.closed?.elim .pending .closed := by
  rw [History.due, ← hlatched.reason i notice hnotice, CloseNotice.closed?]
  cases notice.reason with
  | some reason => rfl
  | none =>
      have hcount := hheld.counted i notice hnotice
      by_cases hmem : some i ∈ history.board.handles
      · simp [hmem, hheld.handles_ne_zero hnotice hmem]
      · simp [hmem, hcount, List.count_eq_zero.mpr hmem]

/-- What a notice is like after what has been done. -/
structure History.Latches (history : History) (i : Nat) : Prop where
  /-- Of all fires only the first was told that it was the first. -/
  first : ∀ k reason first, (firesOf i history.past)[k]? = some (reason, first) →
    (first = true ↔ k = 0)
  /-- Every handle can fire the notice, and is told whether it has not been fired before. -/
  fires : ∀ handle reason, history.board.handles[handle]? = some (some i) →
    ∃ board first, history.board.fire handle reason = some (board, first) ∧
      (first = true ↔ firesOf i history.past = [])
  /-- Every handle knows whether the notice has been fired. -/
  isFired : ∀ handle, history.board.handles[handle]? = some (some i) →
    ∃ notice, history.board.notice? handle = some (i, notice) ∧
      (notice.isFired = true ↔ firesOf i history.past ≠ [])
  /-- Every signal that has been told nothing yet is told what is due, and goes on waiting if that
  is nothing. -/
  waits : ∀ signal, (subscriptionsOf history.past)[signal]? = some i →
    (∀ reason, .polled signal (.closed reason) ∉ history.past) →
    ∃ board, history.board.poll signal = some (board, history.due i) ∧
      (history.due i = .pending → board = history.board)
  /-- What a signal has been told is due still. -/
  told : ∀ signal reason, (subscriptionsOf history.past)[signal]? = some i →
    .polled signal (.closed reason) ∈ history.past → history.due i = .closed reason

/-- A close notice is a latch, whatever is done with its handles and its signals and in whatever
order; and what has been done stays done, so that its first fire stays the first. -/
theorem latches (operations more : List Operation) (i : Nat) :
    (historyOf operations).Latches i ∧
      (historyOf operations).past <+: (historyOf (operations ++ more)).past := by
  refine ⟨?_, past_isPrefix operations more⟩
  have hheld := held operations
  have hlatched := latched operations
  have htold := told operations
  generalize historyOf operations = history at hheld hlatched htold
  have hfound : ∀ handle, history.board.handles[handle]? = some (some i) →
      ∃ notice, history.board.notice? handle = some (i, notice) ∧
        notice.reason = firstReason i history.past := by
    intro handle hhandle
    have hlt := hheld.handles_lt i (List.mem_of_getElem? hhandle)
    have hnotice := List.getElem?_eq_getElem hlt
    exact ⟨_, notice?_eq_some.mpr ⟨hhandle, hnotice⟩, hlatched.reason i _ hnotice⟩
  have hsignal : ∀ signal : Nat, (subscriptionsOf history.past)[signal]? = some i →
      ∃ (s : Signal) (notice : CloseNotice), history.board.signals[signal]? = some s ∧
        s.notice = i ∧ history.board.notices[i]? = some notice := by
    intro signal hsubscribed
    rw [← htold.subscribed, List.getElem?_map] at hsubscribed
    obtain ⟨s, hs, rfl⟩ := Option.map_eq_some_iff.mp hsubscribed
    have hlt := hheld.signals_lt s (List.mem_of_getElem? hs)
    exact ⟨s, _, hs, rfl, List.getElem?_eq_getElem hlt⟩
  refine ⟨hlatched.first i, fun handle reason hhandle => ?_, fun handle hhandle => ?_,
    fun signal hsubscribed hnothing => ?_, fun signal reason hsubscribed hpolled => ?_⟩
  · obtain ⟨notice, hnotice, hreason⟩ := hfound handle hhandle
    refine ⟨_, (notice.fire reason).1, by rw [fire, hnotice]; rfl, ?_⟩
    rw [fire_fst, hreason, firstReason_eq_none]
  · obtain ⟨notice, hnotice, hreason⟩ := hfound handle hhandle
    refine ⟨notice, hnotice, ?_⟩
    rw [CloseNotice.isFired, hreason, Option.isSome_iff_ne_none, ne_eq, firstReason_eq_none]
  · obtain ⟨s, notice, hs, rfl, hnotice⟩ := hsignal signal hsubscribed
    have hwaits : s.answered = false := by
      rw [← Bool.not_eq_true, htold.answered signal s hs]
      exact fun ⟨reason, hmem⟩ => hnothing reason hmem
    rw [due_eq hheld hlatched hnotice, poll, hs, Option.bind_some, hnotice, Option.map_some, hwaits]
    cases notice.closed? with
    | none => exact ⟨history.board, rfl, fun _ => rfl⟩
    | some reason => exact ⟨_, rfl, nofun⟩
  · obtain ⟨s, notice, hs, rfl, hnotice⟩ := hsignal signal hsubscribed
    rw [due_eq hheld hlatched hnotice, htold.told signal s notice reason hs hnotice hpolled]
    rfl

/-- A signal waits on a notice with two handles, of which one is dropped and the other fires twice;
another signal begins to wait after that, and then no handle is left. -/
def lateSignal : List Operation :=
  [.add, .subscribe 0, .clone 0, .poll 0, .drop 0, .fire 1 (.error "lost"), .fire 1 .graceful,
    .subscribe 1, .drop 1, .poll 0]

theorem lateSignal_past :
    (historyOf lateSignal).past =
      [.added, .subscribed 0, .cloned 0, .polled 0 .pending, .dropped 0,
        .fired 0 (.error "lost") true, .fired 0 .graceful false, .subscribed 0, .dropped 0,
        .polled 0 (.closed (.error "lost"))] := by
  decide

/-- The signal that has come late learns the reason of the first fire as well. -/
theorem lateSignal_latches :
    (subscriptionsOf (historyOf lateSignal).past)[1]? = some 0 ∧
      (historyOf lateSignal).due 0 = .closed (.error "lost") ∧
      ∃ board, (historyOf lateSignal).board.poll 1 = some (board, .closed (.error "lost")) := by
  have hlatches := (latches lateSignal [] 0).1
  have hdue : (historyOf lateSignal).due 0 = .closed (.error "lost") :=
    hlatches.told 0 _ (by decide) (by decide)
  obtain ⟨board, hpoll, -⟩ := hlatches.waits 1 (by decide) (by simp [lateSignal_past])
  rw [hdue] at hpoll
  exact ⟨by decide, hdue, board, hpoll⟩

end BrokerClient.NoticeBoard
