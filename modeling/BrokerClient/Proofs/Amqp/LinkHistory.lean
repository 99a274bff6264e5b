import BrokerClient.Amqp.Link
import Mathlib.Tactic.SplitIfs

/-!
# The history of a connection and its channels

Errors are reported on a connection and on its channels, the client closes either, and the task of
each channel runs in between, in any order.  A close may take its time, during which anything else
is done.  What has been done is kept as a list of events.

* `LinkChannel.forwardChoosing_eq`: it makes no difference which notice the task of a channel looks
  at first.
* `after_does`: what each operation makes of a history.
-/

namespace BrokerClient.Amqp

/-! ## The task of a channel -/

/-- The task of a channel when it runs, with a choice of its own when both notices have fired. -/
def LinkChannel.forwardChoosing (parent : CloseNotice) (prefersParent : Bool) (c : LinkChannel) :
    LinkChannel :=
  if !c.forwarding then c
  else
    match parent.closed? with
    | some reason =>
      if c.notice.isFired && !prefersParent then { c with forwarding := false }
      else { c.notified reason with forwarding := false }
    | none => if c.notice.isFired then { c with forwarding := false } else c

/-- It makes no difference what the task chooses. -/
theorem LinkChannel.forwardChoosing_eq (parent : CloseNotice) (prefersParent : Bool)
    (c : LinkChannel) : c.forwardChoosing parent prefersParent = c.forward parent := by
  rw [forwardChoosing, forward]
  split
  · rfl
  · by_cases hfired : c.notice.isFired = true
    · have hsame : c.notified = fun _ => c := by
        funext reason
        rw [notified, CloseNotice.fired_of_isFired hfired]
      cases parent.closed? <;> simp [hfired, hsame]
    · cases parent.closed? <;> simp [hfired]

/-- A task that waits ends as soon as there is a reason; the channel's own goes before that of the
connection. -/
theorem LinkChannel.forward_of_waits {parent : CloseNotice} {c : LinkChannel}
    (hhandle : parent.handles ≠ 0) (hwaits : c.forwarding = true) :
    c.forward parent = match c.notice.reason.or parent.reason with
      | some reason => { c.notified reason with forwarding := false }
      | none => c := by
  rw [forward, hwaits]
  cases hown : c.notice.reason with
  | some reason =>
      have hfired : c.notice.isFired = true := by rw [CloseNotice.isFired, hown, Option.isSome_some]
      simp [hfired, notified, CloseNotice.fired_of_isFired]
  | none =>
      have hfired : c.notice.isFired = false := by
        rw [CloseNotice.isFired, hown, Option.isSome_none]
      cases hparent : parent.reason with
      | some reason => simp [hfired, CloseNotice.closed?, hparent]
      | none => simp [hfired, CloseNotice.closed?, hparent, hhandle]

namespace Link

/-! ## What is done to a connection and its channels -/

/-- A connection, or the channel at a position. -/
inductive Place
  | connection
  | channel (position : Nat)
  deriving DecidableEq

/-- The notice of a place; there is none if there is no such channel. -/
def noticeAt (l : Link) : Place → Option CloseNotice
  | .connection => some l.notice
  | .channel i => (l.channels[i]?).map LinkChannel.notice

/-- The reason that the notice of a place holds. -/
def reasonAt (l : Link) (place : Place) : Option CloseReason :=
  (l.noticeAt place).bind CloseNotice.reason

def isConnectedAt (l : Link) : Place → Bool
  | .connection => l.isConnected
  | .channel i => (l.channels[i]?).any LinkChannel.isConnected

def isClosedAt (l : Link) : Place → Bool
  | .connection => l.isClosed
  | .channel i => (l.channels[i]?).any LinkChannel.isClosed

def leftAt (l : Link) (state : LinkState) : Place → Link
  | .connection => l.left state
  | .channel i => l.atChannel i (·.left state)

def notifiedAt (l : Link) (reason : CloseReason) : Place → Link
  | .connection => l.notified reason
  | .channel i => l.atChannel i (·.notified reason)

/-- What can be done.  The protocol layer may take its time over a close, in which anything else is
done. -/
inductive Operation
  /-- A number is taken for a channel; the server may still refuse the channel. -/
  | takeNumber (number : Nat)
  | openChannel (number : Nat)
  /-- The protocol layer gives up the connected state. -/
  | leave (place : Place) (state : LinkState)
  /-- The protocol layer reports an error. -/
  | report (place : Place) (text : String)
  /-- The client calls close. -/
  | close (place : Place)
  /-- The protocol layer is done with a close, and the call returns. -/
  | finish (place : Place) (result : Except BrokerError Unit)
  /-- The task of a channel runs. -/
  | forward (position : Nat) (prefersParent : Bool)

/-- What has been done, as far as it concerns the notices. -/
inductive Event
  | reported (place : Place) (text : String)
  /-- A call of close has returned. -/
  | returned (place : Place) (result : Except BrokerError Unit)
  /-- The task of a channel has ended. -/
  | ended (position : Nat)

/-- A connection with what has been done to it, and the calls of close that have not returned. -/
structure History where
  past : List Event := []
  link : Link
  closing : List Place := []

/-- The history after an operation; one that cannot be done leaves no trace. -/
def History.after (history : History) : Operation → History
  | .takeNumber number => { history with link := { history.link with lastNumber := number } }
  | .openChannel number => { history with link := history.link.withChannel number }
  | .leave place state => { history with link := history.link.leftAt state place }
  | .report place text =>
    if (history.link.noticeAt place).isSome then
      { history with
        past := history.past ++ [.reported place text]
        link := history.link.notifiedAt (.error text) place }
    else history
  | .close place =>
    if history.link.isConnectedAt place then { history with closing := place :: history.closing }
    else if (history.link.noticeAt place).isSome then
      { history with
        past := history.past ++ [.returned place (.ok ())]
        link := history.link.notifiedAt .graceful place }
    else history
  | .finish place result =>
    if place ∈ history.closing then
      { past := history.past ++ [.returned place result]
        link := history.link.notifiedAt .graceful place
        closing := history.closing.erase place }
    else history
  | .forward i prefersParent =>
    let run := LinkChannel.forwardChoosing history.link.notice prefersParent
    let ends := (history.link.channels[i]?).any fun c => c.forwarding && !(run c).forwarding
    { history with
      past := history.past ++ if ends then [.ended i] else []
      link := history.link.atChannel i run }

/-- The history of these operations on a new connection. -/
def historyOf (endpoint : String) (channelMax : Nat) (operations : List Operation) : History :=
  operations.foldl History.after { link := { endpoint, channelMax } }

/-- The reason that a place has been fired with, by a report or by a close. -/
def Event.fires? (place : Place) : Event → Option CloseReason
  | .reported other text => if other = place then some (.error text) else none
  | .returned other _ => if other = place then some .graceful else none
  | .ended _ => none

/-- The reason of the first fire of a place. -/
def firstReason (place : Place) (past : List Event) : Option CloseReason :=
  past.findSome? (Event.fires? place)

/-- Has the task of the place ended?  A connection has none. -/
def Place.EndedIn (past : List Event) : Place → Prop
  | .connection => False
  | .channel i => .ended i ∈ past

/-- Is this the end of the task of a channel? -/
def Event.isEndOf (position : Nat) : Event → Bool
  | .ended other => other = position
  | _ => false

/-- What had been done when the task of a channel ended. -/
def untilEnd (position : Nat) (past : List Event) : List Event :=
  past.takeWhile fun event => !event.isEndOf position

/-- The reason that there was when the task of a channel ended: that of the channel itself, or else
that of the connection. -/
def passedReason (position : Nat) (past : List Event) : Option CloseReason :=
  (firstReason (.channel position) (untilEnd position past)).or
    (firstReason .connection (untilEnd position past))

theorem historyOf_concat (endpoint : String) (channelMax : Nat) (operations : List Operation)
    (operation : Operation) :
    historyOf endpoint channelMax (operations ++ [operation]) =
      (historyOf endpoint channelMax operations).after operation := by
  simp [historyOf]

theorem firstReason_concat (place : Place) (past : List Event) (event : Event) :
    firstReason place (past ++ [event]) = (firstReason place past).or (event.fires? place) := by
  simp [firstReason]

theorem Event.isEndOf_iff {i : Nat} {event : Event} :
    event.isEndOf i = true ↔ event = .ended i := by
  cases event <;> simp [Event.isEndOf]

theorem untilEnd_append_of_waits {i : Nat} {past : List Event} (hwaits : .ended i ∉ past)
    (more : List Event) : untilEnd i (past ++ more) = past ++ untilEnd i more := by
  refine List.takeWhile_append_of_pos fun event hmem => ?_
  rw [Bool.not_eq_true', ← Bool.not_eq_true, Event.isEndOf_iff]
  rintro rfl
  exact hwaits hmem

/-- What is done once the task has ended does not count. -/
theorem untilEnd_append {i : Nat} {past : List Event} (hended : .ended i ∈ past)
    (more : List Event) : untilEnd i (past ++ more) = untilEnd i past := by
  induction past with
  | nil => exact absurd hended List.not_mem_nil
  | cons first rest ih =>
      by_cases hfirst : first.isEndOf i = true
      · simp [untilEnd, hfirst]
      · have hrest : .ended i ∈ rest :=
          (List.mem_cons.mp hended).resolve_left fun heq => hfirst (Event.isEndOf_iff.mpr heq.symm)
        have hsame := ih hrest
        rw [untilEnd, untilEnd] at hsame ⊢
        simp [hfirst, hsame]

theorem passedReason_concat_end {i : Nat} {past : List Event} (hwaits : .ended i ∉ past) :
    passedReason i (past ++ [.ended i]) =
      (firstReason (.channel i) past).or (firstReason .connection past) := by
  have huntil : untilEnd i (past ++ [.ended i]) = past := by
    rw [untilEnd_append_of_waits hwaits]
    simp [untilEnd, Event.isEndOf]
  rw [passedReason, huntil]

theorem passedReason_append {i : Nat} {past : List Event} (hended : .ended i ∈ past)
    (more : List Event) : passedReason i (past ++ more) = passedReason i past := by
  rw [passedReason, untilEnd_append hended, passedReason]

/-- The first fire stays the first. -/
theorem firstReason_of_isPrefix {place : Place} {past later : List Event} {reason : CloseReason}
    (hgrown : past <+: later) (hfirst : firstReason place past = some reason) :
    firstReason place later = some reason := by
  obtain ⟨rest, rfl⟩ := hgrown
  rw [firstReason, List.findSome?_append]
  exact Option.or_eq_some_iff.mpr (.inl hfirst)

/-! ## What an operation does -/

/-- Do the tasks of the channels still wait? -/
def tasks (l : Link) : List Bool :=
  l.channels.map LinkChannel.forwarding

/-- The task of a channel ends. -/
def taskEndedAt (l : Link) (position : Nat) : Link :=
  l.atChannel position fun c => { c with forwarding := false }

/-- `history.Does history'` says what can become of a history by one operation. -/
inductive History.Does (history : History) : History → Prop
  | nothing : Does history history
  | takeNumber (number : Nat) :
      Does history { history with link := { history.link with lastNumber := number } }
  | openChannel (number : Nat) :
      Does history { history with link := history.link.withChannel number }
  | leave (place : Place) (state : LinkState) :
      Does history { history with link := history.link.leftAt state place }
  | beginClosing {place : Place} : (history.link.noticeAt place).isSome = true →
      Does history { history with closing := place :: history.closing }
  | fire {event : Event} {place : Place} {reason : CloseReason} {closing : List Place} :
      (∀ other, event.fires? other = if place = other then some reason else none) →
      (history.link.noticeAt place).isSome = true → closing ⊆ history.closing →
      Does history ⟨history.past ++ [event], history.link.notifiedAt reason place, closing⟩
  | endTask {i : Nat} {c : LinkChannel} {reason : CloseReason} :
      history.link.channels[i]? = some c → c.forwarding = true →
      c.notice.reason.or history.link.notice.reason = some reason →
      Does history
        { history with
          past := history.past ++ [.ended i]
          link := (history.link.notifiedAt reason (.channel i)).taskEndedAt i }

section Places

variable {l : Link} {place other : Place} {reason : CloseReason} {i : Nat}

theorem getElem?_atChannel (change : LinkChannel → LinkChannel) (j : Nat) :
    (l.atChannel i change).channels[j]? =
      (l.channels[j]?).map fun c => if i = j then change c else c :=
  List.getElem?_modify ..

theorem atChannel_congr {change change' : LinkChannel → LinkChannel}
    (hsame : ∀ c, l.channels[i]? = some c → change c = change' c) :
    l.atChannel i change = l.atChannel i change' := by
  have hchannels : (l.atChannel i change).channels = (l.atChannel i change').channels := by
    apply List.ext_getElem?
    intro j
    rw [getElem?_atChannel, getElem?_atChannel]
    by_cases hij : i = j
    · subst hij
      cases hc : l.channels[i]? with
      | none => rfl
      | some c => simp [hsame c hc]
    · simp [hij]
  calc
    l.atChannel i change = { l with channels := (l.atChannel i change).channels } := rfl
    _ = l.atChannel i change' := by rw [hchannels, atChannel]

theorem atChannel_eq_self {change : LinkChannel → LinkChannel}
    (hsame : ∀ c, l.channels[i]? = some c → change c = c) : l.atChannel i change = l := by
  calc
    l.atChannel i change = l.atChannel i id := atChannel_congr hsame
    _ = l := by rw [atChannel, List.modify_id]

theorem atChannel_atChannel (change change' : LinkChannel → LinkChannel) :
    (l.atChannel i change).atChannel i change' = l.atChannel i (change' ∘ change) := by
  simp only [atChannel, List.modify_modify_eq]

/-- What a change leaves in every channel it leaves in the row of channels. -/
theorem map_atChannel {α : Type} {view : LinkChannel → α} {change : LinkChannel → LinkChannel}
    (hsame : ∀ c, view (change c) = view c) :
    (l.atChannel i change).channels.map view = l.channels.map view := by
  apply List.ext_getElem?
  intro j
  rw [List.getElem?_map, getElem?_atChannel, Option.map_map, List.getElem?_map]
  refine congrArg (Option.map · _) (funext ?_)
  intro c
  by_cases hij : i = j <;> simp [hij, hsame]

/-! ### The notices -/

theorem noticeAt_atChannel {change : LinkChannel → LinkChannel}
    (hsame : ∀ c, (change c).notice = c.notice) :
    (l.atChannel i change).noticeAt place = l.noticeAt place := by
  cases place with
  | connection => rfl
  | channel j =>
      rw [noticeAt, ← List.getElem?_map, map_atChannel hsame, List.getElem?_map, noticeAt]

theorem noticeAt_leftAt (state : LinkState) :
    (l.leftAt state place).noticeAt other = l.noticeAt other := by
  cases place with
  | connection => cases other <;> rfl
  | channel i => exact noticeAt_atChannel fun _ => rfl

theorem noticeAt_taskEndedAt : (l.taskEndedAt i).noticeAt place = l.noticeAt place :=
  noticeAt_atChannel fun _ => rfl

theorem noticeAt_notifiedAt :
    (l.notifiedAt reason place).noticeAt other =
      (l.noticeAt other).map fun notice =>
        if place = other then notice.fired reason else notice := by
  cases place with
  | connection =>
      cases other with
      | connection => rfl
      | channel j => simp [notifiedAt, notified, noticeAt, Function.comp_def]
  | channel i =>
      cases other with
      | connection => simp [notifiedAt, atChannel, noticeAt]
      | channel j =>
          rw [notifiedAt, noticeAt, getElem?_atChannel, Option.map_map, noticeAt, Option.map_map]
          refine congrArg (Option.map · _) (funext ?_)
          intro c
          by_cases hij : i = j <;> simp [hij, LinkChannel.notified]

theorem reasonAt_notifiedAt (hthere : (l.noticeAt place).isSome = true) :
    (l.notifiedAt reason place).reasonAt other =
      if place = other then some ((l.reasonAt other).getD reason) else l.reasonAt other := by
  rw [reasonAt, noticeAt_notifiedAt, reasonAt]
  by_cases hsame : place = other
  · subst hsame
    obtain ⟨notice, hnotice⟩ := Option.isSome_iff_exists.mp hthere
    simp [hnotice, CloseNotice.reason_fired]
  · simp [hsame]

/-! ### The tasks -/

theorem tasks_leftAt (state : LinkState) : (l.leftAt state place).tasks = l.tasks := by
  cases place with
  | connection => rfl
  | channel i => exact map_atChannel fun _ => rfl

theorem tasks_notifiedAt : (l.notifiedAt reason place).tasks = l.tasks := by
  cases place with
  | connection => rfl
  | channel i => exact map_atChannel fun _ => rfl

theorem tasks_taskEndedAt : (l.taskEndedAt i).tasks = l.tasks.set i false := by
  apply List.ext_getElem?
  intro j
  rw [tasks, List.getElem?_map, taskEndedAt, getElem?_atChannel, Option.map_map, tasks,
    List.getElem?_set, List.length_map, List.getElem?_map]
  by_cases hij : i = j
  · subst hij
    by_cases hlt : i < l.channels.length <;> simp [hlt]
  · simp [hij, Function.comp_def]

theorem tasks_withChannel (number : Nat) : (l.withChannel number).tasks = l.tasks ++ [true] := by
  simp [tasks, withChannel]

theorem length_tasks : l.tasks.length = l.channels.length :=
  List.length_map _

theorem reasonAt_withChannel (number : Nat) :
    (l.withChannel number).reasonAt place = l.reasonAt place := by
  cases place with
  | connection => rfl
  | channel j =>
      rw [reasonAt, noticeAt, withChannel, List.getElem?_append, reasonAt, noticeAt]
      by_cases hlt : j < l.channels.length
      · rw [if_pos hlt]
      · rw [if_neg hlt, List.getElem?_eq_none (Nat.not_lt.mp hlt)]
        cases j - l.channels.length <;> rfl

theorem noticeAt_isSome_iff :
    (l.noticeAt place).isSome = true ↔ ∀ i, place = .channel i → i < l.channels.length := by
  cases place with
  | connection => exact iff_of_true rfl nofun
  | channel j => simp [noticeAt]

theorem noticeAt_isSome_of_connected (hconnected : l.isConnectedAt place = true) :
    (l.noticeAt place).isSome = true := by
  cases place with
  | connection => rfl
  | channel j =>
      obtain ⟨c, hc, -⟩ := (Option.any_eq_true _ _).mp hconnected
      rw [noticeAt, hc]
      rfl

end Places

section Steps

variable {history history' : History}

/-- The task of a channel runs. -/
theorem forward_does (hhandle : history.link.notice.handles ≠ 0) (i : Nat) (prefersParent : Bool) :
    history.Does (history.after (.forward i prefersParent)) := by
  have hforward : LinkChannel.forwardChoosing history.link.notice prefersParent =
      LinkChannel.forward history.link.notice :=
    funext (LinkChannel.forwardChoosing_eq _ _)
  simp only [History.after, hforward]
  cases hc : history.link.channels[i]? with
  | none =>
      have hsame : history.link.atChannel i (LinkChannel.forward history.link.notice) =
          history.link := by
        apply atChannel_eq_self
        intro c hchannel
        cases hc.symm.trans hchannel
      simpa [hsame] using History.Does.nothing
  | some c =>
      have hsame : c.forward history.link.notice = c →
          history.link.atChannel i (LinkChannel.forward history.link.notice) = history.link := by
        intro hrun
        apply atChannel_eq_self
        intro c' hc'
        cases hc.symm.trans hc'
        exact hrun
      by_cases hwaits : c.forwarding = true
      · have hrun := LinkChannel.forward_of_waits hhandle hwaits
        cases hreason : c.notice.reason.or history.link.notice.reason with
        | none =>
            rw [hreason] at hrun
            simpa [hsame hrun, hrun] using History.Does.nothing
        | some reason =>
            rw [hreason] at hrun
            have hlink : history.link.atChannel i (LinkChannel.forward history.link.notice) =
                (history.link.notifiedAt reason (.channel i)).taskEndedAt i := by
              rw [taskEndedAt, notifiedAt, atChannel_atChannel]
              apply atChannel_congr
              intro c' hc'
              cases hc.symm.trans hc'
              exact hrun
            simpa [hlink, hrun, hwaits] using History.Does.endTask hc hwaits hreason
      · have hrun : c.forward history.link.notice = c := by simp [LinkChannel.forward, hwaits]
        simpa [hsame hrun, hrun, hwaits] using History.Does.nothing

theorem after_does
    (hclosing : ∀ place ∈ history.closing, (history.link.noticeAt place).isSome = true)
    (hhandle : history.link.notice.handles ≠ 0) (operation : Operation) :
    history.Does (history.after operation) := by
  cases operation with
  | takeNumber number => exact .takeNumber number
  | openChannel number => exact .openChannel number
  | leave place state => exact .leave place state
  | forward i prefersParent => exact forward_does hhandle i prefersParent
  | report place text =>
      rw [History.after]
      split_ifs with hthere
      · exact .fire (fun _ => rfl) hthere (List.Subset.refl _)
      · exact .nothing
  | close place =>
      rw [History.after]
      split_ifs with hconnected hthere
      · exact .beginClosing (noticeAt_isSome_of_connected hconnected)
      · exact .fire (fun _ => rfl) hthere (List.Subset.refl _)
      · exact .nothing
  | finish place result =>
      rw [History.after]
      split_ifs with hmem
      · exact .fire (fun _ => rfl) (hclosing place hmem) List.erase_subset
      · exact .nothing

end Steps

end Link

end BrokerClient.Amqp
