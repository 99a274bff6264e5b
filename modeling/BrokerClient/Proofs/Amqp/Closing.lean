import BrokerClient.Proofs.Amqp.LinkHistory
import Mathlib.Data.List.Infix

/-!
# How the close of a connection reaches its channels

What the notices of a connection and its channels hold is read off their history:

* a notice keeps the reason of its first fire;
* what the client has closed is closed from then on, whatever has come of the call;
* the task of a channel ends when it runs after the channel or the connection has fired, and from
  then on the channel holds the reason that it had fired with itself by then, or else that of the
  connection.

The invariants are `Attended`, on the tasks, and `Accounted`, on the reasons: a channel whose task
still waits holds its own reason or none.
-/

namespace BrokerClient.Amqp.Link

/-! ## Who is there -/

/-- What is known of those who wait: every close is of a place that there is, and a channel's task
waits until its end. -/
structure Attended (history : History) : Prop where
  closing : ∀ place ∈ history.closing, (history.link.noticeAt place).isSome = true
  /-- Nobody drops the connection's notice. -/
  held : history.link.notice.handles ≠ 0
  ended_lt : ∀ i, .ended i ∈ history.past → i < history.link.tasks.length
  waits : ∀ i waits, history.link.tasks[i]? = some waits →
    (waits = true ↔ .ended i ∉ history.past)

section Attending

variable {history history' : History}

/-- An event that fires a notice is not the end of a task. -/
theorem ended_mem_of_concat {event : Event} {place : Place} {reason : CloseReason}
    (hfires : event.fires? place = some reason) {past : List Event} {i : Nat}
    (hmem : .ended i ∈ past ++ [event]) : .ended i ∈ past := by
  rcases List.mem_append.mp hmem with hold | hnew
  · exact hold
  · rw [← List.mem_singleton.mp hnew] at hfires
    cases hfires

theorem ended_mem_concat_of_ne {past : List Event} {i j : Nat} (hne : j ≠ i) :
    .ended j ∈ past ++ [.ended i] ↔ .ended j ∈ past := by
  rw [List.mem_append, List.mem_singleton]
  apply or_iff_left
  intro heq
  exact hne (Event.ended.inj heq)

theorem Attended.openChannel (hold : Attended history) (number : Nat) :
    Attended { history with link := history.link.withChannel number } := by
  refine ⟨?_, hold.held, ?_, ?_⟩
  · intro place hmem
    have hthere := noticeAt_isSome_iff.mp (hold.closing place hmem)
    refine noticeAt_isSome_iff.mpr ?_
    intro i heq
    have hlt := hthere i heq
    rw [withChannel, List.length_append]
    omega
  · intro i hended
    have hlt := hold.ended_lt i hended
    rw [tasks_withChannel, List.length_append]
    omega
  · intro i waits htask
    rw [tasks_withChannel, List.getElem?_append] at htask
    split_ifs at htask with hlt
    · exact hold.waits i waits htask
    · have hnew : waits = true := by simpa using List.mem_of_getElem? htask
      exact iff_of_true hnew fun hended => hlt (hold.ended_lt i hended)

theorem Attended.leave (hold : Attended history) (place : Place) (state : LinkState) :
    Attended { history with link := history.link.leftAt state place } := by
  refine ⟨?_, ?_, ?_, ?_⟩
  · intro other hmem
    rw [noticeAt_leftAt]
    exact hold.closing other hmem
  · cases place <;> exact hold.held
  · rw [tasks_leftAt]
    exact hold.ended_lt
  · rw [tasks_leftAt]
    exact hold.waits

theorem Attended.fire (hold : Attended history) {event : Event} {place : Place}
    {reason : CloseReason} {closing : List Place} (hfires : event.fires? place = some reason)
    (hclosing : closing ⊆ history.closing) :
    Attended ⟨history.past ++ [event], history.link.notifiedAt reason place, closing⟩ := by
  refine ⟨?_, ?_, ?_, ?_⟩
  · intro other hmem
    rw [noticeAt_notifiedAt, Option.isSome_map]
    exact hold.closing other (hclosing hmem)
  · have hhandles : (history.link.notifiedAt reason place).notice.handles =
        history.link.notice.handles := by
      cases place with
      | connection => exact CloseNotice.handles_fired _ _
      | channel i => rfl
    rw [hhandles]
    exact hold.held
  · intro i hmem
    rw [tasks_notifiedAt]
    exact hold.ended_lt i (ended_mem_of_concat hfires hmem)
  · intro i waits htask
    rw [tasks_notifiedAt] at htask
    rw [hold.waits i waits htask]
    exact not_congr ⟨List.mem_append_left _, ended_mem_of_concat hfires⟩

theorem Attended.endTask (hold : Attended history) {i : Nat} (reason : CloseReason)
    (htask : history.link.tasks[i]? = some true) :
    Attended
      { history with
        past := history.past ++ [.ended i]
        link := (history.link.notifiedAt reason (.channel i)).taskEndedAt i } := by
  obtain ⟨hlt, -⟩ := List.getElem?_eq_some_iff.mp htask
  refine ⟨?_, hold.held, ?_, ?_⟩
  · intro other hmem
    rw [noticeAt_taskEndedAt, noticeAt_notifiedAt, Option.isSome_map]
    exact hold.closing other hmem
  · intro j hmem
    rw [tasks_taskEndedAt, List.length_set, tasks_notifiedAt]
    by_cases hij : j = i
    · rwa [hij]
    · exact hold.ended_lt j ((ended_mem_concat_of_ne hij).mp hmem)
  · intro j waits htask'
    rw [tasks_taskEndedAt, tasks_notifiedAt, List.getElem?_set] at htask'
    by_cases hij : i = j
    · subst hij
      simp only [if_true, hlt, Option.some.injEq] at htask'
      simp [← htask']
    · rw [if_neg hij] at htask'
      rw [hold.waits j waits htask', ended_mem_concat_of_ne (Ne.symm hij)]

theorem History.Does.attends (hdoes : history.Does history') (hold : Attended history) :
    Attended history' := by
  cases hdoes with
  | nothing => exact hold
  | takeNumber number => exact ⟨hold.closing, hold.held, hold.ended_lt, hold.waits⟩
  | openChannel number => exact hold.openChannel number
  | leave place state => exact hold.leave place state
  | beginClosing hthere =>
      exact { hold with closing := List.forall_mem_cons.mpr ⟨hthere, hold.closing⟩ }
  | @fire event place reason closing hfires hthere hclosing =>
      exact hold.fire ((hfires place).trans (if_pos rfl)) hclosing
  | @endTask i c reason hchannel hwaits hreason =>
      refine hold.endTask reason ?_
      rw [tasks, List.getElem?_map, hchannel, Option.map_some, hwaits]

end Attending

/-! ## What the notices hold -/

/-- What the notices hold is accounted for by what has been done. -/
structure Accounted (history : History) : Prop where
  /-- Until its task has ended a channel holds its own reason, as the connection does for ever. -/
  own : ∀ place : Place, ¬ place.EndedIn history.past →
    history.link.reasonAt place = firstReason place history.past
  /-- Once the task has ended the channel holds its own reason of then, or else the connection's. -/
  passed : ∀ i, .ended i ∈ history.past →
    history.link.reasonAt (.channel i) = passedReason i history.past ∧
      (passedReason i history.past).isSome = true

section Accounting

variable {history history' : History}

theorem Place.not_endedIn_of_append {place : Place} {past more : List Event}
    (hopen : ¬ place.EndedIn (past ++ more)) : ¬ place.EndedIn past := by
  cases place with
  | connection => exact id
  | channel i =>
      intro hmem
      exact hopen (List.mem_append_left _ hmem)

theorem Accounted.of_reasons {link : Link} (hold : Accounted history)
    (hreasons : ∀ place, link.reasonAt place = history.link.reasonAt place) :
    Accounted { history with link } := by
  refine ⟨?_, ?_⟩
  · intro place hopen
    rw [hreasons]
    exact hold.own place hopen
  · intro i hended
    rw [hreasons]
    exact hold.passed i hended

theorem Accounted.fire (hold : Accounted history) {event : Event} {place : Place}
    {reason : CloseReason} {closing : List Place}
    (hfires : ∀ other, event.fires? other = if place = other then some reason else none)
    (hthere : (history.link.noticeAt place).isSome = true) :
    Accounted ⟨history.past ++ [event], history.link.notifiedAt reason place, closing⟩ := by
  refine ⟨?_, ?_⟩
  · intro other hopen
    have hown := hold.own other (Place.not_endedIn_of_append hopen)
    rw [reasonAt_notifiedAt hthere, hown, firstReason_concat, hfires]
    by_cases hsame : place = other
    · rw [if_pos hsame, if_pos hsame]
      cases firstReason other history.past <;> rfl
    · rw [if_neg hsame, if_neg hsame, Option.or_none]
  · intro i hmem
    have hended := ended_mem_of_concat ((hfires place).trans (if_pos rfl)) hmem
    obtain ⟨hreason, hsome⟩ := hold.passed i hended
    obtain ⟨passed, hpassed⟩ := Option.isSome_iff_exists.mp hsome
    rw [reasonAt_notifiedAt hthere, passedReason_append hended, hreason, hpassed]
    simp

/-- What the channels hold once the task of one of them has ended. -/
theorem reasonAt_endTask {l : Link} {i : Nat} (hthere : (l.noticeAt (.channel i)).isSome = true)
    (reason : CloseReason) (other : Place) :
    ((l.notifiedAt reason (.channel i)).taskEndedAt i).reasonAt other =
      if .channel i = other then some ((l.reasonAt other).getD reason) else l.reasonAt other := by
  rw [reasonAt, noticeAt_taskEndedAt]
  exact reasonAt_notifiedAt hthere

/-- The reason that a task passes on is the one that there is at its end. -/
theorem Accounted.passedReason_of_end (hold : Accounted history) {i : Nat} {c : LinkChannel}
    {reason : CloseReason} (hopen : .ended i ∉ history.past)
    (hchannel : history.link.channels[i]? = some c)
    (hreason : c.notice.reason.or history.link.notice.reason = some reason) :
    passedReason i (history.past ++ [.ended i]) = some reason ∧
      (history.link.reasonAt (.channel i)).getD reason = reason := by
  have hown : history.link.reasonAt (.channel i) = c.notice.reason := by
    rw [reasonAt, noticeAt, hchannel]
    rfl
  have hparent : history.link.notice.reason = firstReason .connection history.past :=
    hold.own .connection id
  rw [passedReason_concat_end hopen, ← hold.own (.channel i) hopen, ← hparent, hown]
  refine ⟨hreason, ?_⟩
  cases hc : c.notice.reason with
  | none => rfl
  | some own =>
      rw [hc, Option.some_or] at hreason
      exact Option.some.inj hreason

theorem Accounted.endTask (hold : Accounted history) {i : Nat} {c : LinkChannel}
    {reason : CloseReason} (hopen : .ended i ∉ history.past)
    (hchannel : history.link.channels[i]? = some c)
    (hreason : c.notice.reason.or history.link.notice.reason = some reason) :
    Accounted
      { history with
        past := history.past ++ [.ended i]
        link := (history.link.notifiedAt reason (.channel i)).taskEndedAt i } := by
  have hthere : (history.link.noticeAt (.channel i)).isSome = true := by
    rw [noticeAt, hchannel]
    rfl
  refine ⟨?_, ?_⟩
  · intro other hother
    have hne : Place.channel i ≠ other := by
      rintro rfl
      exact hother (List.mem_append_right _ (List.mem_singleton_self _))
    have hown := hold.own other (Place.not_endedIn_of_append hother)
    rw [reasonAt_endTask hthere, if_neg hne, firstReason_concat, hown]
    exact (Option.or_none ..).symm
  · intro j hmem
    rw [reasonAt_endTask hthere]
    by_cases hij : j = i
    · subst hij
      obtain ⟨hpassed, hheld⟩ := hold.passedReason_of_end hopen hchannel hreason
      rw [if_pos rfl, hpassed, hheld]
      exact ⟨rfl, rfl⟩
    · have hended := (ended_mem_concat_of_ne hij).mp hmem
      have hne : Place.channel i ≠ .channel j := fun heq => hij (Place.channel.inj heq).symm
      rw [if_neg hne, passedReason_append hended]
      exact hold.passed j hended

theorem History.Does.accounts (hdoes : history.Does history') (hattended : Attended history)
    (hold : Accounted history) : Accounted history' := by
  cases hdoes with
  | nothing => exact hold
  | takeNumber number => exact ⟨hold.own, hold.passed⟩
  | openChannel number => exact hold.of_reasons fun place => reasonAt_withChannel number
  | leave place state =>
      refine hold.of_reasons ?_
      intro other
      rw [reasonAt, noticeAt_leftAt, reasonAt]
  | beginClosing hthere => exact ⟨hold.own, hold.passed⟩
  | fire hfires hthere hclosing => exact hold.fire hfires hthere
  | @endTask i c reason hchannel hwaits hreason =>
      have htask : history.link.tasks[i]? = some true := by
        rw [tasks, List.getElem?_map, hchannel, Option.map_some, hwaits]
      exact hold.endTask ((hattended.waits i true htask).mp rfl) hchannel hreason

end Accounting

/-- Both hold in every history. -/
theorem attended_accounted (endpoint : String) (channelMax : Nat) (operations : List Operation) :
    Attended (historyOf endpoint channelMax operations) ∧
      Accounted (historyOf endpoint channelMax operations) := by
  induction operations using List.reverseRecOn with
  | nil =>
      have hnone : ∀ place, (historyOf endpoint channelMax []).link.reasonAt place = none := by
        intro place
        cases place <;> rfl
      exact ⟨⟨nofun, nofun, nofun, nofun⟩, ⟨fun place _ => hnone place, nofun⟩⟩
  | append_singleton operations operation ih =>
      obtain ⟨hattended, haccounted⟩ := ih
      have hdoes := after_does hattended.closing hattended.held operation
      rw [historyOf_concat]
      exact ⟨hdoes.attends hattended, hdoes.accounts hattended haccounted⟩

/-! ## What stays -/

/-- What is so in a history and stays so. -/
structure History.Extends (later history : History) : Prop where
  past : history.past <+: later.past
  channels : history.link.channels.length ≤ later.link.channels.length
  reason : ∀ place reason, history.link.reasonAt place = some reason →
    later.link.reasonAt place = some reason
  closed : ∀ place, history.link.isClosedAt place = true → later.link.isClosedAt place = true

section Extending

variable {history history' later : History} {l : Link} {place : Place}

theorem History.Extends.refl (history : History) : history.Extends history :=
  ⟨List.prefix_rfl, Nat.le_refl _, fun _ _ => id, fun _ => id⟩

theorem History.Extends.trans (hlater : later.Extends history')
    (hextends : history'.Extends history) : later.Extends history :=
  ⟨hextends.past.trans hlater.past, hextends.channels.trans hlater.channels,
    fun place reason h => hlater.reason place reason (hextends.reason place reason h),
    fun place h => hlater.closed place (hextends.closed place h)⟩

theorem isClosedAt_of_reasonAt {reason : CloseReason} (hreason : l.reasonAt place = some reason) :
    l.isClosedAt place = true := by
  cases place with
  | connection =>
      have hfired : l.notice.reason = some reason := hreason
      rw [isClosedAt, isClosed, CloseNotice.isFired, hfired, Option.isSome_some, Bool.true_or]
  | channel i =>
      obtain ⟨notice, hnotice, hfired⟩ := Option.bind_eq_some_iff.mp hreason
      obtain ⟨c, hc, rfl⟩ := Option.map_eq_some_iff.mp hnotice
      rw [isClosedAt, hc, Option.any_some, LinkChannel.isClosed, CloseNotice.isFired, hfired,
        Option.isSome_some, Bool.true_or]

theorem isClosedAt_atChannel {i : Nat} {change : LinkChannel → LinkChannel}
    (hkeeps : ∀ c, c.isClosed = true → (change c).isClosed = true)
    (hclosed : l.isClosedAt place = true) : (l.atChannel i change).isClosedAt place = true := by
  cases place with
  | connection => exact hclosed
  | channel j =>
      obtain ⟨c, hc, hclosed⟩ := (Option.any_eq_true _ _).mp hclosed
      rw [isClosedAt, getElem?_atChannel, hc, Option.map_some, Option.any_some]
      split_ifs
      · exact hkeeps c hclosed
      · exact hclosed

theorem isClosed_left (state : LinkState) (hclosed : l.isClosed = true) :
    (l.left state).isClosed = true := by
  rw [isClosed, Bool.or_eq_true, Bool.not_eq_true'] at hclosed ⊢
  apply hclosed.imp id
  intro hleft
  rw [left, hleft]
  exact hleft

theorem isClosed_channel_left {c : LinkChannel} (state : LinkState) (hclosed : c.isClosed = true) :
    (c.left state).isClosed = true := by
  rw [LinkChannel.isClosed, Bool.or_eq_true, Bool.not_eq_true'] at hclosed ⊢
  apply hclosed.imp id
  intro hleft
  rw [LinkChannel.left, hleft]
  exact hleft

theorem isClosedAt_leftAt {other : Place} (state : LinkState)
    (hclosed : l.isClosedAt place = true) :
    (l.leftAt state other).isClosedAt place = true := by
  cases other with
  | channel i => exact isClosedAt_atChannel (fun _ => isClosed_channel_left state) hclosed
  | connection =>
      cases place with
      | connection => exact isClosed_left state hclosed
      | channel j => exact hclosed

theorem isClosedAt_notifiedAt {other : Place} (reason : CloseReason)
    (hclosed : l.isClosedAt place = true) :
    (l.notifiedAt reason other).isClosedAt place = true := by
  cases other with
  | connection =>
      cases place with
      | channel j => exact hclosed
      | connection => simp [isClosedAt, isClosed, notifiedAt, notified]
  | channel i =>
      refine isClosedAt_atChannel (fun c _ => ?_) hclosed
      simp [LinkChannel.isClosed, LinkChannel.notified]

theorem isClosedAt_withChannel (number : Nat) (hclosed : l.isClosedAt place = true) :
    (l.withChannel number).isClosedAt place = true := by
  cases place with
  | connection => exact hclosed
  | channel j =>
      obtain ⟨c, hc, hclosed⟩ := (Option.any_eq_true _ _).mp hclosed
      have hlt := (List.getElem?_eq_some_iff.mp hc).1
      rw [isClosedAt, withChannel, List.getElem?_append_left hlt, hc]
      exact hclosed

theorem History.Does.extends (hdoes : history.Does history') : history'.Extends history := by
  cases hdoes with
  | nothing => exact .refl history
  | takeNumber number => exact ⟨List.prefix_rfl, Nat.le_refl _, fun _ _ => id, fun _ => id⟩
  | beginClosing hthere => exact ⟨List.prefix_rfl, Nat.le_refl _, fun _ _ => id, fun _ => id⟩
  | openChannel number =>
      refine ⟨List.prefix_rfl, by simp [withChannel], ?_, ?_⟩
      · intro place reason hreason
        rwa [reasonAt_withChannel]
      · intro place hclosed
        exact isClosedAt_withChannel number hclosed
  | leave other state =>
      refine ⟨List.prefix_rfl, ?_, ?_, ?_⟩
      · rw [← length_tasks, ← length_tasks, tasks_leftAt]
      · intro place reason hreason
        rwa [reasonAt, noticeAt_leftAt]
      · intro place hclosed
        exact isClosedAt_leftAt state hclosed
  | @fire event other reason closing hfires hthere hclosing =>
      refine ⟨List.prefix_append _ _, ?_, ?_, ?_⟩
      · rw [← length_tasks, ← length_tasks, tasks_notifiedAt]
      · intro place old hold
        rw [reasonAt_notifiedAt hthere, hold]
        split_ifs <;> rfl
      · intro place hclosed
        exact isClosedAt_notifiedAt reason hclosed
  | @endTask i c reason hchannel hwaits hreason =>
      have hthere : (history.link.noticeAt (.channel i)).isSome = true := by
        rw [noticeAt, hchannel]
        rfl
      refine ⟨List.prefix_append _ _, ?_, ?_, ?_⟩
      · rw [← length_tasks, ← length_tasks, tasks_taskEndedAt, List.length_set, tasks_notifiedAt]
      · intro place old hold
        rw [reasonAt_endTask hthere, hold]
        split_ifs <;> rfl
      · intro place hclosed
        exact isClosedAt_atChannel (fun _ => id) (isClosedAt_notifiedAt reason hclosed)

end Extending

theorem historyOf_extends (endpoint : String) (channelMax : Nat)
    (operations more : List Operation) :
    (historyOf endpoint channelMax (operations ++ more)).Extends
      (historyOf endpoint channelMax operations) := by
  induction more using List.reverseRecOn with
  | nil =>
      rw [List.append_nil]
      exact .refl _
  | append_singleton more operation ih =>
      obtain ⟨hattended, -⟩ := attended_accounted endpoint channelMax (operations ++ more)
      rw [← List.append_assoc, historyOf_concat]
      exact (after_does hattended.closing hattended.held operation).extends.trans ih

/-! ## How a close propagates -/

/-- What a history, the operations after it and the history with these say of each other. -/
structure Propagates (history : History) (more : List Operation) (later : History) : Prop where
  /-- A notice keeps its reason. -/
  kept : ∀ place reason, history.link.reasonAt place = some reason →
    later.link.reasonAt place = some reason
  /-- The reason is that of the first fire, unless it may have been passed on. -/
  first : ∀ place : Place, ¬ place.EndedIn history.past →
    history.link.reasonAt place = firstReason place history.past
  /-- What counts as closed does so for ever, and so does that of which a close has returned. -/
  closed : ∀ place, (history.link.isClosedAt place = true ∨
    ∃ result, .returned place result ∈ history.past) → later.link.isClosedAt place = true
  /-- If the connection has fired and the task of a channel has run since, the channel is closed,
  and its notice holds its own reason from before its task ended, or else the connection's. -/
  passed : ∀ reason, history.link.reasonAt .connection = some reason →
    ∀ i prefersParent, i < history.link.channels.length → .forward i prefersParent ∈ more →
      .ended i ∈ later.past ∧ later.link.isClosedAt (.channel i) = true ∧
        later.link.reasonAt (.channel i) =
          some ((firstReason (.channel i) (untilEnd i later.past)).getD reason)
  /-- A task that waits ends when it runs exactly if the channel or the connection has fired. -/
  ends : ∀ i c prefersParent, history.link.channels[i]? = some c → c.forwarding = true →
    ∃ c', (history.after (.forward i prefersParent)).link.channels[i]? = some c' ∧
      (c'.forwarding = false ↔ c.notice.isFired = true ∨ history.link.notice.isFired = true)

section Propagation

variable {history : History}

/-- A close that has returned has fired its notice. -/
theorem Accounted.reasonAt_of_returned (haccounted : Accounted history) {place : Place}
    {result : Except BrokerError Unit} (hreturned : .returned place result ∈ history.past) :
    ∃ reason, history.link.reasonAt place = some reason := by
  have hfirst : (firstReason place history.past).isSome = true := by
    rw [firstReason, List.findSome?_isSome_iff]
    exact ⟨_, hreturned, by simp [Event.fires?]⟩
  by_cases hended : place.EndedIn history.past
  · cases place with
    | connection => exact hended.elim
    | channel i =>
        obtain ⟨hreason, hsome⟩ := haccounted.passed i hended
        rw [hreason]
        exact Option.isSome_iff_exists.mp hsome
  · rw [haccounted.own place hended]
    exact Option.isSome_iff_exists.mp hfirst

/-- A task that waits ends when it runs exactly if the channel or the connection has fired. -/
theorem Attended.after_forward (hattended : Attended history) {i : Nat} {c : LinkChannel}
    (prefersParent : Bool) (hchannel : history.link.channels[i]? = some c)
    (hwaits : c.forwarding = true) :
    ∃ c', (history.after (.forward i prefersParent)).link.channels[i]? = some c' ∧
      (c'.forwarding = false ↔ c.notice.isFired = true ∨ history.link.notice.isFired = true) := by
  refine ⟨c.forward history.link.notice, ?_, ?_⟩
  · simp only [History.after]
    rw [getElem?_atChannel, hchannel, Option.map_some, if_pos rfl, LinkChannel.forwardChoosing_eq]
  · rw [LinkChannel.forward_of_waits hattended.held hwaits, CloseNotice.isFired,
      CloseNotice.isFired, ← Bool.or_eq_true, ← Option.isSome_or]
    cases c.notice.reason.or history.link.notice.reason with
    | some reason => exact iff_of_true rfl rfl
    | none => simp [hwaits]

/-- The task of a channel has ended once it has run after the connection has fired. -/
theorem Attended.ended_after_forward (hattended : Attended history) {reason : CloseReason}
    (hfired : history.link.reasonAt .connection = some reason) {i : Nat} (prefersParent : Bool)
    (hlt : i < history.link.channels.length) :
    .ended i ∈ (history.after (.forward i prefersParent)).past := by
  have hdoes := after_does hattended.closing hattended.held (.forward i prefersParent)
  obtain ⟨c, hc⟩ : ∃ c, history.link.channels[i]? = some c := ⟨_, List.getElem?_eq_getElem hlt⟩
  by_contra hopen
  by_cases hwaits : c.forwarding = true
  · obtain ⟨c', hc', hends⟩ := hattended.after_forward prefersParent hc hwaits
    have hisFired : history.link.notice.isFired = true := by
      have hreason : history.link.notice.reason = some reason := hfired
      rw [CloseNotice.isFired, hreason, Option.isSome_some]
    have hended := hends.mpr (.inr hisFired)
    have htask : (history.after (.forward i prefersParent)).link.tasks[i]? =
        some c'.forwarding := by
      rw [tasks, List.getElem?_map, hc', Option.map_some]
    have hstill := ((hdoes.attends hattended).waits i c'.forwarding htask).mpr hopen
    exact Bool.false_ne_true (hended.symm.trans hstill)
  · have htask : history.link.tasks[i]? = some c.forwarding := by
      rw [tasks, List.getElem?_map, hc, Option.map_some]
    have hstill : .ended i ∉ history.past := fun hended => hopen (hdoes.extends.past.subset hended)
    exact hwaits ((hattended.waits i _ htask).mpr hstill)

/-- What a channel holds once its task has ended, if the connection holds a reason. -/
theorem Accounted.reasonAt_passed (haccounted : Accounted history) {reason : CloseReason}
    (hfired : history.link.reasonAt .connection = some reason) {i : Nat}
    (hended : .ended i ∈ history.past) :
    history.link.reasonAt (.channel i) =
      some ((firstReason (.channel i) (untilEnd i history.past)).getD reason) := by
  obtain ⟨hreason, hsome⟩ := haccounted.passed i hended
  obtain ⟨passed, hpassed⟩ := Option.isSome_iff_exists.mp hsome
  rw [hreason, hpassed]
  rw [passedReason] at hpassed
  cases hown : firstReason (.channel i) (untilEnd i history.past) with
  | some own =>
      rw [hown] at hpassed
      exact hpassed.symm
  | none =>
      rw [hown, Option.none_or] at hpassed
      -- the connection had fired by then, and its first reason is still the first
      have hbefore : untilEnd i history.past <+: history.past := List.takeWhile_prefix _
      have hparent := firstReason_of_isPrefix hbefore hpassed
      rw [← haccounted.own .connection id, hfired] at hparent
      exact hparent.symm

end Propagation

/-- However errors, closes and the tasks of the channels come one after the other, notices keep
their reasons, what has been closed stays closed, and the close of a connection reaches every
channel whose task runs. -/
theorem closing_propagates (endpoint : String) (channelMax : Nat)
    (operations more : List Operation) :
    Propagates (historyOf endpoint channelMax operations) more
      (historyOf endpoint channelMax (operations ++ more)) := by
  obtain ⟨hattended, haccounted⟩ := attended_accounted endpoint channelMax operations
  have hextends := historyOf_extends endpoint channelMax operations more
  refine ⟨hextends.reason, haccounted.own, ?_, ?_, ?_⟩
  · intro place hclosed
    rcases hclosed with hclosed | ⟨result, hreturned⟩
    · exact hextends.closed place hclosed
    · obtain ⟨reason, hreason⟩ := haccounted.reasonAt_of_returned hreturned
      exact isClosedAt_of_reasonAt (hextends.reason place reason hreason)
  · intro reason hfired i prefersParent hlt hmem
    obtain ⟨earlier, rest, hsplit⟩ := List.append_of_mem hmem
    have hmore : operations ++ more =
        operations ++ earlier ++ [.forward i prefersParent] ++ rest := by simp [hsplit]
    have hearlier := historyOf_extends endpoint channelMax operations earlier
    have hended : .ended i ∈ (historyOf endpoint channelMax (operations ++ more)).past := by
      have hrun := (attended_accounted endpoint channelMax (operations ++ earlier)).1
        |>.ended_after_forward (hearlier.reason _ _ hfired) prefersParent
          (Nat.lt_of_lt_of_le hlt hearlier.channels)
      rw [← historyOf_concat] at hrun
      rw [hmore]
      exact (historyOf_extends endpoint channelMax _ rest).past.subset hrun
    have hreason := (attended_accounted endpoint channelMax (operations ++ more)).2.reasonAt_passed
      (hextends.reason _ _ hfired) hended
    exact ⟨hended, isClosedAt_of_reasonAt hreason, hreason⟩
  · intro i c prefersParent hchannel hwaits
    exact hattended.after_forward prefersParent hchannel hwaits

/-- A close of a connection is overtaken by an error, and one of its channels has failed before. -/
def overtakenClose : List Operation :=
  [.openChannel 1, .openChannel 2, .close .connection, .report (.channel 0) "gone",
    .report .connection "lost"]

/-- The close returns, and the tasks of the channels run. -/
def closeReturned : List Operation :=
  [.finish .connection (.ok ()), .forward 0 true, .forward 1 true]

theorem overtakenClose_propagates :
    let earlier := (historyOf "amqp://a" 2047 overtakenClose).link
    let later := (historyOf "amqp://a" 2047 (overtakenClose ++ closeReturned)).link
    earlier.reasonAt (.channel 1) = none ∧
      later.reasonAt .connection = some (.error "lost") ∧
      later.reasonAt (.channel 0) = some (.error "gone") ∧
      later.reasonAt (.channel 1) = some (.error "lost") ∧
      later.isClosedAt (.channel 0) = true ∧ later.isClosedAt (.channel 1) = true := by
  have hpropagates := closing_propagates "amqp://a" 2047 overtakenClose closeReturned
  have hpassed := hpropagates.passed (.error "lost") rfl
  obtain ⟨-, hclosed₀, hreason₀⟩ := hpassed 0 true (by decide) (by simp [closeReturned])
  obtain ⟨-, hclosed₁, hreason₁⟩ := hpassed 1 true (by decide) (by simp [closeReturned])
  -- the first channel had fired before its task ended, the other had not
  have hown : firstReason (.channel 0)
      (untilEnd 0 (historyOf "amqp://a" 2047 (overtakenClose ++ closeReturned)).past) =
        some (.error "gone") := by decide
  have hnone : firstReason (.channel 1)
      (untilEnd 1 (historyOf "amqp://a" 2047 (overtakenClose ++ closeReturned)).past) = none := by
    decide
  rw [hown, Option.getD_some] at hreason₀
  rw [hnone, Option.getD_none] at hreason₁
  exact ⟨rfl, hpropagates.kept .connection (.error "lost") rfl, hreason₀, hreason₁, hclosed₀,
    hclosed₁⟩

end BrokerClient.Amqp.Link
