import BrokerClient.Proofs.Amqp.Turn

/-!
# What it means that a message has been published

A publish sends the message and then waits for its confirmation.  On a channel that has not asked
for confirmation there is nothing to wait for, and channels are opened without asking.  Whoever is
told that a message has been published therefore knows that it has been sent, and no more
(`Publishing.tellsSent`): the server may not have answered, may have refused the message, or may
have gone.  Asking would not be enough, as a message that the server turns down counts as published,
too.
-/

namespace BrokerClient.Amqp.Publishing

/-- What a server says to a message on a channel that has asked for confirmation. -/
inductive Verdict
  | ack
  | nack
  deriving DecidableEq

def Verdict.confirmation : Verdict → Confirmation
  | .ack => .ack
  | .nack => .nack

/-- The confirmation that a publish waits for, once it is there. -/
def awaited? (asked : Bool) (verdict : Option Verdict) : Option Confirmation :=
  if asked then verdict.map Verdict.confirmation else some .notRequested

/-- What is done next.  A message is named by its position in what the server has received. -/
inductive Operation
  | turn (turn : Session.Turn)
  /-- The server answers a message. -/
  | answer (position : Nat) (verdict : Verdict)
  /-- A publish that waits looks whether the confirmation is there. -/
  | resume (position : Nat)

/-- What has been done about messages. -/
inductive Event
  | sent (position : Nat)
  | answered (position : Nat) (verdict : Verdict)
  /-- A publish has returned; one that has sent nothing has no message. -/
  | returned (position : Option Nat) (result : Except BrokerError Unit)

/-- A session with what has been done about messages, and the publishes that wait. -/
structure History where
  past : List Event := []
  session : Session
  waiting : List Nat := []

/-- Is this a message that the server has received? -/
def IsMessage (s : Session) (position : Nat) : Prop :=
  ∃ link number exchange routingKey mandatory immediate message,
    s.received[position]? =
      some (link, number, .publish exchange routingKey mandatory immediate message)

/-- The first answer to a message. -/
def verdict? (position : Nat) (past : List Event) : Option Verdict :=
  past.findSome? fun
    | .answered other verdict => if other = position then some verdict else none
    | _ => none

def isConnected (s : Session) (link channel : Nat) : Bool :=
  (s.channel? link channel).any LinkChannel.isConnected

/-- The history after an operation, where the channels have asked for confirmation or not. -/
def History.after (asked : Bool) (history : History) : Operation → History
  | .turn turn =>
    let next := { history with session := history.session.after turn }
    match turn with
    | .publish link channel exchange routingKey mandatory immediate message =>
      if isConnected history.session link channel then
        { next with
          past := history.past ++ [.sent history.session.received.length]
          waiting := history.session.received.length :: history.waiting }
      else
        let result :=
          (history.session.publish link channel exchange routingKey mandatory immediate message).2
        { next with past := history.past ++ [.returned none result] }
    | _ => next
  | .answer position verdict =>
    if position < history.session.received.length then
      { history with past := history.past ++ [.answered position verdict] }
    else history
  | .resume position =>
    if position ∈ history.waiting then
      match awaited? asked (verdict? position history.past) with
      | some confirmation =>
        { history with
          past := history.past ++ [.returned (some position) confirmation.outcome]
          waiting := history.waiting.erase position }
      | none => history
    else history

/-- The history of these operations in a session. -/
def historyOf (asked : Bool) (s : Session) (operations : List Operation) : History :=
  operations.foldl (History.after asked) { session := s }

/-! ## Sending -/

section Sending

variable {s s' : Session} {link channel position : Nat}

theorem IsMessage.lt (hmessage : IsMessage s position) : position < s.received.length := by
  obtain ⟨_, _, _, _, _, _, _, hreceived⟩ := hmessage
  exact (List.getElem?_eq_some_iff.mp hreceived).1

/-- What the server has received stays received. -/
theorem IsMessage.of_isPrefix (hmessage : IsMessage s position)
    (hreceived : s.received <+: s'.received) : IsMessage s' position := by
  have hlt := hmessage.lt
  obtain ⟨rest, heq⟩ := hreceived
  rwa [IsMessage, ← heq, List.getElem?_append_left hlt]

/-- On a connected channel the message is the next that the server receives. -/
theorem isMessage_publish (hconnected : isConnected s link channel = true)
    (exchange routingKey : String) (mandatory immediate : Bool) (message : OutboundMessage) :
    IsMessage (s.publish link channel exchange routingKey mandatory immediate message).1
      s.received.length := by
  obtain ⟨c, hc, hconnected⟩ := (Option.any_eq_true _ _).mp hconnected
  refine ⟨link, c.number, exchange, routingKey, mandatory, immediate, message, ?_⟩
  rw [Session.publish_fst, Session.call, hc]
  simp only [hconnected, if_true]
  rw [Session.send_received, List.getElem?_concat_length]

theorem publish_snd (hconnected : isConnected s link channel = true)
    (exchange routingKey : String) (mandatory immediate : Bool) (message : OutboundMessage) :
    (s.publish link channel exchange routingKey mandatory immediate message).2 = .ok () := by
  rw [isConnected] at hconnected
  simp [Session.publish, hconnected, Confirmation.outcome]

/-- On a channel that is not connected nothing is sent, and the publish fails. -/
theorem publish_of_not_connected (hleft : isConnected s link channel = false)
    (exchange routingKey : String) (mandatory immediate : Bool) (message : OutboundMessage) :
    ∃ e, s.publish link channel exchange routingKey mandatory immediate message =
      (s, .error e) := by
  have hcalled : ∃ e, s.call link channel
      (.publish exchange routingKey mandatory immediate message) = (s, .error e) := by
    rw [Session.call]
    cases hc : s.channel? link channel with
    | none => exact ⟨_, rfl⟩
    | some c =>
        have hstate : c.isConnected = false := by rwa [isConnected, hc] at hleft
        exact ⟨.invalidChannelState c.state.name, by simp [hstate]⟩
  obtain ⟨e, hcalled⟩ := hcalled
  refine ⟨e.toBrokerError, ?_⟩
  rw [isConnected] at hleft
  simp [Session.publish, hcalled, hleft, Except.mapError]

end Sending

/-! ## What is known of messages -/

/-- Answers, publishes that wait and publishes that have succeeded are about messages that the
server has received. -/
structure Received (history : History) : Prop where
  answered : ∀ position verdict, .answered position verdict ∈ history.past →
    position < history.session.received.length
  waiting : ∀ position ∈ history.waiting, IsMessage history.session position
  returned : ∀ position result, .returned (some position) result ∈ history.past →
    result = .ok () ∧ IsMessage history.session position
  failed : ∀ result, .returned none result ∈ history.past → result ≠ .ok ()

section Steps

variable {asked : Bool} {history : History}

theorem Received.session (hold : Received history) {s : Session}
    (hreceived : history.session.received <+: s.received) :
    Received { history with session := s } where
  answered position verdict hmem :=
    Nat.lt_of_lt_of_le (hold.answered position verdict hmem) hreceived.length_le
  waiting position hmem := (hold.waiting position hmem).of_isPrefix hreceived
  returned position result hmem :=
    ⟨(hold.returned position result hmem).1,
      (hold.returned position result hmem).2.of_isPrefix hreceived⟩
  failed := hold.failed

theorem Received.send (hold : Received history) {position : Nat}
    (hmessage : IsMessage history.session position) :
    Received { history with
      past := history.past ++ [.sent position], waiting := position :: history.waiting } where
  answered other verdict hmem := hold.answered other verdict (by simpa using hmem)
  waiting := List.forall_mem_cons.mpr ⟨hmessage, hold.waiting⟩
  returned other result hmem := hold.returned other result (by simpa using hmem)
  failed result hmem := hold.failed result (by simpa using hmem)

theorem Received.answer (hold : Received history) {position : Nat} (verdict : Verdict)
    (hlt : position < history.session.received.length) :
    Received { history with past := history.past ++ [.answered position verdict] } where
  answered other verdict' hmem := by
    rcases List.mem_append.mp hmem with hbefore | hnew
    · exact hold.answered other verdict' hbefore
    · cases List.mem_singleton.mp hnew
      exact hlt
  waiting := hold.waiting
  returned other result hmem := hold.returned other result (by simpa using hmem)
  failed result hmem := hold.failed result (by simpa using hmem)

theorem Received.fail (hold : Received history) (e : BrokerError) :
    Received { history with past := history.past ++ [.returned none (.error e)] } where
  answered other verdict hmem := hold.answered other verdict (by simpa using hmem)
  waiting := hold.waiting
  returned other result hmem := hold.returned other result (by simpa using hmem)
  failed result hmem := by
    rcases List.mem_append.mp hmem with hbefore | hnew
    · exact hold.failed result hbefore
    · cases List.mem_singleton.mp hnew
      exact nofun

theorem Received.succeed (hold : Received history) {position : Nat}
    (hmem : position ∈ history.waiting) :
    Received { history with
      past := history.past ++ [.returned (some position) (.ok ())]
      waiting := history.waiting.erase position } where
  answered other verdict hmem' := hold.answered other verdict (by simpa using hmem')
  waiting other hmem' := hold.waiting other (List.mem_of_mem_erase hmem')
  returned other result hmem' := by
    rcases List.mem_append.mp hmem' with hbefore | hnew
    · exact hold.returned other result hbefore
    · cases List.mem_singleton.mp hnew
      exact ⟨rfl, hold.waiting position hmem⟩
  failed result hmem' := hold.failed result (by simpa using hmem')

theorem Received.after (hold : Received history) (operation : Operation) :
    Received (history.after asked operation) := by
  cases operation with
  | answer position verdict =>
      rw [History.after]
      split_ifs with hlt
      · exact hold.answer verdict hlt
      · exact hold
  | resume position =>
      rw [History.after]
      split_ifs with hmem
      · cases awaited? asked (verdict? position history.past) with
        | none => exact hold
        | some confirmation => exact hold.succeed hmem
      · exact hold
  | turn turn =>
      have hnext := hold.session (Session.leads_after (s := history.session) turn).received
      cases turn with
      | publish link channel exchange routingKey mandatory immediate message =>
          rw [History.after]
          dsimp only
          split_ifs with hconnected
          · exact hnext.send (isMessage_publish hconnected exchange routingKey mandatory immediate
              message)
          · obtain ⟨e, hfailed⟩ := publish_of_not_connected (Bool.not_eq_true _ ▸ hconnected)
              exchange routingKey mandatory immediate message
            rw [hfailed]
            exact hnext.fail e
      | _ => exact hnext

end Steps

theorem received (asked : Bool) (s : Session) (operations : List Operation) :
    Received (historyOf asked s operations) := by
  induction operations using List.reverseRecOn with
  | nil => exact ⟨nofun, nofun, nofun, nofun⟩
  | append_singleton operations operation ih =>
      rw [historyOf, List.foldl_append]
      exact ih.after operation

/-! ## What a publish tells -/

/-- What a publish tells, and what that means. -/
structure TellsSent (asked : Bool) (history : History) : Prop where
  /-- Channels are opened without asking for confirmation. -/
  opened : ∀ link, ∃ methods, (history.session.openChannel link).1.received =
    history.session.received ++ methods ∧ ∀ entry ∈ methods, entry.2.2 = .openChannel
  /-- A publish that has returned has succeeded exactly if its message has been sent. -/
  sent : ∀ message? result, .returned message? result ∈ history.past →
    (result = .ok () ↔ ∃ position, message? = some position ∧ IsMessage history.session position)
  /-- A message that is sent has not been answered; still, on a channel that has not asked the
  publish can return at once, with what `Session.publish` gives. -/
  unanswered : ∀ link channel, isConnected history.session link channel = true →
    ∀ exchange routingKey mandatory immediate message,
      let position := history.session.received.length
      let next := history.after asked
        (.turn (.publish link channel exchange routingKey mandatory immediate message))
      IsMessage next.session position ∧ (∀ verdict, .answered position verdict ∉ next.past) ∧
        position ∈ next.waiting ∧
        (asked = false → (next.after asked (.resume position)).past =
          next.past ++ [.returned (some position) (history.session.publish link channel exchange
            routingKey mandatory immediate message).2])
  /-- A publish that waits and looks succeeds: at once, but on a channel that has asked once the
  message has been answered, whatever the answer is. -/
  succeeds : ∀ position ∈ history.waiting,
    ((history.after asked (.resume position)).past =
        history.past ++ [.returned (some position) (.ok ())] ↔
      (asked = true → ∃ verdict, .answered position verdict ∈ history.past))

section Telling

variable {asked : Bool} {history : History} {position : Nat}

theorem verdict?_isSome_iff {past : List Event} :
    (verdict? position past).isSome = true ↔ ∃ verdict, .answered position verdict ∈ past := by
  rw [verdict?, List.findSome?_isSome_iff]
  constructor
  · rintro ⟨event, hmem, hsome⟩
    cases event with
    | answered other verdict =>
        by_cases hsame : other = position
        · exact ⟨verdict, hsame ▸ hmem⟩
        · simp [hsame] at hsome
    | _ => simp at hsome
  · rintro ⟨verdict, hmem⟩
    exact ⟨_, hmem, by simp⟩

/-- Opening a channel sends that request or nothing. -/
theorem openChannel_received (s : Session) (link : Nat) :
    ∃ methods, (s.openChannel link).1.received = s.received ++ methods ∧
      ∀ entry ∈ methods, entry.2.2 = .openChannel := by
  have hnothing : ∃ methods, s.received = s.received ++ methods ∧
      ∀ entry ∈ methods, entry.2.2 = .openChannel :=
    ⟨[], (List.append_nil _).symm, List.forall_mem_nil _⟩
  rw [Session.openChannel]
  split
  · exact hnothing
  · split_ifs
    · exact hnothing
    · split
      · exact hnothing
      · rename_i number _
        refine ⟨[(link, number, .openChannel)], ?_, fun entry hmem => ?_⟩
        · have hsent : ((s.atLink link fun l => { l with lastNumber := number }).send link number
              .openChannel).1.received = s.received ++ [(link, number, .openChannel)] :=
            Session.send_received link number .openChannel
          dsimp only
          generalize Session.send _ _ _ .openChannel = sent at hsent ⊢
          obtain ⟨s₁, _ | ⟨⟨⟩⟩⟩ := sent
          · exact hsent
          · exact hsent
        · cases List.mem_singleton.mp hmem
          rfl

theorem resume_past (hmem : position ∈ history.waiting) :
    (history.after asked (.resume position)).past =
        history.past ++ [.returned (some position) (.ok ())] ↔
      (asked = true → ∃ verdict, .answered position verdict ∈ history.past) := by
  rw [← verdict?_isSome_iff, History.after, if_pos hmem, awaited?]
  cases asked with
  | false => exact iff_of_true rfl nofun
  | true =>
      cases hverdict : verdict? position history.past with
      | none => simp
      | some verdict => exact iff_of_true rfl fun _ => rfl

end Telling

/-- Whoever is told that a message has been published knows that it has been sent, and no more. -/
theorem tellsSent (asked : Bool) (s : Session) (operations : List Operation) :
    TellsSent asked (historyOf asked s operations) := by
  have hreceived := received asked s operations
  generalize historyOf asked s operations = history at hreceived
  refine ⟨openChannel_received history.session, ?_, ?_, ?_⟩
  · intro message? result hmem
    cases message? with
    | none => exact iff_of_false (hreceived.failed result hmem) fun ⟨_, hnone, _⟩ => nomatch hnone
    | some position =>
        obtain ⟨hok, hmessage⟩ := hreceived.returned position result hmem
        exact iff_of_true hok ⟨position, rfl, hmessage⟩
  · intro link channel hconnected exchange routingKey mandatory immediate message
    have hafter : history.after asked
        (.turn (.publish link channel exchange routingKey mandatory immediate message)) =
        { past := history.past ++ [.sent history.session.received.length]
          session := (history.session.publish link channel exchange routingKey mandatory immediate
            message).1
          waiting := history.session.received.length :: history.waiting } := by
      rw [History.after]
      exact if_pos hconnected
    dsimp only
    rw [hafter, publish_snd hconnected]
    refine ⟨isMessage_publish hconnected exchange routingKey mandatory immediate message, ?_,
      List.mem_cons_self, ?_⟩
    · intro verdict hmem
      have hold : .answered history.session.received.length verdict ∈ history.past := by
        simpa using hmem
      have hlt := hreceived.answered _ verdict hold
      omega
    · rintro rfl
      exact (resume_past List.mem_cons_self).mpr nofun
  · intro position hmem
    exact resume_past hmem

/-- A connection, as it is after dialing. -/
def dialed : Session :=
  { links := [{ endpoint := "amqp://a", channelMax := 1 }] }

/-- A message on a new channel that the server refuses by closing the channel. -/
def refusedMessage : List Operation :=
  [.turn (.plan .publish (.closeChannel 404 "no exchange")), .turn (.openChannel 0),
    .turn (.publish 0 0 "x" "k" false false ⟨"m1", "text/plain", ⟨0, 0⟩, [49]⟩), .resume 1]

theorem refusedMessage_past :
    (historyOf false dialed refusedMessage).past = [.sent 1, .returned (some 1) (.ok ())] := by
  rfl

theorem refusedMessage_sent :
    .returned (some 1) (.ok ()) ∈ (historyOf false dialed refusedMessage).past ∧
      IsMessage (historyOf false dialed refusedMessage).session 1 ∧
      ∀ verdict, .answered 1 verdict ∉ (historyOf false dialed refusedMessage).past := by
  have htells := tellsSent false dialed refusedMessage
  have hreturned : .returned (some 1) (.ok ()) ∈
      (historyOf false dialed refusedMessage).past := by
    simp [refusedMessage_past]
  obtain ⟨position, hposition, hmessage⟩ := (htells.sent (some 1) (.ok ()) hreturned).mp rfl
  cases hposition
  refine ⟨hreturned, hmessage, ?_⟩
  intro verdict
  simp [refusedMessage_past]

/-- Not every publish that succeeds has been acknowledged before. -/
theorem not_forall_succeeded_acknowledged :
    ¬ ∀ s operations before after position,
      (historyOf false s operations).past = before ++ .returned (some position) (.ok ()) :: after →
        .answered position .ack ∈ before := by
  intro hacknowledged
  have hmem := hacknowledged dialed refusedMessage [.sent 1] [] 1 refusedMessage_past
  exact nomatch List.mem_singleton.mp hmem

end BrokerClient.Amqp.Publishing
