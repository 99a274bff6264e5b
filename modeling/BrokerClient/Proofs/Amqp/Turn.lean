import BrokerClient.Amqp.Session
import BrokerClient.Proofs.Amqp.LinkHistory
import Mathlib.Data.List.Induction

/-!
# The turns of a session

What a client and a server do, turn by turn.  Whatever a turn does to a connection and its channels
is a row of the operations that histories are made of, so that every connection of a session has a
history (`Session.links_haveHistory`).
-/

namespace BrokerClient.Amqp

namespace Link

/-! ## Connections that operations lead to -/

/-- Operations lead from one state of a connection to the other. -/
def Reaches (l l' : Link) : Prop :=
  ∀ history : History, history.link = l →
    ∃ operations : List Operation, (operations.foldl History.after history).link = l'

/-- The connection is new, or operations have led to it. -/
def HasHistory (l : Link) : Prop :=
  ∃ endpoint channelMax operations, (historyOf endpoint channelMax operations).link = l

section Reaching

variable {l l' l'' : Link}

theorem Reaches.refl (l : Link) : l.Reaches l :=
  fun _ hlink => ⟨[], hlink⟩

theorem Reaches.trans (hfirst : l.Reaches l') (hsecond : l'.Reaches l'') : l.Reaches l'' := by
  intro history hlink
  obtain ⟨operations, hmiddle⟩ := hfirst history hlink
  obtain ⟨more, hlast⟩ := hsecond _ hmiddle
  exact ⟨operations ++ more, by rw [List.foldl_append, hlast]⟩

theorem Reaches.of_after (operation : Operation)
    (hafter : ∀ history : History, history.link = l → (history.after operation).link = l') :
    l.Reaches l' :=
  fun history hlink => ⟨[operation], hafter history hlink⟩

theorem HasHistory.new (endpoint : String) (channelMax : Nat) :
    HasHistory { endpoint, channelMax } :=
  ⟨endpoint, channelMax, [], rfl⟩

theorem HasHistory.reaches (hhistory : l.HasHistory) (hreaches : l.Reaches l') : l'.HasHistory := by
  obtain ⟨endpoint, channelMax, operations, rfl⟩ := hhistory
  obtain ⟨more, rfl⟩ := hreaches _ rfl
  exact ⟨endpoint, channelMax, operations ++ more, by rw [historyOf, List.foldl_append, historyOf]⟩

/-! ### Single operations -/

theorem reaches_takeNumber (number : Nat) : l.Reaches { l with lastNumber := number } :=
  .of_after (.takeNumber number) fun _ hlink => hlink ▸ rfl

theorem reaches_withChannel (number : Nat) : l.Reaches (l.withChannel number) :=
  .of_after (.openChannel number) fun _ hlink => hlink ▸ rfl

theorem reaches_leftAt (place : Place) (state : LinkState) : l.Reaches (l.leftAt state place) :=
  .of_after (.leave place state) fun _ hlink => hlink ▸ rfl

theorem notifiedAt_eq_self {place : Place} (hnone : (l.noticeAt place).isSome = false)
    (reason : CloseReason) : l.notifiedAt reason place = l := by
  cases place with
  | connection => cases hnone
  | channel i =>
      apply atChannel_eq_self
      intro c hc
      rw [noticeAt, hc] at hnone
      cases hnone

theorem reaches_reported (place : Place) (text : String) :
    l.Reaches (l.notifiedAt (.error text) place) := by
  apply Reaches.of_after (.report place text)
  intro history hlink
  rw [History.after, hlink]
  split_ifs with hthere
  · rfl
  · rw [notifiedAt_eq_self (Bool.not_eq_true _ ▸ hthere), hlink]

/-- A close of what is not connected is done at once. -/
theorem reaches_closed {place : Place} (hleft : l.isConnectedAt place = false) :
    l.Reaches (l.notifiedAt .graceful place) := by
  apply Reaches.of_after (.close place)
  intro history hlink
  rw [History.after, hlink, hleft, if_neg Bool.false_ne_true]
  split_ifs with hthere
  · rfl
  · rw [notifiedAt_eq_self (Bool.not_eq_true _ ▸ hthere), hlink]

theorem reaches_forward (i : Nat) : l.Reaches (l.atChannel i (·.forward l.notice)) := by
  apply Reaches.of_after (.forward i false)
  rintro history rfl
  apply atChannel_congr
  intro c _
  exact LinkChannel.forwardChoosing_eq _ _ c

/-! ### What happens at one place -/

theorem isConnectedAt_leftAt (place : Place) {state : LinkState} (hstate : state ≠ .connected) :
    (l.leftAt state place).isConnectedAt place = false := by
  cases place with
  | connection =>
      cases hold : l.state <;> simp [leftAt, left, isConnectedAt, isConnected, hold, hstate]
  | channel i =>
      rw [leftAt, isConnectedAt, getElem?_atChannel]
      cases l.channels[i]? with
      | none => rfl
      | some c =>
          cases hold : c.state <;>
            simp [LinkChannel.left, LinkChannel.isConnected, hold, hstate]

/-- An error takes a place out of the connected state and is reported. -/
theorem reaches_failedAt (place : Place) (state : LinkState) (text : String) :
    l.Reaches ((l.leftAt state place).notifiedAt (.error text) place) :=
  (reaches_leftAt place state).trans (reaches_reported place text)

theorem reaches_closedAt (place : Place) :
    l.Reaches ((l.leftAt .closed place).notifiedAt .graceful place) :=
  (reaches_leftAt place .closed).trans (reaches_closed (isConnectedAt_leftAt place nofun))

theorem reaches_failed (e : TransportError) : l.Reaches (l.failed e) :=
  reaches_failedAt .connection .failed e.message

theorem reaches_closed_connection : l.Reaches l.closed :=
  reaches_closedAt .connection

theorem reaches_channel_left (i : Nat) (state : LinkState) :
    l.Reaches (l.atChannel i (·.left state)) :=
  reaches_leftAt (.channel i) state

theorem reaches_channel_failed (i : Nat) (state : LinkState) (e : TransportError) :
    l.Reaches (l.atChannel i (·.failed state e)) := by
  have hreaches := reaches_failedAt (l := l) (.channel i) state e.message
  rw [leftAt, notifiedAt, atChannel_atChannel] at hreaches
  exact hreaches

theorem reaches_channel_closed (i : Nat) : l.Reaches (l.atChannel i (·.closed)) := by
  have hreaches := reaches_closedAt (l := l) (.channel i)
  rw [leftAt, notifiedAt, atChannel_atChannel] at hreaches
  exact hreaches

/-! ### What happens at all channels -/

/-- The connection with a change made to all channels before a position. -/
def changedBelow (l : Link) (change : LinkChannel → LinkChannel) (n : Nat) : Link :=
  { l with channels := l.channels.mapIdx fun i c => if i < n then change c else c }

theorem changedBelow_zero (change : LinkChannel → LinkChannel) : l.changedBelow change 0 = l := by
  have hchannels : (l.changedBelow change 0).channels = l.channels := by
    apply List.ext_getElem?
    intro j
    simp [changedBelow, List.getElem?_mapIdx]
  exact congrArg (fun channels => { l with channels }) hchannels

theorem changedBelow_succ (change : LinkChannel → LinkChannel) (n : Nat) :
    l.changedBelow change (n + 1) = (l.changedBelow change n).atChannel n change := by
  have hchannels : (l.changedBelow change (n + 1)).channels =
      ((l.changedBelow change n).atChannel n change).channels := by
    apply List.ext_getElem?
    intro j
    rw [getElem?_atChannel, changedBelow, changedBelow, List.getElem?_mapIdx, List.getElem?_mapIdx,
      Option.map_map]
    refine congrArg (Option.map · _) (funext ?_)
    intro c
    rcases Nat.lt_trichotomy j n with hlt | rfl | hgt
    · simp [hlt, Nat.lt_succ_of_lt hlt, Nat.ne_of_gt hlt]
    · simp
    · simp [Nat.not_lt_of_gt hgt, Nat.ne_of_lt hgt, Nat.not_lt_of_ge hgt]
  exact congrArg (fun channels => { l with channels }) hchannels

theorem changedBelow_length (change : LinkChannel → LinkChannel) :
    l.changedBelow change l.channels.length = { l with channels := l.channels.map change } := by
  refine congrArg (fun channels => { l with channels }) (List.ext_getElem? ?_)
  intro j
  rw [List.getElem?_mapIdx, List.getElem?_map]
  cases hc : l.channels[j]? with
  | none => rfl
  | some c => simp [(List.getElem?_eq_some_iff.mp hc).1]

/-- What can become of each channel can become of all. -/
theorem reaches_map {change : LinkChannel → LinkChannel}
    (hchange : ∀ l' : Link, l'.notice = l.notice → ∀ i, l'.Reaches (l'.atChannel i change)) :
    l.Reaches { l with channels := l.channels.map change } := by
  -- the channels are changed one after the other
  have hbelow : ∀ n, l.Reaches (l.changedBelow change n) := by
    intro n
    induction n with
    | zero =>
        rw [changedBelow_zero]
        exact .refl l
    | succ n ih =>
        rw [changedBelow_succ]
        exact ih.trans (hchange (l.changedBelow change n) rfl n)
  rw [← changedBelow_length]
  exact hbelow _

theorem reaches_forwardAll : l.Reaches l.forwardAll :=
  reaches_map fun _ hnotice i => hnotice ▸ reaches_forward i

theorem reaches_atConnected {change : LinkChannel → LinkChannel}
    (hchange : ∀ (l' : Link) (i : Nat), l'.Reaches (l'.atChannel i change)) :
    l.Reaches (l.atConnected change) := by
  apply reaches_map
  intro l' _ i
  by_cases hconnected : l'.isConnectedAt (.channel i) = true
  · have hsame : l'.atChannel i (fun c => if c.isConnected then change c else c) =
        l'.atChannel i change := by
      apply atChannel_congr
      intro c hc
      rw [isConnectedAt, hc, Option.any_some] at hconnected
      rw [if_pos hconnected]
    rw [hsame]
    exact hchange l' i
  · have hsame : l'.atChannel i (fun c => if c.isConnected then change c else c) = l' := by
      apply atChannel_eq_self
      intro c hc
      rw [isConnectedAt, hc, Option.any_some] at hconnected
      rw [if_neg hconnected]
    rw [hsame]
    exact .refl l'

theorem reaches_failedThroughout (e : TransportError) : l.Reaches (l.failedThroughout e) :=
  (reaches_failed e).trans (reaches_atConnected fun _ i => reaches_channel_failed i .failed e)

theorem reaches_endedThroughout : l.Reaches l.endedThroughout :=
  (reaches_leftAt .connection .closed).trans
    (reaches_atConnected fun _ i => reaches_channel_left i .closed)

end Reaching

end Link

namespace Session

/-! ## What a client and a server do -/

/-- What is done next: by the client, or from `plan` on by the server. -/
inductive Turn
  | dial (endpoint : String)
  | closeLink (link : Nat)
  | openChannel (link : Nat)
  | closeChannel (link channel : Nat)
  | qos (link channel : Nat) (prefetch : Prefetch)
  | publish (link channel : Nat) (exchange routingKey : String) (mandatory immediate : Bool)
      (message : OutboundMessage)
  | consume (link channel : Nat) (queue tag : String) (options : ConsumeOptions)
      (arguments : Table)
  | next (stream : Nat)
  | settle (held : Nat) (settlement : Settlement)
  | plan (kind : MethodKind) (refusal : Refusal)
  | refuse (link number : Nat) (refusal : Refusal)
  | deliver (subscription : Nat) (delivery : Delivery)
  | cancel (subscription : Nat)

/-- The session after a turn; one that cannot be taken changes nothing. -/
def after (s : Session) : Turn → Session
  | .dial endpoint => (s.dial endpoint).1
  | .closeLink link => (s.closeLink link).1
  | .openChannel link => (s.openChannel link).1
  | .closeChannel link channel => (s.closeChannel link channel).1
  | .qos link channel prefetch => (s.qos link channel prefetch).1
  | .publish link channel exchange routingKey mandatory immediate message =>
    (s.publish link channel exchange routingKey mandatory immediate message).1
  | .consume link channel queue tag options arguments =>
    (s.consume link channel queue tag options arguments).1
  | .next stream => ((s.next stream).map Prod.fst).getD s
  | .settle held settlement => ((s.settle held settlement).map Prod.fst).getD s
  | .plan kind refusal => s.plan kind refusal
  | .refuse link number refusal => (s.refuse link number refusal).1
  | .deliver subscription delivery => (s.deliver subscription delivery).1
  | .cancel subscription => s.cancel subscription

/-- The session after these turns with a server that listens at some addresses. -/
def sessionOf (hears : Address → Bool) (turns : List Turn) : Session :=
  turns.foldl after { hears }

/-! ## What a turn can do -/

/-- What becomes of a session in a turn: the server receives methods, connections are dialed, and
connections that there are go through operations. -/
inductive Leads : Session → Session → Prop
  | refl (s : Session) : Leads s s
  | trans {s s' s'' : Session} : Leads s s' → Leads s' s'' → Leads s s''
  /-- Everything else. -/
  | elsewhere {s s' : Session} : s'.links = s.links → s'.received = s.received → Leads s s'
  | receive (s : Session) (link number : Nat) (method : Method) :
      Leads s { s with received := s.received ++ [(link, number, method)] }
  | connect (s : Session) (endpoint : String) (channelMax : Nat) :
      Leads s { s with links := s.links ++ [{ endpoint, channelMax }] }
  | change (s : Session) (link : Nat) {change : Link → Link} :
      (∀ l : Link, l.Reaches (change l)) → Leads s (s.atLink link change)

section Turns

variable {s s' s₁ : Session}

/-! ### What a server does to a client -/

theorem leads_failLink (link : Nat) (e : TransportError) : s.Leads (s.failLink link e) := by
  refine Leads.trans (.elsewhere ?_ ?_)
    (.change _ link fun _ => Link.reaches_failedThroughout e) <;> rfl

theorem leads_endLink (link : Nat) : s.Leads (s.endLink link) := by
  refine Leads.trans (.elsewhere ?_ ?_)
    (.change _ link fun _ => Link.reaches_endedThroughout) <;> rfl

theorem leads_failChannel (link channel : Nat) (e : TransportError) :
    s.Leads (s.failChannel link channel e) := by
  refine Leads.trans (.elsewhere ?_ ?_)
    (.change _ link fun _ => Link.reaches_channel_failed channel .closed e) <;> rfl

theorem leads_endChannel (link channel : Nat) : s.Leads (s.endChannel link channel) := by
  refine Leads.trans (.elsewhere ?_ ?_)
    (.change _ link fun _ => Link.reaches_channel_left channel .closed) <;> rfl

theorem leads_refuse (link number : Nat) (refusal : Refusal) :
    s.Leads (s.refuse link number refusal).1 := by
  cases refusal with
  | hangUp => exact leads_failLink link lostTransport
  | closeConnection code text =>
      rw [Session.refuse]
      cases ProtocolError.ofCode? code text with
      | some e => exact leads_failLink link (.protocol e)
      | none => exact leads_endLink link
  | closeChannel code text =>
      rw [Session.refuse]
      cases ProtocolError.ofCode? code text with
      | some e =>
          cases (s.links[link]?).bind (·.position? number) with
          | none => exact .refl s
          | some channel => exact leads_failChannel link channel (.protocol e)
      | none =>
          cases (s.links[link]?).bind (·.position? number) with
          | none => exact .refl s
          | some channel => exact leads_endChannel link channel

theorem refuse_received (link number : Nat) (refusal : Refusal) :
    (s.refuse link number refusal).1.received = s.received := by
  cases refusal with
  | hangUp => rfl
  | closeConnection code text =>
      rw [Session.refuse]
      cases ProtocolError.ofCode? code text <;> rfl
  | closeChannel code text =>
      rw [Session.refuse]
      cases ProtocolError.ofCode? code text <;>
        cases (s.links[link]?).bind (·.position? number) <;> rfl

/-- A method that is sent is received, also if it is refused. -/
theorem send_received (link number : Nat) (method : Method) :
    (s.send link number method).1.received = s.received ++ [(link, number, method)] := by
  simp only [Session.send]
  split
  · rfl
  · exact refuse_received link number _

/-! ### What a client sends -/

theorem leads_send (link number : Nat) (method : Method) :
    s.Leads (s.send link number method).1 := by
  have hreceived := Leads.receive s link number method
  simp only [Session.send]
  split
  · exact hreceived
  · rename_i refusal plans _
    have hplanned : s.Leads
        { s with received := s.received ++ [(link, number, method)], plans } :=
      hreceived.trans (.elsewhere rfl rfl)
    exact hplanned.trans (leads_refuse link number refusal)

theorem leads_call (link channel : Nat) (method : Method) :
    s.Leads (s.call link channel method).1 := by
  rw [Session.call]
  split
  · exact .refl s
  · split_ifs
    · exact leads_send link _ method
    · exact .refl s

theorem leads_dial (endpoint : String) : s.Leads (s.dial endpoint).1 := by
  rw [Session.dial]
  split
  · exact .refl s
  · rename_i address _
    split_ifs
    · exact .refl s
    · have hlogin := (Leads.connect s endpoint (channelMaxFor address)).trans
        (leads_send s.links.length 0 (.login address.mechanism.name (loginResponse address)))
      dsimp only
      generalize Session.send _ _ _ (.login _ _) = sent at hlogin ⊢
      obtain ⟨s₁, _ | ⟨⟨⟩⟩⟩ := sent
      · exact hlogin
      · have hopen := hlogin.trans (leads_send s.links.length 0 (.openHost address.virtualHost))
        dsimp only at hopen ⊢
        generalize Session.send _ _ _ (.openHost _) = sent at hopen ⊢
        obtain ⟨s₂, _ | ⟨⟨⟩⟩⟩ := sent
        · exact hopen
        · exact hopen

theorem leads_closeLink (link : Nat) : s.Leads (s.closeLink link).1 := by
  rw [Session.closeLink]
  split
  · exact .refl s
  · rename_i l _
    have hclosed : ∀ s₁ : Session, s₁.Leads (s₁.atLink link (·.closed)) := fun s₁ =>
      .change s₁ link fun _ => Link.reaches_closed_connection
    have hsent : s.Leads (if l.isConnected then s.send link 0 (.close 200 "Closing connection")
        else (s, .ok ())).1 := by
      split_ifs
      · exact leads_send link 0 _
      · exact .refl s
    dsimp only
    generalize (if l.isConnected then s.send link 0 (.close 200 "Closing connection")
      else (s, .ok ())) = sent at hsent ⊢
    obtain ⟨s₁, _ | ⟨⟨⟩⟩⟩ := sent
    · exact hsent.trans (hclosed s₁)
    · exact (hsent.trans (leads_endLink link)).trans (hclosed _)

theorem leads_openChannel (link : Nat) : s.Leads (s.openChannel link).1 := by
  rw [Session.openChannel]
  split
  · exact .refl s
  · split_ifs
    · exact .refl s
    · split
      · exact .refl s
      · rename_i number _
        have hsent : s.Leads ((s.atLink link fun l => { l with lastNumber := number }).send link
            number .openChannel).1 :=
          (Leads.change s link fun _ => Link.reaches_takeNumber number).trans
            (leads_send link number .openChannel)
        dsimp only
        generalize Session.send _ _ _ .openChannel = sent at hsent ⊢
        obtain ⟨s₁, _ | ⟨⟨⟩⟩⟩ := sent
        · exact hsent
        · exact hsent.trans (.change s₁ link fun _ => Link.reaches_withChannel number)

theorem leads_closeChannel (link channel : Nat) : s.Leads (s.closeChannel link channel).1 := by
  have hclosed : ∀ s₁ : Session, s₁.Leads (s₁.atLink link (·.atChannel channel (·.closed))) :=
    fun s₁ => .change s₁ link fun _ => Link.reaches_channel_closed channel
  have hcalled : s.Leads (if (s.channel? link channel).any (·.isConnected) then
      s.call link channel (.closeChannel 200 "Closing channel") else (s, .ok ())).1 := by
    split_ifs
    · exact leads_call link channel _
    · exact .refl s
  rw [Session.closeChannel]
  dsimp only
  generalize (if (s.channel? link channel).any (·.isConnected) then
    s.call link channel (.closeChannel 200 "Closing channel") else (s, .ok ())) = called
    at hcalled ⊢
  obtain ⟨s₁, _ | ⟨⟨⟩⟩⟩ := called
  · exact hcalled.trans (hclosed s₁)
  · exact (hcalled.trans (leads_endChannel link channel)).trans (hclosed _)

/-- A publish leaves what the call leaves, whatever has come of it. -/
theorem publish_fst (link channel : Nat) (exchange routingKey : String)
    (mandatory immediate : Bool) (message : OutboundMessage) :
    (s.publish link channel exchange routingKey mandatory immediate message).1 =
      (s.call link channel (.publish exchange routingKey mandatory immediate message)).1 := by
  rw [Session.publish]
  dsimp only
  split_ifs <;> rfl

theorem leads_publish (link channel : Nat) (exchange routingKey : String)
    (mandatory immediate : Bool) (message : OutboundMessage) :
    s.Leads (s.publish link channel exchange routingKey mandatory immediate message).1 := by
  rw [publish_fst]
  exact leads_call link channel _

theorem leads_consume (link channel : Nat) (queue tag : String) (options : ConsumeOptions)
    (arguments : Table) : s.Leads (s.consume link channel queue tag options arguments).1 := by
  have hcalled : s.Leads (s.call link channel (.consume queue tag options arguments)).1 :=
    leads_call link channel _
  rw [Session.consume]
  generalize Session.call _ _ _ (.consume _ _ _ _) = called at hcalled ⊢
  obtain ⟨s₁, _ | ⟨⟨⟩⟩⟩ := called
  · exact hcalled.trans (.elsewhere rfl rfl)
  · exact hcalled.trans (.elsewhere rfl rfl)

theorem leads_settle {i : Nat} {settlement : Settlement} {result : Except BrokerError Unit}
    (hsettle : s.settle i settlement = some (s', result)) : s.Leads s' := by
  obtain ⟨held, -, hsettle⟩ := Option.bind_eq_some_iff.mp hsettle
  obtain ⟨stream, -, hsettle⟩ := Option.map_eq_some_iff.mp hsettle
  have hused : s.Leads { s with inHand := s.inHand.set i { held with used := true } } :=
    .elsewhere rfl rfl
  split_ifs at hsettle
  · cases hsettle
    exact .refl s
  · cases hfailure : stream.failure with
    | some e =>
        rw [hfailure] at hsettle
        cases hsettle
        exact hused
    | none =>
        rw [hfailure] at hsettle
        cases hsettle
        exact hused.trans (leads_call stream.link stream.channel _)

/-! ### What comes to a client -/

theorem leads_next {i : Nat} {what : Next} (hnext : s.next i = some (s', what)) : s.Leads s' := by
  obtain ⟨stream, -, hnext⟩ := Option.map_eq_some_iff.mp hnext
  split at hnext
  · cases hnext
    exact .elsewhere rfl rfl
  · cases hnext
    exact .elsewhere rfl rfl
  · split_ifs at hnext <;> cases hnext
    · exact .refl s
    · exact .refl s
    · exact .elsewhere rfl rfl

theorem leads_deliver (subscription : Nat) (delivery : Delivery) :
    s.Leads (s.deliver subscription delivery).1 := by
  rw [Session.deliver]
  split
  · exact .refl s
  · exact .refl s
  · exact .elsewhere rfl rfl

/-- The client answers that it has heard of the end of a subscription. -/
theorem leads_cancel (subscription : Nat) : s.Leads (s.cancel subscription) := by
  rw [Session.cancel]
  split
  · exact .refl s
  · split
    · exact .refl s
    · split
      · exact .refl s
      · split_ifs
        · exact .refl s
        · exact .trans (.receive s _ _ _) (.elsewhere rfl rfl)

/-! ### Any turn -/

theorem leads_after (turn : Turn) : s.Leads (s.after turn) := by
  cases turn with
  | dial endpoint => exact leads_dial endpoint
  | closeLink link => exact leads_closeLink link
  | openChannel link => exact leads_openChannel link
  | closeChannel link channel => exact leads_closeChannel link channel
  | qos link channel prefetch => exact leads_call link channel _
  | publish link channel exchange routingKey mandatory immediate message =>
      exact leads_publish link channel exchange routingKey mandatory immediate message
  | consume link channel queue tag options arguments =>
      exact leads_consume link channel queue tag options arguments
  | next stream =>
      rw [Session.after]
      cases hnext : s.next stream with
      | none => exact .refl s
      | some found => exact leads_next hnext
  | settle held settlement =>
      rw [Session.after]
      cases hsettle : s.settle held settlement with
      | none => exact .refl s
      | some found => exact leads_settle hsettle
  | plan kind refusal => exact .elsewhere rfl rfl
  | refuse link number refusal => exact leads_refuse link number refusal
  | deliver subscription delivery => exact leads_deliver subscription delivery
  | cancel subscription => exact leads_cancel subscription

/-- What the server has received is never taken back. -/
theorem Leads.received (hleads : s.Leads s') : s.received <+: s'.received := by
  induction hleads with
  | refl s => exact List.prefix_rfl
  | trans _ _ ihfirst ihsecond => exact ihfirst.trans ihsecond
  | elsewhere _ hreceived => exact hreceived ▸ List.prefix_rfl
  | receive s link number method => exact List.prefix_append _ _
  | connect s endpoint channelMax => exact List.prefix_rfl
  | change s link hchange => exact List.prefix_rfl

/-! ## Whole sessions -/

theorem Leads.haveHistory (hleads : s.Leads s') (hhave : ∀ l ∈ s.links, l.HasHistory) :
    ∀ l ∈ s'.links, l.HasHistory := by
  induction hleads with
  | refl s => exact hhave
  | trans _ _ ihfirst ihsecond => exact ihsecond (ihfirst hhave)
  | elsewhere hlinks _ => exact hlinks ▸ hhave
  | receive s link number method => exact hhave
  | connect s endpoint channelMax =>
      intro l hl
      rcases List.mem_append.mp hl with hold | hnew
      · exact hhave l hold
      · exact List.mem_singleton.mp hnew ▸ .new endpoint channelMax
  | @change s link change hchange =>
      intro l hl
      obtain ⟨j, hj⟩ := List.getElem?_of_mem hl
      rw [Session.atLink, List.getElem?_modify] at hj
      obtain ⟨old, hold, rfl⟩ := Option.map_eq_some_iff.mp hj
      have hhistory := hhave old (List.mem_of_getElem? hold)
      by_cases hij : link = j
      · rw [if_pos hij]
        exact hhistory.reaches ((hchange old).trans Link.reaches_forwardAll)
      · rw [if_neg hij]
        exact hhistory

end Turns

/-- Every connection of a session has a history. -/
theorem links_haveHistory (hears : Address → Bool) (turns : List Turn) :
    ∀ l ∈ (sessionOf hears turns).links, l.HasHistory := by
  induction turns using List.reverseRecOn with
  | nil => exact nofun
  | append_singleton turns turn ih =>
      rw [sessionOf, List.foldl_append]
      exact (leads_after turn).haveHistory ih

end Session

end BrokerClient.Amqp
