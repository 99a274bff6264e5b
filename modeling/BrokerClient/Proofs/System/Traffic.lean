import BrokerClient.Proofs.Broker.Traffic
import BrokerClient.Proofs.Supervisor.Lifecycle
import BrokerClient.Proofs.System.Tasks

/-!
# A system as traffic

Every task of a system asks the broker for one thing after the other, and what it waits for is the
wait of its request.  So whatever happens to the broker of a system happens in some traffic, too
(`Run.isTraffic`), and what is proved of all traffic holds under every run of every system.
-/

namespace BrokerClient

open Broker

/-! ## What a task asks for -/

/-- The request that a failover waits for. -/
def Failover.request? (endpoints : List String) : Failover → Option (LongRequest × Wait)
  | dialing index _ wait => some (.dial ((endpoints[index]?).getD ""), wait)
  | _ => none

@[inherit_doc Failover.request?]
def Watcher.request? (endpoints : List String) : Watcher → Option (LongRequest × Wait)
  | reconnecting _ failover => failover.request? endpoints
  | _ => none

/-- The request that a publish waits for. -/
def Publishing.request? (event : Event) : Publishing → Option (LongRequest × Wait)
  | opening _ connection wait _ => some (.openChannel connection, wait)
  | sending _ channel wait _ => some (.publish (publication event channel), wait)
  | _ => none

/-- The request that a consumption loop waits for. -/
def Consuming.request? : Consuming → Option (LongRequest × Wait)
  | opening _ connection wait => some (.openChannel connection, wait)
  | _ => none

/-- The request that a task waits for. -/
def Task.request? (endpoints : List String) : Task → Option (LongRequest × Wait)
  | connect point => point.request? endpoints
  | watcher point => point.request? endpoints
  | publish _ event point => point.request? event
  | consume _ _ point => point.request?
  | _ => none

namespace Broker

/-- `b.Deals held b' held'`: with one who waits for a request the broker goes one step on. -/
inductive Deals (b : Broker) :
    Option (LongRequest × Wait) → Broker → Option (LongRequest × Wait) → Prop
  | keep {held : Option (LongRequest × Wait)} : Deals b held b held
  | giveUp {held : Option (LongRequest × Wait)} : Deals b held b none
  | answer (requests : List ShortRequest) : Deals b none (requests.foldl answered b) none
  | begin (asked : LongRequest) :
      Deals b none (b.begun asked).1 ((b.begun asked).2.map (asked, ·))
  | wait {asked : LongRequest} {wait wait' : Wait} (hprogress : b.progress wait = .goesOn wait') :
      Deals b (some (asked, wait)) b (some (asked, wait'))
  | finish {asked : LongRequest} {wait : Wait} (hpassed : b.progress wait = .passed) :
      Deals b (some (asked, wait)) (b.ended asked) none

theorem Deals.of_beginOpen {b b' : Broker} {connection : Nat} {result : Except BrokerError Wait}
    (hbegin : b.beginOpen connection = (b', result)) :
    b.Deals none b' (result.toOption.map (.openChannel connection, ·)) := by
  have hdeals := Deals.begin (b := b) (.openChannel connection)
  rwa [begun, hbegin] at hdeals

theorem Deals.of_beginPublish {b b' : Broker} {channel : Nat} {result : Except BrokerError Wait}
    (event : Event) (hbegin : b.beginPublish channel = (b', result)) :
    b.Deals none b'
      (result.toOption.map (.publish (Publishing.publication event channel), ·)) := by
  have hdeals := Deals.begin (b := b) (.publish (Publishing.publication event channel))
  rwa [begun, Publishing.publication, hbegin] at hdeals

end Broker

/-! ## Turns -/

section Turns

variable {s s' : Supervisor} {b b' : Broker}

theorem Failover.Advance.deals {point point' : Failover}
    (hadvance : point.Advance s b s' b' point') :
    b.Deals (point.request? s.endpoints) b' (point'.request? s.endpoints) := by
  cases hadvance with
  | @dial index last endpoint hendpoint =>
      have hdeals := Deals.begin (b := b) (.dial endpoint)
      simpa [begun, request?, hendpoint] using hdeals
  | wait hwait => exact .wait hwait
  | @reach index _ _ _ _ hwait hdial | @miss index _ _ _ _ hwait hdial =>
      have hdeals : b.Deals _ (b.ended (.dial ((s.endpoints[index]?).getD ""))) none :=
        .finish hwait
      rwa [ended, hdial] at hdeals
  | @discard connection => exact .answer [.closeConnection connection]
  | @close _ previous hopen => exact .answer [.closeConnection previous]
  | _ => exact .keep

theorem Watcher.Advance.deals {point point' : Watcher}
    (hadvance : point.Advance s b s' b' point') :
    b.Deals (point.request? s.endpoints) b' (point'.request? s.endpoints) := by
  cases hadvance with
  | failover hgoesOn hadvance => exact hadvance.deals
  | leaveFailover hterminated hsafe => exact .giveUp
  | _ => exact .keep

theorem Shutdown.Advance.deals {hasEnded : Nat → Bool} {point point' : Shutdown}
    (hadvance : point.Advance s b hasEnded s' b' point') : b.Deals none b' none := by
  cases hadvance with
  | @close connection hopen => exact .answer [.closeConnection connection]
  | _ => exact .keep

theorem Publishing.Advance.deals {p p' : Publisher} {me : Nat} {event : Event}
    {point point' : Publishing} (hadvance : Advance s b p me event point p' b' point') :
    b.Deals (point.request? event) b' (point'.request? event) := by
  cases hadvance with
  | refuseOpen hnone hconnection hbegin => exact .of_beginOpen hbegin
  | beginOpen hnone hconnection hbegin => exact .of_beginOpen hbegin
  | waitOpen hwait => exact .wait hwait
  | endOpen hwait => exact .finish hwait
  | openElapsed hwait hdeadline => exact .giveUp
  | refusePublish hbegin => exact .of_beginPublish event hbegin
  | beginPublish hbegin => exact .of_beginPublish event hbegin
  | waitPublish hwait => exact .wait hwait
  | endPublish hwait => exact .finish hwait
  | publishElapsed hwait hdeadline => exact .giveUp
  | @close channel hopen => exact .answer [.closeChannel channel]
  | _ => exact .keep

theorem ClosePublisher.Advance.deals {p p' : Publisher} {me : Nat} {point point' : ClosePublisher}
    (hadvance : Advance b p me point p' b' point') : b.Deals none b' none := by
  cases hadvance with
  | @close channel hopen => exact .answer [.closeChannel channel]
  | _ => exact .keep

theorem Consuming.Advance.deals {config : ConsumerConfig} {queue : String} {handler : Handler}
    {state state' : ConsumeState} {point point' : Consuming}
    (hadvance : Advance s config queue handler state point state' point') :
    state.broker.Deals point.request? state'.broker point'.request? := by
  cases hadvance with
  | refuseOpen hgoesOn hconnection hbegin => exact .of_beginOpen hbegin
  | beginOpen hgoesOn hconnection hbegin => exact .of_beginOpen hbegin
  | waitOpen hwait => exact .wait hwait
  | endOpen hwait => exact .finish hwait
  | @refuseLimits _ channel _ _ hqos | @limit _ channel _ hqos =>
      have hdeals := Deals.answer (b := state.broker) [.qos channel config.prefetch]
      rwa [List.foldl_cons, List.foldl_nil, answered, hqos] at hdeals
  | @refuseSubscribe _ channel _ _ hconsume | @subscribe _ channel _ _ hconsume =>
      have hdeals := Deals.answer (b := state.broker)
        [.consume (request config queue channel (nextTag config state.ids).1)]
      rwa [List.foldl_cons, List.foldl_nil, answered, hconsume] at hdeals
  | @cancelListening _ session hcancelled => exact .answer [.hangUp session.subscription]
  | @take _ session _ _ hgoesOn hreceive =>
      have hdeals := Deals.answer (b := state.broker) [.receive session.subscription]
      rwa [List.foldl_cons, List.foldl_nil, answered, hreceive] at hdeals
  | @fault _ session _ _ hgoesOn hreceive | @endOfStream _ session _ hgoesOn hreceive =>
      have hdeals := Deals.answer (b := state.broker)
        [.receive session.subscription, .hangUp session.subscription]
      rwa [List.foldl_cons, answered, hreceive] at hdeals
  | @settle _ _ delivery _ settlement _ htime =>
      exact .answer [.settle delivery.tag settlement]
  | @conclude _ _ delivery outcome =>
      show state.broker.Deals none (Consuming.conclude config state.broker delivery outcome).1 none
      rw [conclude_broker]
      split
      · exact .keep
      · exact .answer [.settle delivery.tag (.ofOutcome outcome)]
  | @closeChannel _ channel _ hopen => exact .answer [.closeChannel channel]
  | _ => exact .keep

end Turns

/-! ## Those who wait -/

namespace Traffic

/-- The traffic has this broker, and each who waits for a request has a place of his own in it. -/
structure Mirrors (t : Traffic) (b : Broker) (held : Nat → Option (LongRequest × Wait))
    (place : Nat → Nat) : Prop where
  broker : t.broker = b
  requests : ∀ u asked wait, held u = some (asked, wait) →
    t.requests[place u]? = some ⟨asked, some wait⟩
  distinct : ∀ u v, (held u).isSome → (held v).isSome → place u = place v → u = v

theorem run_answers (t : Traffic) (requests : List ShortRequest) :
    t.run (requests.map .answer) = { t with broker := requests.foldl answered t.broker } := by
  induction requests generalizing t with
  | nil => rfl
  | cons request requests ih => exact ih (t.after (.answer request))

variable {t t' : Traffic} {b b' : Broker} {held held' : Nat → Option (LongRequest × Wait)}
  {place : Nat → Nat}

theorem isSome_of_kept {v : Nat}
    (hkept : ∀ request, held' v = some request → held v = some request)
    (hv : (held' v).isSome) : (held v).isSome := by
  obtain ⟨request, hrequest⟩ := Option.isSome_iff_exists.mp hv
  rw [hkept request hrequest, Option.isSome_some]

namespace Mirrors

theorem lt_length (hmirrors : t.Mirrors b held place) {u : Nat} (hu : (held u).isSome) :
    place u < t.requests.length := by
  obtain ⟨⟨asked, wait⟩, hheld⟩ := Option.isSome_iff_exists.mp hu
  exact (List.getElem?_eq_some_iff.mp (hmirrors.requests u asked wait hheld)).1

/-- Where the requests stay as they are those who wait can be fewer. -/
theorem mono (hmirrors : t.Mirrors b held place) (hrequests : t'.requests = t.requests)
    (hbroker : t'.broker = b')
    (hkept : ∀ v request, held' v = some request → held v = some request) :
    t'.Mirrors b' held' place where
  broker := hbroker
  requests u asked wait hheld := by
    rw [hrequests]
    exact hmirrors.requests u asked wait (hkept u _ hheld)
  distinct u v hu hv :=
    hmirrors.distinct u v (isSome_of_kept (hkept u) hu) (isSome_of_kept (hkept v) hv)

/-- One of those who wait goes on in his place. -/
theorem goOn (hmirrors : t.Mirrors b held place) {u : Nat} (asked : LongRequest)
    (next : Option Wait) (hu : (held u).isSome) (hnow : held' u = next.map (asked, ·))
    (hkept : ∀ v ≠ u, ∀ request, held' v = some request → held v = some request)
    (hrequests : t'.requests = t.requests.set (place u) ⟨asked, next⟩) (hbroker : t'.broker = b') :
    t'.Mirrors b' held' place := by
  have hwaited {v : Nat} (hv : (held' v).isSome) : (held v).isSome := by
    by_cases heq : v = u
    · rwa [heq]
    · exact isSome_of_kept (hkept v heq) hv
  refine ⟨hbroker, fun v asked' wait hheld => ?_, fun v w hv hw =>
    hmirrors.distinct v w (hwaited hv) (hwaited hw)⟩
  rw [hrequests]
  by_cases heq : v = u
  · subst heq
    obtain ⟨wait, hwait, rfl, rfl⟩ :
        ∃ wait', next = some wait' ∧ asked = asked' ∧ wait' = wait := by
      simpa [hnow] using hheld
    rw [List.getElem?_set_self (hmirrors.lt_length hu), hwait]
  · -- nobody else has this place
    have hne : place u ≠ place v := fun hsame =>
      heq (hmirrors.distinct v u (hwaited (by simp [hheld])) hu hsame.symm)
    rw [List.getElem?_set_ne hne]
    exact hmirrors.requests v asked' wait (hkept v heq _ hheld)

/-- One who has not waited gets a place of his own. -/
theorem ask (hmirrors : t.Mirrors b held place) {u : Nat} (asked : LongRequest)
    (hnow : held' u = (b.begun asked).2.map (asked, ·))
    (hkept : ∀ v ≠ u, ∀ request, held' v = some request → held v = some request) :
    (t.after (.ask asked)).Mirrors (b.begun asked).1 held'
      (Function.update place u t.requests.length) := by
  obtain rfl := hmirrors.broker
  have hold {v : Nat} (hne : v ≠ u) (hv : (held' v).isSome) : place v < t.requests.length :=
    hmirrors.lt_length (isSome_of_kept (hkept v hne) hv)
  refine ⟨rfl, fun v asked' wait hheld => ?_, fun v w hv hw => ?_⟩
  · by_cases heq : v = u
    · subst heq
      obtain ⟨wait, hwait, rfl, rfl⟩ : ∃ wait', (t.broker.begun asked).2 = some wait' ∧
          asked = asked' ∧ wait' = wait := by
        simpa [hnow] using hheld
      simp [after, hwait]
    · have hlt := hold heq (by simp [hheld])
      rw [Function.update_of_ne heq, after, List.getElem?_append_left hlt]
      exact hmirrors.requests v asked' wait (hkept v heq _ hheld)
  · by_cases hvu : v = u <;> by_cases hwu : w = u
    · intro _
      rw [hvu, hwu]
    · have hlt := hold hwu hw
      rw [hvu, Function.update_self, Function.update_of_ne hwu]
      omega
    · have hlt := hold hvu hv
      rw [hwu, Function.update_self, Function.update_of_ne hvu]
      omega
    · rw [Function.update_of_ne hvu, Function.update_of_ne hwu]
      exact hmirrors.distinct v w (isSome_of_kept (hkept v hvu) hv)
        (isSome_of_kept (hkept w hwu) hw)

/-- Where one of those who wait deals with the broker, the traffic can follow. -/
theorem follow (hmirrors : t.Mirrors b held place) {u : Nat}
    (hdeals : b.Deals (held u) b' (held' u))
    (hkept : ∀ v ≠ u, ∀ request, held' v = some request → held v = some request) :
    ∃ moves place', (t.run moves).Mirrors b' held' place' := by
  have hall (hu : ∀ request, held' u = some request → held u = some request) (v : Nat)
      (request : LongRequest × Wait) (hrequest : held' v = some request) :
      held v = some request := by
    by_cases heq : v = u
    · rw [heq] at hrequest ⊢
      exact hu request hrequest
    · exact hkept v heq request hrequest
  obtain rfl := hmirrors.broker
  generalize hu : held u = before at hdeals
  generalize hu' : held' u = now at hdeals
  cases hdeals with
  | keep => exact ⟨[], place, hmirrors.mono rfl rfl (hall fun _ => by simp [hu, hu'])⟩
  | giveUp => exact ⟨[], place, hmirrors.mono rfl rfl (hall (by simp [hu']))⟩
  | answer requests =>
      refine ⟨requests.map .answer, place, ?_⟩
      rw [run_answers]
      exact hmirrors.mono rfl rfl (hall (by simp [hu']))
  | begin asked => exact ⟨[.ask asked], _, hmirrors.ask asked hu' hkept⟩
  | @wait asked wait wait' hprogress =>
      have hrequest := hmirrors.requests u asked wait hu
      refine ⟨[.goOn (place u)], place,
        hmirrors.goOn asked (some wait') (by simp [hu]) hu' hkept ?_ ?_⟩
      all_goals simp [run, after, hrequest, hprogress]
  | @finish asked wait hpassed =>
      have hrequest := hmirrors.requests u asked wait hu
      refine ⟨[.goOn (place u)], place, hmirrors.goOn asked none (by simp [hu]) hu' hkept ?_ ?_⟩
      all_goals simp [run, after, hrequest, hpassed]

end Mirrors

end Traffic

/-! ## Runs -/

namespace System

variable {w w' : System}

/-- The request that the task of a number waits for. -/
def request? (w : System) (u : Nat) : Option (LongRequest × Wait) :=
  (w.tasks[u]?).bind (Task.request? w.supervisor.endpoints)

theorem request?_of_task {u : Nat} {task : Task} (htask : w.tasks[u]? = some task) :
    w.request? u = task.request? w.supervisor.endpoints := by
  rw [request?, htask, Option.bind_some]

theorem request?_begun {task : Task} (hbegun : task.begun = task) (endpoints : List String) :
    task.request? endpoints = none := by
  cases task <;> cases hbegun <;> rfl

theorem endpoints_after {what : Happening} (hafter : w.after? what = some w') :
    w'.supervisor.endpoints = w.supervisor.endpoints :=
  (after_supervisionChange hafter).lasts.1

/-- Whoever does not take the turn has waited for what he waits for before, too. -/
theorem request?_kept {what : Happening} (hafter : w.after? what = some w') {v : Nat}
    (hother : what ≠ .turn v) {request : LongRequest × Wait}
    (hrequest : w'.request? v = some request) : w.request? v = some request := by
  obtain ⟨task, htask, hwaits⟩ := Option.bind_eq_some_iff.mp hrequest
  rw [endpoints_after hafter] at hwaits
  rcases after_task_cases hafter htask with
    ⟨_, hkept⟩ | ⟨hturn, _⟩ | rfl | ⟨_, hbegun⟩
  · rw [request?_of_task hkept, hwaits]
  · exact absurd hturn hother
  · cases hwaits
  · rw [request?_begun hbegun] at hwaits
    cases hwaits

/-- A turn is one dealing of its task with the broker. -/
theorem step_deals {u : Nat} (hstep : w.step u = some w') :
    w.broker.Deals (w.request? u) w'.broker (w'.request? u) := by
  have hafter : w.after? (.turn u) = some w' := hstep
  obtain ⟨task, task', spawned, htask, htasks, _, hacts⟩ := step_acts hstep
  have htask' : w'.tasks[u]? = some task' := by
    rw [htasks]
    exact task_set_self htask
  rw [request?_of_task htask, request?_of_task htask', endpoints_after hafter]
  cases hacts with
  | connect hadvance hpublishers => exact hadvance.deals
  | start hadvance hbroker hpublishers => exact hbroker ▸ .keep
  | shutdown hadvance hpublishers => exact hadvance.deals
  | watcher hadvance hpublishers => exact hadvance.deals
  | publish hadvance hsupervisor hpublishers hspawned => exact hadvance.deals
  | closePublisher hadvance hsupervisor hpublishers => exact hadvance.deals
  | channelWatch hadvance hsupervisor hbroker hpublishers => exact hbroker ▸ .keep
  | consume hsetup hturn hsupervisor hbroker hpublishers =>
      rw [hbroker]
      exact (Consuming.step_advance hturn).deals

/-- Whatever happens to a system, traffic that mirrors it can follow. -/
theorem after_mirrors {t : Traffic} {place : Nat → Nat} {what : Happening}
    (hafter : w.after? what = some w') (hmirrors : t.Mirrors w.broker w.request? place) :
    ∃ moves place', (t.run moves).Mirrors w'.broker w'.request? place' := by
  have hkept (hquiet : ∀ v, what ≠ .turn v) (v : Nat) (request : LongRequest × Wait)
      (hrequest : w'.request? v = some request) : w.request? v = some request :=
    request?_kept hafter (hquiet v) hrequest
  cases what with
  | turn u =>
      refine hmirrors.follow (step_deals hafter) fun v hne request hrequest => ?_
      exact request?_kept hafter (fun heq => hne (Happening.turn.inj heq).symm) hrequest
  | incident incident =>
      have hbroker : (t.after (.incident incident)).broker = w'.broker := by
        cases hafter
        exact congrArg (·.after incident) hmirrors.broker
      exact ⟨[.incident incident], place, hmirrors.mono rfl hbroker (hkept nofun)⟩
  | abort u =>
      obtain ⟨_, _, _, _, hgivesUp⟩ := after_abort hafter
      rcases hgivesUp.broker with hsame | ⟨subscription, hhungUp⟩
      · have hbroker : t.broker = w'.broker := hmirrors.broker.trans hsame.symm
        exact ⟨[], place, hmirrors.mono rfl hbroker (hkept nofun)⟩
      · have hbroker : (t.after (.answer (.hangUp subscription))).broker = w'.broker := by
          rw [hhungUp, ← hmirrors.broker]
          rfl
        exact ⟨[.answer (.hangUp subscription)], place, hmirrors.mono rfl hbroker (hkept nofun)⟩
  | call call =>
      have hbroker : t.broker = w'.broker := by
        cases hafter
        exact hmirrors.broker
      exact ⟨[], place, hmirrors.mono rfl hbroker (hkept nofun)⟩
  | cancel consumer =>
      have hbroker : t.broker = w'.broker := by
        cases hafter
        obtain ⟨tokens, hcancel⟩ := w.cancel_eq consumer
        rw [hcancel]
        exact hmirrors.broker
      exact ⟨[], place, hmirrors.mono rfl hbroker (hkept nofun)⟩
  | renewToken consumer =>
      have hbroker : t.broker = w'.broker := by
        cases hafter
        exact hmirrors.broker
      exact ⟨[], place, hmirrors.mono rfl hbroker (hkept nofun)⟩

end System

/-- Whatever a run of a system does to its broker can be done to it by traffic. -/
theorem Run.isTraffic {w₀ w : System} {past : List Moment} (hrun : Run w₀ past w)
    (hfresh : w₀.tasks = []) :
    ∃ moves, ((Traffic.mk w₀.broker []).run moves).broker = w.broker := by
  suffices hmirrors : ∃ moves place,
      ((Traffic.mk w₀.broker []).run moves).Mirrors w.broker w.request? place by
    obtain ⟨moves, place, hmirrors⟩ := hmirrors
    exact ⟨moves, hmirrors.broker⟩
  induction hrun with
  | refl =>
      have hnobody (u : Nat) : w₀.request? u = none := by simp [System.request?, hfresh]
      refine ⟨[], id, rfl, fun u asked wait hheld => ?_, fun u v hu => ?_⟩
      · cases (hnobody u).symm.trans hheld
      · simp [hnobody u] at hu
  | snoc _ hafter ih =>
      obtain ⟨moves, place, hmirrors⟩ := ih
      obtain ⟨more, place', hmirrors'⟩ := System.after_mirrors hafter hmirrors
      rw [← Traffic.run_append] at hmirrors'
      exact ⟨moves ++ more, place', hmirrors'⟩

end BrokerClient
