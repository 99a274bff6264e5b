import BrokerClient.Proofs.Broker.Connections
import BrokerClient.Proofs.Broker.Record

/-!
# Turns of the tasks around a supervisor

For each of the four kinds of tasks that work on a supervisor, a relation lists what one turn can
do: from which point, under which condition, to which supervisor, broker and point.  `step_advance`
says that every turn is listed.  All that follows about supervisors is by cases on these relations.
-/

namespace BrokerClient

/-! ## Failover -/

namespace Failover

/-- `Advance s b point s' b' point'`: a turn of a failover. -/
inductive Advance (s : Supervisor) (b : Broker) :
    Failover → Supervisor → Broker → Failover → Prop
  | dial {index : Nat} {last : Option BrokerError} {endpoint : String}
      (hendpoint : s.endpoints[index]? = some endpoint) :
      Advance s b (next index last) s (b.beginDial endpoint).1
        (dialing index last (b.beginDial endpoint).2)
  | giveUp {index : Nat} {e : BrokerError} (hend : s.endpoints[index]? = none) :
      Advance s b (next index (some e)) s b (finished (.error e))
  | dialNothing {index : Nat} (hend : s.endpoints[index]? = none) :
      Advance s b (next index none) s b (finished (.ok ()))
  | wait {index : Nat} {last : Option BrokerError} {wait wait' : Broker.Wait}
      (hwait : b.progress wait = .goesOn wait') :
      Advance s b (dialing index last wait) s b (dialing index last wait')
  | reach {index connection : Nat} {last : Option BrokerError} {wait : Broker.Wait} {b' : Broker}
      (hwait : b.progress wait = .passed)
      (hdial : b.endDial ((s.endpoints[index]?).getD "") = (b', .ok connection)) :
      Advance s b (dialing index last wait) s b' (answered index connection)
  | miss {index : Nat} {last : Option BrokerError} {wait : Broker.Wait} {b' : Broker}
      {e : BrokerError} (hwait : b.progress wait = .passed)
      (hdial : b.endDial ((s.endpoints[index]?).getD "") = (b', .error e)) :
      Advance s b (dialing index last wait) s b' (next (index + 1) (some e))
  | refuse {index connection : Nat} (hterminated : s.terminated = true) :
      Advance s b (answered index connection) s b (refusing connection)
  | fill {index connection : Nat} (hterminated : s.terminated = false) (hslot : s.slot = none) :
      Advance s b (answered index connection) { s with slot := some connection } b
        (connected index)
  | replace {index connection previous : Nat} (hterminated : s.terminated = false)
      (hslot : s.slot = some previous) :
      Advance s b (answered index connection) { s with slot := some connection } b
        (replaced index previous)
  | discard {connection : Nat} :
      Advance s b (refusing connection) s (b.closeConnection connection).1
        (finished (.error .terminated))
  | leave {index previous : Nat} (hclosed : b.connectionClosed previous = true) :
      Advance s b (replaced index previous) s b (connected index)
  | close {index previous : Nat} (hopen : b.connectionClosed previous = false) :
      Advance s b (replaced index previous) s (b.closeConnection previous).1 (connected index)
  | succeed {index : Nat} : Advance s b (connected index) s b (finished (.ok ()))

theorem step_advance {s : Supervisor} {b : Broker} {point : Failover}
    {turn : Turn (Supervisor × Broker) Failover} (hstep : point.step s b = some turn) :
    Advance s b point turn.state.1 turn.state.2 turn.point := by
  cases point with
  | next index last =>
      cases hendpoint : s.endpoints[index]? with
      | some endpoint =>
          simp only [step, hendpoint] at hstep
          cases hstep
          exact .dial hendpoint
      | none =>
          cases last with
          | none =>
              simp only [step, hendpoint] at hstep
              cases hstep
              exact .dialNothing hendpoint
          | some e =>
              simp only [step, hendpoint] at hstep
              cases hstep
              exact .giveUp hendpoint
  | dialing index last wait =>
      rw [step] at hstep
      split at hstep
      · cases hstep
      · rename_i hwait
        cases hstep
        exact .wait hwait
      · rename_i hwait
        simp only at hstep
        split at hstep
        · rename_i hdial
          cases hstep
          exact .reach hwait hdial
        · rename_i hdial
          cases hstep
          exact .miss hwait hdial
  | answered index connection =>
      rw [step] at hstep
      split at hstep
      · rename_i hterminated
        cases hstep
        exact .refuse hterminated
      · rename_i hterminated
        cases hslot : s.slot with
        | none =>
            simp only [hslot] at hstep
            cases hstep
            exact .fill (by simpa using hterminated) hslot
        | some previous =>
            simp only [hslot] at hstep
            cases hstep
            exact .replace (by simpa using hterminated) hslot
  | refusing connection =>
      cases hstep
      exact .discard
  | replaced index previous =>
      rw [step] at hstep
      split at hstep
      · rename_i hclosed
        cases hstep
        exact .leave hclosed
      · rename_i hopen
        cases hstep
        exact .close (by simpa using hopen)
  | connected index =>
      cases hstep
      exact .succeed
  | finished result => cases hstep

theorem Advance.serves {s s' : Supervisor} {b b' : Broker} {point point' : Failover}
    (hadvance : point.Advance s b s' b' point') : b.Serves b' := by
  cases hadvance with
  | dial hendpoint => exact b.beginDial_serves _
  | reach hwait hdial => exact .of_addsConnection (Broker.endDial_ok hdial)
  | miss hwait hdial => exact .of_keepsConnections (Broker.endDial_error hdial)
  | discard => exact .of_mayClose (b.closeConnection_mayClose _)
  | close hopen => exact .of_mayClose (b.closeConnection_mayClose _)
  | _ => exact .of_keepsConnections (.refl b)

theorem Advance.writes {s s' : Supervisor} {b b' : Broker} {point point' : Failover}
    (hadvance : point.Advance s b s' b' point') : b.Writes b' Broker.Entry.isConnecting := by
  cases hadvance with
  | dial hendpoint => exact .of_entry (b.beginDial_entries _) rfl
  | @reach index _ _ _ _ hwait hdial | @miss index _ _ _ _ hwait hdial =>
      have hentries := b.endDial_entries ((s.endpoints[index]?).getD "")
      rw [hdial] at hentries
      exact .of_eq hentries
  | discard => exact .of_entry (b.closeConnection_entries _) rfl
  | close hopen => exact .of_entry (b.closeConnection_entries _) rfl
  | _ => exact .of_eq rfl

end Failover

/-! ## The watcher -/

namespace Watcher

/-- `Advance s b point s' b' point'`: a turn of the watcher. -/
inductive Advance (s : Supervisor) (b : Broker) : Watcher → Supervisor → Broker → Watcher → Prop
  | begin : Advance s b starting s b looking
  | subscribe {connection : Nat} (hslot : s.slot = some connection) :
      Advance s b looking s b (watching connection)
  | idle (hslot : s.slot = none) : Advance s b looking s b (idle (afterDelay s b))
  | leaveIdle {time : Nat} (hterminated : s.terminated = true) :
      Advance s b (.idle time) s b stopping
  | lookAgain {time : Nat} (hterminated : s.terminated = false) (htime : ¬ b.clock < time) :
      Advance s b (.idle time) s b looking
  | leaveWatch {connection : Nat} (hterminated : s.terminated = true) :
      Advance s b (watching connection) s b stopping
  | lose {connection : Nat} {reason : CloseReason} (hterminated : s.terminated = false)
      (hreason : b.connectionReason? connection = some reason) :
      Advance s b (watching connection) s b (lost connection reason)
  | resubscribe {connection : Nat} {reason : CloseReason} (hconnected : s.isConnected b = true) :
      Advance s b (lost connection reason) s b looking
  | reconnect {connection : Nat} {reason : CloseReason} (hconnected : s.isConnected b = false) :
      Advance s b (lost connection reason) s b (reconnecting 1 .start)
  | leaveFailover {attempt : Nat} {failover : Failover} (hterminated : s.terminated = true)
      (hsafe : failover.isSafe = true) : Advance s b (reconnecting attempt failover) s b stopping
  | failover {attempt : Nat} {failover failover' : Failover} {s' : Supervisor} {b' : Broker}
      (hgoesOn : (s.terminated && failover.isSafe) = false)
      (hadvance : failover.Advance s b s' b' failover') :
      Advance s b (reconnecting attempt failover) s' b' (reconnecting attempt failover')
  | reconnected {attempt : Nat} :
      Advance s b (reconnecting attempt (.finished (.ok ()))) s b looking
  | refused {attempt : Nat} :
      Advance s b (reconnecting attempt (.finished (.error .terminated))) s b stopping
  | rest {attempt : Nat} {e : BrokerError} (he : e ≠ .terminated) :
      Advance s b (reconnecting attempt (.finished (.error e))) s b
        (resting attempt (afterDelay s b))
  | leaveRest {attempt time : Nat} (hterminated : s.terminated = true) :
      Advance s b (resting attempt time) s b stopping
  | retry {attempt time : Nat} (hterminated : s.terminated = false) (htime : ¬ b.clock < time) :
      Advance s b (resting attempt time) s b (reconnecting (attempt + 1) .start)
  | stop : Advance s b stopping s b stopped

private theorem step_failover {s : Supervisor} {b : Broker} {attempt : Nat} {failover : Failover}
    {turn : Turn (Supervisor × Broker) Watcher}
    (hgoesOn : (s.terminated && failover.isSafe) = false)
    (hstep : (failover.step s b).map (fun turn : Turn (Supervisor × Broker) Failover =>
      (⟨turn.state, reconnecting attempt turn.point, turn.log⟩ : Turn _ Watcher)) = some turn) :
    Advance s b (reconnecting attempt failover) turn.state.1 turn.state.2 turn.point := by
  obtain ⟨turn', hstep', rfl⟩ := Option.map_eq_some_iff.mp hstep
  exact .failover hgoesOn (Failover.step_advance hstep')

theorem step_advance {s : Supervisor} {b : Broker} {point : Watcher}
    {turn : Turn (Supervisor × Broker) Watcher} (hstep : point.step s b = some turn) :
    Advance s b point turn.state.1 turn.state.2 turn.point := by
  cases point with
  | starting =>
      cases hstep
      exact .begin
  | looking =>
      rw [step] at hstep
      split at hstep
      · rename_i hslot
        cases hstep
        exact .subscribe hslot
      · rename_i hslot
        cases hstep
        exact .idle hslot
  | idle time =>
      rw [step] at hstep
      split at hstep
      · rename_i hterminated
        cases hstep
        exact .leaveIdle hterminated
      · rename_i hterminated
        split at hstep
        · cases hstep
        · rename_i htime
          cases hstep
          exact .lookAgain (by simpa using hterminated) htime
  | watching connection =>
      rw [step] at hstep
      split at hstep
      · rename_i hterminated
        cases hstep
        exact .leaveWatch hterminated
      · rename_i hterminated
        obtain ⟨reason, hreason, hturn⟩ := Option.bind_eq_some_iff.mp hstep
        cases hturn
        exact .lose (by simpa using hterminated) hreason
  | lost connection reason =>
      rw [step] at hstep
      split at hstep
      · rename_i hconnected
        cases hstep
        exact .resubscribe hconnected
      · rename_i hconnected
        cases hstep
        exact .reconnect (by simpa using hconnected)
  | reconnecting attempt failover =>
      unfold step at hstep
      simp only at hstep
      split at hstep
      · rename_i hsafe
        obtain ⟨hterminated, hsafe⟩ := (Bool.and_eq_true _ _).mp hsafe
        cases hstep
        exact .leaveFailover hterminated hsafe
      · -- the failover takes the turn, unless it has come to its end
        rename_i hnot
        have hgoesOn : (s.terminated && failover.isSafe) = false := by simpa using hnot
        split at hstep
        · cases hstep
          exact .reconnected
        · cases hstep
          exact .refused
        · rename_i hne
          cases hstep
          exact .rest hne
        · exact step_failover hgoesOn hstep
  | resting attempt time =>
      rw [step] at hstep
      split at hstep
      · rename_i hterminated
        cases hstep
        exact .leaveRest hterminated
      · rename_i hterminated
        split at hstep
        · cases hstep
        · rename_i htime
          cases hstep
          exact .retry (by simpa using hterminated) htime
  | stopping =>
      cases hstep
      exact .stop
  | stopped => cases hstep

theorem Advance.serves {s s' : Supervisor} {b b' : Broker} {point point' : Watcher}
    (hadvance : point.Advance s b s' b' point') : b.Serves b' := by
  cases hadvance with
  | failover hgoesOn hadvance => exact hadvance.serves
  | _ => exact .of_keepsConnections (.refl b)

theorem Advance.writes {s s' : Supervisor} {b b' : Broker} {point point' : Watcher}
    (hadvance : point.Advance s b s' b' point') : b.Writes b' Broker.Entry.isConnecting := by
  cases hadvance with
  | failover hgoesOn hadvance => exact hadvance.writes
  | _ => exact .of_eq rfl

end Watcher

/-! ## Start and shutdown -/

/-- `Start.Advance s me fresh point s' point'`: a turn of a start by the task `me`. -/
inductive Start.Advance (s : Supervisor) (me fresh : Nat) : Start → Supervisor → Start → Prop
  | lock (hlock : s.lockedBy = none) :
      Advance s me fresh .locking { s with lockedBy := some me } .checking
  | refuse (hrefused : s.watcher.isSome = true ∨ s.terminated = true) :
      Advance s me fresh .checking s .unlocking
  | approve (hwatcher : s.watcher = none) (hterminated : s.terminated = false) :
      Advance s me fresh .checking s .spawning
  | spawn : Advance s me fresh .spawning { s with watcher := some fresh } .unlocking
  | unlock : Advance s me fresh .unlocking { s with lockedBy := none } .finished

theorem Start.step_advance {s : Supervisor} {me fresh : Nat} {point : Start}
    {turn : Turn Supervisor Start} (hstep : point.step s me fresh = some turn) :
    Start.Advance s me fresh point turn.state turn.point := by
  cases point with
  | locking =>
      rw [step] at hstep
      split at hstep
      · cases hstep
      · rename_i hlock
        cases hstep
        exact .lock hlock
  | checking =>
      rw [step] at hstep
      split at hstep
      · rename_i hrefused
        cases hstep
        exact .refuse (by simpa using hrefused)
      · rename_i happroved
        cases hstep
        simp only [Bool.or_eq_true, not_or, Bool.not_eq_true, Option.isSome_eq_false_iff,
          Option.isNone_iff_eq_none] at happroved
        exact .approve happroved.1 happroved.2
  | spawning =>
      cases hstep
      exact .spawn
  | unlocking =>
      cases hstep
      exact .unlock
  | finished => cases hstep

/-- `Shutdown.Advance s b hasEnded point s' b' point'`: a turn of a shutdown. -/
inductive Shutdown.Advance (s : Supervisor) (b : Broker) (hasEnded : Nat → Bool) :
    Shutdown → Supervisor → Broker → Shutdown → Prop
  | signal : Advance s b hasEnded .signalling { s with terminated := true } b .takingWatcher
  | takeWatcher {watcher : Nat} (hlock : s.lockedBy = none) (hwatcher : s.watcher = some watcher) :
      Advance s b hasEnded .takingWatcher { s with watcher := none } b (.joining watcher)
  | noWatcher (hlock : s.lockedBy = none) (hwatcher : s.watcher = none) :
      Advance s b hasEnded .takingWatcher s b .takingConnection
  | join {watcher : Nat} (hended : hasEnded watcher = true) :
      Advance s b hasEnded (.joining watcher) s b .takingConnection
  | noConnection (hslot : s.slot = none) :
      Advance s b hasEnded .takingConnection s b (.finished (.ok ()))
  | takeConnection {connection : Nat} (hslot : s.slot = some connection) :
      Advance s b hasEnded .takingConnection { s with slot := none } b (.closing connection)
  | leave {connection : Nat} (hclosed : b.connectionClosed connection = true) :
      Advance s b hasEnded (.closing connection) s b (.finished (.ok ()))
  | close {connection : Nat} (hopen : b.connectionClosed connection = false) :
      Advance s b hasEnded (.closing connection) s (b.closeConnection connection).1
        (.finished (b.closeConnection connection).2)

theorem Shutdown.step_advance {s : Supervisor} {b : Broker} {hasEnded : Nat → Bool}
    {point : Shutdown} {turn : Turn (Supervisor × Broker) Shutdown}
    (hstep : point.step s b hasEnded = some turn) :
    Shutdown.Advance s b hasEnded point turn.state.1 turn.state.2 turn.point := by
  cases point with
  | signalling =>
      cases hstep
      exact .signal
  | takingWatcher =>
      rw [step] at hstep
      split at hstep
      · cases hstep
      · rename_i hlock
        cases hwatcher : s.watcher with
        | none =>
            have hsame : ({ s with watcher := none } : Supervisor) = s := by rw [← hwatcher]
            simp only [hwatcher, hsame] at hstep
            cases hstep
            exact .noWatcher hlock hwatcher
        | some watcher =>
            simp only [hwatcher] at hstep
            cases hstep
            exact .takeWatcher hlock hwatcher
  | joining watcher =>
      rw [step] at hstep
      split at hstep
      · rename_i hended
        cases hstep
        exact .join hended
      · cases hstep
  | takingConnection =>
      rw [step] at hstep
      split at hstep
      · rename_i hslot
        cases hstep
        exact .noConnection hslot
      · rename_i hslot
        cases hstep
        exact .takeConnection hslot
  | closing connection =>
      rw [step] at hstep
      split at hstep
      · rename_i hclosed
        cases hstep
        exact .leave hclosed
      · rename_i hopen
        cases hstep
        exact .close (by simpa using hopen)
  | finished result => cases hstep

theorem Shutdown.Advance.serves {s s' : Supervisor} {b b' : Broker} {hasEnded : Nat → Bool}
    {point point' : Shutdown} (hadvance : point.Advance s b hasEnded s' b' point') :
    b.Serves b' := by
  cases hadvance with
  | close hopen => exact .of_mayClose (b.closeConnection_mayClose _)
  | _ => exact .of_keepsConnections (.refl b)

theorem Shutdown.Advance.writes {s s' : Supervisor} {b b' : Broker} {hasEnded : Nat → Bool}
    {point point' : Shutdown} (hadvance : point.Advance s b hasEnded s' b' point') :
    b.Writes b' Broker.Entry.isConnecting := by
  cases hadvance with
  | close hopen => exact .of_entry (b.closeConnection_entries _) rfl
  | _ => exact .of_eq rfl

end BrokerClient
