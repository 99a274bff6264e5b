import BrokerClient.Proofs.System.Publishing

/-!
# Who holds the lock of a publisher

A publish that looks for a channel, opens one or sends on it holds the lock.  Others can neither
take the lock away from it nor touch the slot meanwhile, so that a publish that is ready to send
finds the channel that it has settled on in the slot.

Those who ask for the lock while somebody has it stand in line, and stay there until it is theirs,
whatever the others do.
-/

namespace BrokerClient

theorem FairLock.request_holder {lock : FairLock} {t u : Nat} (hholder : lock.holder = some u) :
    (lock.request t).holder = some u := by
  rw [request, hholder]

theorem FairLock.abandon_holder {lock : FairLock} {t u : Nat} (hholder : lock.holder = some u)
    (hne : t ≠ u) : (lock.abandon t).holder = some u := by
  rw [abandon, if_neg (by simpa [hholder] using Ne.symm hne)]
  exact hholder

/-- Does the publish hold the lock at this point? -/
def Publishing.holds : Publishing → Bool
  | preparing _ | opening _ _ _ _ | opened _ _ | ready _ _ | sending _ _ _ _ => true
  | _ => false

/-! ## Turns -/

/-- A turn does to the publisher what the holder `t` of the lock does not notice. -/
structure Publisher.Spares (p p' : Publisher) (t : Nat) : Prop where
  holder : p.lock.holder = some t → p'.lock.holder = some t
  slot : p.lock.holder = some t → p'.slot = p.slot

theorem Publisher.Spares.refl (p : Publisher) (t : Nat) : p.Spares p t :=
  ⟨id, fun _ => rfl⟩

theorem Publisher.requested_spares (p : Publisher) (me t : Nat) : p.Spares (p.requested me) t :=
  ⟨fun hholder => FairLock.request_holder hholder, fun _ => rfl⟩

theorem Publisher.abandoned_spares (p : Publisher) {me t : Nat} (hne : me ≠ t) :
    p.Spares (p.abandoned me) t :=
  ⟨fun hholder => FairLock.abandon_holder hholder hne, fun _ => rfl⟩

/-- Whoever holds the lock itself leaves nothing for another holder to notice. -/
theorem Publisher.Spares.of_holder {p p' : Publisher} {me t : Nat} (hheld : p.lock.holder = some me)
    (hne : t ≠ me) : p.Spares p' t := by
  have hother : p.lock.holder ≠ some t := by
    rw [hheld]
    exact fun heq => hne (Option.some.inj heq).symm
  exact ⟨fun hholder => absurd hholder hother, fun hholder => absurd hholder hother⟩

/-- A publish that goes on to a point where it holds the lock holds it. -/
theorem Publishing.Advance.holds {s : Supervisor} {b b' : Broker} {p p' : Publisher} {me : Nat}
    {event : Event} {point point' : Publishing}
    (hadvance : Advance s b p me event point p' b' point')
    (hbefore : point.holds = true → p.lock.holder = some me) (hholds : point'.holds = true) :
    p'.lock.holder = some me := by
  cases hadvance with
  | enter hheld => exact hheld
  | reuse hslot hopen => exact hbefore rfl
  | beginOpen hnone hconnection hbegin => exact hbefore rfl
  | waitOpen hwait => exact hbefore rfl
  | endOpen hwait => exact hbefore rfl
  | install => exact hbefore rfl
  | beginPublish hbegin => exact hbefore rfl
  | waitPublish hwait => exact hbefore rfl
  | _ => cases hholds

theorem Publishing.Advance.spares {s : Supervisor} {b b' : Broker} {p p' : Publisher} {me t : Nat}
    {event : Event} {point point' : Publishing}
    (hadvance : Advance s b p me event point p' b' point')
    (hbefore : point.holds = true → p.lock.holder = some me) (hne : t ≠ me) : p.Spares p' t := by
  -- whoever does not hold the lock can only ask for it, unless a discard has just been given it
  by_cases hholds : point.holds = true
  · exact .of_holder (hbefore hholds) hne
  · cases hadvance with
    | ask => exact p.requested_spares me t
    | askDiscard => exact p.requested_spares me t
    | discard hheld => exact .of_holder hheld hne
    | discardNothing hheld => exact .of_holder hheld hne
    | enter | retry | giveUp | leave | close | again | succeed => exact .refl p t
    | _ => exact absurd rfl hholds

theorem ClosePublisher.Advance.spares {b b' : Broker} {p p' : Publisher} {me t : Nat}
    {point point' : ClosePublisher} (hadvance : Advance b p me point p' b' point') (hne : t ≠ me) :
    p.Spares p' t := by
  cases hadvance with
  | ask => exact p.requested_spares me t
  | take hheld => exact .of_holder hheld hne
  | takeNothing hheld => exact .of_holder hheld hne
  | leave | close => exact .refl p t

theorem ChannelWatch.Advance.spares {b : Broker} {p p' : Publisher} {me t : Nat}
    {kept : KeptChannel} {point point' : ChannelWatch}
    (hadvance : Advance b p me kept point p' point') (hne : t ≠ me) : p.Spares p' t := by
  cases hadvance with
  | notice => exact .refl p t
  | ask => exact p.requested_spares me t
  | clear hheld => exact .of_holder hheld hne
  | leave hheld => exact .of_holder hheld hne

/-! ## Every happening -/

namespace System

/-- A publish of the publisher `i` that is at a point where it holds the lock holds it. -/
def LockHeld (w : System) (i : Nat) : Prop :=
  ∀ (t : Nat) (event : Event) (point : Publishing), w.tasks[t]? = some (.publish i event point) →
    point.holds = true → (w.publisherAt i).lock.holder = some t

theorem PublisherTurn.spares {w w' : System} {i t u : Nat} (hturn : w.PublisherTurn i t w')
    (hheld : w.LockHeld i) (hne : u ≠ t) : (w.publisherAt i).Spares (w'.publisherAt i) u := by
  cases hturn with
  | publish htask hadvance hpublisher =>
      rw [hpublisher]
      exact hadvance.spares (hheld t _ _ htask) hne
  | closePublisher htask hadvance hpublisher =>
      rw [hpublisher]
      exact hadvance.spares hne
  | channelWatch htask hadvance hpublisher =>
      rw [hpublisher]
      exact hadvance.spares hne
  | other htask hother hother' hspawned hpublisher =>
      rw [hpublisher]
      exact .refl _ u

/-- Nothing but its own turn and its own end is noticed by the holder of the lock. -/
theorem PublisherChange.spares {w w' : System} {what : Happening} {i u : Nat}
    (hchange : w.PublisherChange i what w') (hheld : w.LockHeld i) (hturn : what ≠ .turn u)
    (habort : what ≠ .abort u) : (w.publisherAt i).Spares (w'.publisherAt i) u := by
  cases hchange with
  | turn hchange => exact hchange.spares hheld fun heq => hturn (by rw [heq])
  | call hpublisher =>
      rw [hpublisher]
      exact .refl _ u
  | abort htask hrests hpublisher =>
      rcases hpublisher with hpublisher | hpublisher
      · rw [hpublisher]
        exact .refl _ u
      · rw [hpublisher]
        exact Publisher.abandoned_spares _ fun heq => habort (by rw [heq])
  | quiet hwhat hpublisher =>
      rw [hpublisher]
      exact .refl _ u

theorem LockHeld.change {w w' : System} {what : Happening} {i : Nat} (hheld : w.LockHeld i)
    (hchange : w.PublisherChange i what w') : w'.LockHeld i := by
  intro t event point' htask' hholds
  rcases hchange.publish_cases htask' with ⟨hturn, habort, hkept⟩ |
    ⟨rfl, point, p', b', htask, hpublisher, _, hadvance⟩ | rfl
  · -- the others cannot take the lock away
    exact (hchange.spares hheld hturn habort).holder (hheld t event point' hkept hholds)
  · rw [hpublisher]
    exact hadvance.holds (hheld t event point htask) hholds
  · cases hholds

end System

/-! ## Every run -/

namespace Run

variable {w₀ w : System} {past : List Moment}

theorem publishers_length (hrun : Run w₀ past w) : w.publishers.length = w₀.publishers.length := by
  induction hrun with
  | refl => rfl
  | snoc _ hafter ih => exact (System.after_publishers_length hafter).trans ih

theorem lockHeld (hrun : Run w₀ past w) (hfresh : w₀.Fresh) {i : Nat}
    (hi : i < w₀.publishers.length) : w.LockHeld i := by
  induction hrun with
  | refl => exact fun t event point htask => absurd htask hfresh.not_task
  | snoc hpast hafter ih =>
      exact ih.change (System.after_publisherChange (hpast.publishers_length ▸ hi) hafter)

end Run

/-! ## The queue for the lock -/

namespace FairLock

variable {lock : FairLock} {t u : Nat}

/-- Does the task have the lock, or wait for it while another one has it? -/
def InLine (lock : FairLock) (t : Nat) : Prop :=
  lock.holder = some t ∨ lock.holder.isSome = true ∧ t ∈ lock.waiting

theorem inLine_request (lock : FairLock) (t : Nat) : (lock.request t).InLine t := by
  cases hholder : lock.holder with
  | none => exact .inl (by rw [request, hholder])
  | some u => exact .inr (by simp [request, hholder])

theorem InLine.request (hline : lock.InLine t) (u : Nat) : (lock.request u).InLine t := by
  rcases hline with hheld | ⟨hsome, hmem⟩
  · exact .inl (request_holder hheld)
  · obtain ⟨holder, hholder⟩ := Option.isSome_iff_exists.mp hsome
    rw [FairLock.request, hholder]
    exact .inr ⟨rfl, List.mem_append_left _ hmem⟩

/-- When another one gives the lock back, the first who waits has it. -/
theorem InLine.release (hline : lock.InLine t) (hholder : lock.holder ≠ some t) :
    lock.release.InLine t := by
  obtain ⟨_, hmem⟩ := hline.resolve_left hholder
  cases hwaiting : lock.waiting with
  | nil =>
      rw [hwaiting] at hmem
      cases hmem
  | cons first rest =>
      rw [hwaiting, List.mem_cons] at hmem
      rw [FairLock.release, hwaiting]
      rcases hmem with rfl | hmem
      · exact .inl rfl
      · exact .inr ⟨rfl, hmem⟩

theorem InLine.abandon (hline : lock.InLine t) (hne : u ≠ t) : (lock.abandon u).InLine t := by
  unfold FairLock.abandon
  split
  · rename_i hholder
    exact hline.release (by simpa [hholder] using hne)
  · exact hline.imp_right (And.imp_right fun hmem => (List.mem_erase_of_ne hne.symm).mpr hmem)

/-- What a turn of the task `me` can do to a lock. -/
inductive Move (lock : FairLock) (me : Nat) : FairLock → Prop
  | keep : Move lock me lock
  | request : Move lock me (lock.request me)
  | release (hheld : lock.holder = some me) : Move lock me lock.release

theorem Move.inLine {lock' : FairLock} {me : Nat} (hmove : lock.Move me lock')
    (hline : lock.InLine t) (hne : t ≠ me) : lock'.InLine t := by
  cases hmove with
  | keep => exact hline
  | request => exact hline.request me
  | release hheld => exact hline.release (by simpa [hheld] using hne.symm)

end FairLock

theorem Publishing.Advance.lockMove {s : Supervisor} {b b' : Broker} {p p' : Publisher} {me : Nat}
    {event : Event} {point point' : Publishing}
    (hadvance : Advance s b p me event point p' b' point')
    (hbefore : point.holds = true → p.lock.holder = some me) : p.lock.Move me p'.lock := by
  cases hadvance with
  | ask | askDiscard => exact .request
  | notReady | refuseOpen | openElapsed | refusePublish | endPublish | publishElapsed =>
      exact .release (hbefore rfl)
  | discard hheld | discardNothing hheld => exact .release hheld
  | _ => exact .keep

theorem ClosePublisher.Advance.lockMove {b b' : Broker} {p p' : Publisher} {me : Nat}
    {point point' : ClosePublisher} (hadvance : Advance b p me point p' b' point') :
    p.lock.Move me p'.lock := by
  cases hadvance with
  | ask => exact .request
  | take hheld | takeNothing hheld => exact .release hheld
  | leave | close => exact .keep

theorem ChannelWatch.Advance.lockMove {b : Broker} {p p' : Publisher} {me : Nat}
    {kept : KeptChannel} {point point' : ChannelWatch}
    (hadvance : Advance b p me kept point p' point') : p.lock.Move me p'.lock := by
  cases hadvance with
  | notice => exact .keep
  | ask => exact .request
  | clear hheld | leave hheld => exact .release hheld

/-- Is the publish at a point where it has asked for the lock and has not gone on yet? -/
def Publishing.isQueued : Publishing → Bool
  | queued _ | discardQueued => true
  | _ => false

/-- A publish that has asked for the lock is in line for it. -/
theorem Publishing.Advance.inLine {s : Supervisor} {b b' : Broker} {p p' : Publisher} {me : Nat}
    {event : Event} {point point' : Publishing}
    (hadvance : Advance s b p me event point p' b' point') (hqueued : point'.isQueued = true) :
    p'.lock.InLine me := by
  cases hadvance with
  | ask | askDiscard => exact p.lock.inLine_request me
  | _ => cases hqueued

namespace System

/-- A publish of the publisher `i` that waits for the lock is in line for it. -/
def QueuedInLine (w : System) (i : Nat) : Prop :=
  ∀ (t : Nat) (event : Event) (point : Publishing), w.tasks[t]? = some (.publish i event point) →
    point.isQueued = true → (w.publisherAt i).lock.InLine t

theorem PublisherTurn.lockMove {w w' : System} {i t : Nat} (hturn : w.PublisherTurn i t w')
    (hheld : w.LockHeld i) :
    (w.publisherAt i).lock.Move t (w'.publisherAt i).lock := by
  cases hturn with
  | publish htask hadvance hpublisher =>
      rw [hpublisher]
      exact hadvance.lockMove (hheld t _ _ htask)
  | closePublisher htask hadvance hpublisher =>
      rw [hpublisher]
      exact hadvance.lockMove
  | channelWatch htask hadvance hpublisher =>
      rw [hpublisher]
      exact hadvance.lockMove
  | other htask hother hother' hspawned hpublisher =>
      rw [hpublisher]
      exact .keep

/-- Nobody is put out of line by what the others do. -/
theorem PublisherChange.inLine {w w' : System} {what : Happening} {i u : Nat}
    (hchange : w.PublisherChange i what w') (hheld : w.LockHeld i) (hturn : what ≠ .turn u)
    (habort : what ≠ .abort u) (hline : (w.publisherAt i).lock.InLine u) :
    (w'.publisherAt i).lock.InLine u := by
  cases hchange with
  | turn hchange => exact (hchange.lockMove hheld).inLine hline fun heq => hturn (by rw [heq])
  | call hpublisher => rwa [hpublisher]
  | abort htask hrests hpublisher =>
      rcases hpublisher with hpublisher | hpublisher
      · rwa [hpublisher]
      · rw [hpublisher]
        exact hline.abandon fun heq => habort (by rw [heq])
  | quiet hwhat hpublisher => rwa [hpublisher]

theorem QueuedInLine.change {w w' : System} {what : Happening} {i : Nat}
    (hqueued : w.QueuedInLine i) (hheld : w.LockHeld i) (hchange : w.PublisherChange i what w') :
    w'.QueuedInLine i := by
  intro t event point' htask' hpoint'
  rcases hchange.publish_cases htask' with ⟨hturn, habort, hkept⟩ |
    ⟨rfl, point, p', b', htask, hpublisher, _, hadvance⟩ | rfl
  · exact hchange.inLine hheld hturn habort (hqueued t event point' hkept hpoint')
  · rw [hpublisher]
    exact hadvance.inLine hpoint'
  · cases hpoint'

end System

theorem Run.queuedInLine {w₀ w : System} {past : List Moment} (hrun : Run w₀ past w)
    (hfresh : w₀.Fresh) {i : Nat} (hi : i < w₀.publishers.length) : w.QueuedInLine i := by
  induction hrun with
  | refl => exact fun t event point htask => absurd htask hfresh.not_task
  | snoc hpast hafter ih =>
      exact ih.change (hpast.lockHeld hfresh hi)
        (System.after_publisherChange (hpast.publishers_length ▸ hi) hafter)

end BrokerClient
