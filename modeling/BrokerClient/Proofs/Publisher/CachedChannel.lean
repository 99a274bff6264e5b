import BrokerClient.Proofs.Publisher.OneChannel
import BrokerClient.Proofs.System.Recording

/-!
# The channel that a publisher keeps

An open channel in the slot of a publisher stays there, and every publish that looks for a channel
takes it, until somebody empties the slot: a publish that discards what it finds there, or a request
to close.
-/

namespace BrokerClient

/-- Is it a publish that is about to empty the slot of the publisher `i`, or a request to close? -/
def Task.empties (i : Nat) : Task → Bool
  | publish j _ .discardQueued => j = i
  | closePublisher j .queued => j = i
  | _ => false

/-- Does a discard or a request to close empty the slot of the publisher `i`? -/
def Moment.empties (i : Nat) (m : Moment) : Bool :=
  match m.what with
  | .turn t => (m.before.tasks[t]?).any (Task.empties i)
  | _ => false

namespace Publishing

variable {s : Supervisor} {b b' : Broker} {p p' : Publisher} {me : Nat} {event : Event}
  {point point' : Publishing}

/-- Unless it discards it, a publish leaves an open channel in the slot. -/
theorem Advance.slot_of_open (hadvance : Advance s b p me event point p' b' point')
    (hempty : ∀ attempt channel, point = opened attempt channel → p.slot = none)
    (hpoint : point ≠ discardQueued) {kept : KeptChannel} (hslot : p.slot = some kept)
    (hopen : b.channelClosed kept.channel = false) : p'.slot = some kept := by
  cases hadvance with
  | notReady hnone | refuseOpen hnone | beginOpen hnone =>
      -- there is no open channel in the slot
      cases (hnone kept hslot).symm.trans hopen
  | install => cases (hempty _ _ rfl).symm.trans hslot
  | discard | discardNothing => exact absurd rfl hpoint
  | _ => exact hslot

end Publishing

namespace System

variable {w w' : System} {what : Happening} {i t : Nat} {event : Event}

theorem PublisherChange.slot_of_open (hchange : w.PublisherChange i what w')
    (hempty : w.EmptyWhileOpening i) (hfit : w.NumbersFit i) (hinformed : w.WatchesInformed i)
    {kept : KeptChannel} (hslot : (w.publisherAt i).slot = some kept)
    (hopen : w.broker.channelClosed kept.channel = false) :
    (w'.publisherAt i).slot = some kept ∨ (⟨w, what, w'⟩ : Moment).empties i = true := by
  cases hchange with
  | turn hturn =>
      cases hturn with
      | @publish event point _ _ _ _ htask hadvance hpublisher =>
          by_cases hpoint : point = .discardQueued
          · exact .inr (by simp [Moment.empties, htask, hpoint, Task.empties])
          · left
            rw [hpublisher]
            exact hadvance.slot_of_open
              (fun attempt channel heq => hempty _ _ _ htask (.inr ⟨attempt, channel, heq⟩))
              hpoint hslot hopen
      | closePublisher htask hadvance hpublisher =>
          rw [hpublisher]
          cases hadvance with
          | take | takeNothing => exact .inr (by simp [Moment.empties, htask, Task.empties])
          | _ => exact .inl hslot
      | channelWatch htask hadvance hpublisher =>
          -- a watch takes only what has closed
          left
          rw [hpublisher]
          rcases watch_leaves hfit hinformed htask hadvance with hsame | ⟨hfound, _, hclosed⟩
          · rw [hsame, hslot]
          · cases hslot.symm.trans hfound
            cases hclosed.symm.trans hopen
      | other htask hother hother' hspawned hpublisher => exact .inl (by rw [hpublisher, hslot])
  | call hpublisher => exact .inl (by rw [hpublisher, hslot])
  | abort htask hrests hpublisher =>
      left
      rcases hpublisher with hpublisher | hpublisher <;> rw [hpublisher]
      · exact hslot
      · exact hslot
  | quiet hwhat hpublisher => exact .inl (by rw [hpublisher, hslot])

theorem step_of_publish {point : Publishing} {turn : Turn (Publisher × Broker) Publishing}
    (htask : w.tasks[t]? = some (.publish i event point))
    (hstep : point.step w.supervisor w.broker (w.publisherAt i) t event = some turn) :
    ∃ w', w.after? (.turn t) = some w' ∧ w'.tasks[t]? = some (.publish i event turn.point) := by
  have hlt : t < w.tasks.length := (List.getElem?_eq_some_iff.mp htask).1
  unfold after? step
  simp only [htask, hstep, Option.map_some]
  refine ⟨_, rfl, ?_⟩
  cases point with
  | opened attempt channel => exact task_append_of_some (List.getElem?_set_self hlt)
  | _ => exact List.getElem?_set_self hlt

/-- A publish that looks for a channel takes the open one in the slot. -/
theorem reuses_open {attempt : Attempt} {kept : KeptChannel}
    (htask : w.tasks[t]? = some (.publish i event (.preparing attempt)))
    (hslot : (w.publisherAt i).slot = some kept)
    (hopen : w.broker.channelClosed kept.channel = false) :
    ∃ w', w.after? (.turn t) = some w' ∧
      w'.tasks[t]? = some (.publish i event (.ready attempt kept.channel)) := by
  have hfilter : ((w.publisherAt i).slot.filter fun kept => !w.broker.channelClosed kept.channel) =
      some kept := by simp [hslot, hopen]
  have hstep : (Publishing.preparing attempt).step w.supervisor w.broker (w.publisherAt i) t event =
      some ⟨(w.publisherAt i, w.broker), .ready attempt kept.channel, []⟩ := by
    simp only [Publishing.step, hfilter]
  exact step_of_publish htask hstep

end System

/-- Has the last attempt failed, so that there is nothing left to do but to say so? -/
def Publishing.isOver : Publishing → Bool
  | failed attempt e => !(attempt = .first && e.isChannelClosed)
  | finished _ => true
  | _ => false

theorem Publishing.Advance.isOver {s : Supervisor} {b b' : Broker} {p p' : Publisher} {me : Nat}
    {event : Event} {point point' : Publishing}
    (hadvance : Advance s b p me event point p' b' point') (hover : point.isOver = true) :
    point'.isOver = true := by
  cases hadvance with
  | retry hclosed => simp [Publishing.isOver, hclosed] at hover
  | giveUp => rfl
  | _ => cases hover

namespace Run

variable {w₀ w w' : System} {past more : List Moment} {i t : Nat} {event : Event}

/-- What the slot holds stays there as long as it is open, unless a discard or a request to close
takes it out. -/
theorem slot_of_open (hpast : Run w₀ past w) (hmore : Run w more w') (hfresh : w₀.Fresh)
    (hi : i < w₀.publishers.length) {kept : KeptChannel}
    (hslot : (w.publisherAt i).slot = some kept)
    (hopen : w'.broker.channelClosed kept.channel = false) :
    (w'.publisherAt i).slot = some kept ∨
      ∃ m ∈ more, m.empties i = true ∧ (m.before.publisherAt i).slot = some kept := by
  induction hmore with
  | refl => exact .inl hslot
  | @snoc more w' w'' what hmore hafter ih =>
      have hrun := hpast.append hmore
      have hlt : kept.channel < w'.broker.channels.length :=
        ((hpast.knowsChannels hfresh hi).slot kept hslot).trans_le
          hmore.keepsClosed.channels.length_le
      have hbefore : w'.broker.channelClosed kept.channel = false := by
        by_contra hclosed
        have hlasts := (System.after_supervisionChange hafter).keepsClosed.channels.closed
        rw [hlasts kept.channel hlt (by simpa using hclosed)] at hopen
        cases hopen
      rcases ih hbefore with hstill | ⟨m, hmem, htaken⟩
      · rcases (hrun.publisherChange_of_snoc hi hafter).slot_of_open
          (hrun.emptyWhileOpening hfresh hi) (hrun.numbersFit hfresh hi)
          (hrun.watchesInformed hfresh hi) hstill hbefore with hkept | hempties
        · exact .inl hkept
        · exact .inr ⟨_, List.mem_append_right _ (List.mem_singleton_self _), hempties, hstill⟩
      · exact .inr ⟨m, List.mem_append_left _ hmem, htaken⟩

/-- A publish that is over stays so until it is given up. -/
theorem isOver_stays (hmore : Run w more w') {point : Publishing}
    (htask : w.tasks[t]? = some (.publish i event point)) (hover : point.isOver = true) :
    (∃ point', w'.tasks[t]? = some (.publish i event point') ∧ point'.isOver = true) ∨
      w'.tasks[t]? = some .dropped := by
  induction hmore with
  | refl => exact .inl ⟨point, htask, hover⟩
  | snoc _ hafter ih =>
      rcases ih with ⟨point', htask', hover'⟩ | hdropped
      · rcases System.after_task_next hafter htask' with ⟨rfl, _⟩ | ⟨_, _, hgivenUp⟩ | ⟨_, hkept⟩
        · obtain ⟨p'', point'', htask'', hadvance⟩ := System.step_publish htask' hafter
          exact .inl ⟨point'', htask'', hadvance.isOver hover'⟩
        · exact .inr hgivenUp
        · exact .inl ⟨point', hkept, hover'⟩
      · rcases System.after_task_next hafter hdropped with ⟨rfl, task', htask', hbegun⟩ |
          ⟨_, _, hgivenUp⟩ | ⟨_, hkept⟩
        · cases task' <;> cases hbegun
          exact .inr htask'
        · exact .inr hgivenUp
        · exact .inr hkept

/-- A publish that is over does not empty the slot. -/
theorem isTurnOf_of_empties (hmore : Run w more w') {point : Publishing}
    (htask : w.tasks[t]? = some (.publish i event point)) (hover : point.isOver = true) {m : Moment}
    (hmem : m ∈ more) (hempties : m.empties i = true) : m.isTurnOf t = false := by
  obtain ⟨_, _, _, hearlier, _, _⟩ := hmore.exists_of_mem hmem
  refine Moment.isTurnOf_of_ne fun hwhat => ?_
  rw [Moment.empties, hwhat] at hempties
  rcases hearlier.isOver_stays htask hover with ⟨point', htask', hover'⟩ | hdropped
  · cases point' <;> simp_all [Task.empties, Publishing.isOver]
  · simp [hdropped, Task.empties] at hempties

end Run

end BrokerClient
