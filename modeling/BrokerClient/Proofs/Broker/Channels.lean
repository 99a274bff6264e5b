import BrokerClient.Proofs.System.Run

/-!
# What happens to the channels of a broker

A channel is added at the end of its opening, and from then on it can only be closed.  No operation
forgets a channel or opens one again.
-/

namespace BrokerClient.Broker

/-- The channel that an entry of the record says is to be closed. -/
def Entry.closed? : Entry → Option Nat
  | .closeChannel channel => some channel
  | _ => none

/-- The channels that the broker has been asked to close, in order. -/
def closeLog (b : Broker) : List Nat :=
  b.record.filterMap fun (_, entry) => entry.closed?

/-- The notice of every channel has a handle, so that nobody learns of a close before it. -/
def NoticesHeld (b : Broker) : Prop :=
  ∀ channel ∈ b.channels, channel.notice.handles ≠ 0

/-- From one broker to the other no channel has been forgotten or has been opened again. -/
structure KeepsChannels (b b' : Broker) : Prop where
  length_le : b.channels.length ≤ b'.channels.length
  closed : ∀ c < b.channels.length, b.channelClosed c = true → b'.channelClosed c = true
  noticesHeld : b.NoticesHeld → b'.NoticesHeld

namespace KeepsChannels

variable {b b' b'' : Broker}

@[refl] theorem refl (b : Broker) : b.KeepsChannels b :=
  ⟨le_rfl, fun _ _ hclosed => hclosed, id⟩

theorem trans (h : b.KeepsChannels b') (h' : b'.KeepsChannels b'') : b.KeepsChannels b'' :=
  ⟨h.length_le.trans h'.length_le, fun c hlt hclosed =>
    h'.closed c (hlt.trans_le h.length_le) (h.closed c hlt hclosed),
    fun hheld => h'.noticesHeld (h.noticesHeld hheld)⟩

theorem of_eq (hchannels : b'.channels = b.channels) : b.KeepsChannels b' := by
  refine ⟨by rw [hchannels], fun c _ hclosed => ?_, fun hheld => ?_⟩
  · rw [channelClosed, hchannels]
    exact hclosed
  · rw [NoticesHeld, hchannels]
    exact hheld

end KeepsChannels

/-- Whoever learns of the close of a channel finds it closed. -/
theorem channelClosed_of_reason {b : Broker} {channel : Nat} {reason : CloseReason}
    (hheld : b.NoticesHeld) (hreason : b.channelReason? channel = some reason) :
    channel < b.channels.length ∧ b.channelClosed channel = true := by
  obtain ⟨found, hfound, hclosed⟩ := Option.bind_eq_some_iff.mp hreason
  have hhandles := hheld found (List.mem_of_getElem? hfound)
  refine ⟨(List.getElem?_eq_some_iff.mp hfound).1, ?_⟩
  cases hfired : found.notice.reason with
  | none => simp [CloseNotice.closed?, hfired, hhandles] at hclosed
  | some first => simp [channelClosed, hfound, CloseNotice.isFired, hfired]

variable (b : Broker)

@[simp] theorem channelClosed_dropChannel (channel : Nat) (reason : CloseReason) (c : Nat) :
    (b.dropChannel channel reason).channelClosed c =
      (b.channelClosed c || decide (c = channel)) := by
  unfold channelClosed dropChannel
  simp only [List.getElem?_modify]
  cases hc : b.channels[c]? with
  | none => simp
  | some found =>
      by_cases heq : c = channel
      · simp [heq]
      · simp [heq, Ne.symm heq]

theorem dropChannel_keepsChannels (channel : Nat) (reason : CloseReason) :
    b.KeepsChannels (b.dropChannel channel reason) := by
  refine ⟨by simp [dropChannel], fun c _ hclosed => ?_, fun hheld found hmem => ?_⟩
  · rw [channelClosed_dropChannel, hclosed, Bool.true_or]
  · obtain ⟨c, hc⟩ := List.mem_iff_getElem?.mp hmem
    rw [dropChannel, List.getElem?_modify] at hc
    obtain ⟨before, hbefore, rfl⟩ := Option.map_eq_some_iff.mp hc
    have hhandles := hheld before (List.mem_of_getElem? hbefore)
    split <;> simpa using hhandles

theorem dropConnection_keepsChannels (connection : Nat) (reason : CloseReason) :
    b.KeepsChannels (b.dropConnection connection reason) := by
  refine ⟨by simp [dropConnection], fun c _ hclosed => ?_, fun hheld found hmem => ?_⟩
  · unfold channelClosed dropConnection at *
    simp only [List.getElem?_map]
    cases hc : b.channels[c]? with
    | none => rfl
    | some found =>
        rw [hc] at hclosed
        simp only [Option.map_some, Option.getD_some] at hclosed ⊢
        -- the channels of the connection close with it, and the others are as they were
        split
        · simp
        · exact hclosed
  · obtain ⟨before, hbefore, rfl⟩ := List.mem_map.mp hmem
    have hhandles := hheld before hbefore
    split <;> simpa using hhandles

theorem endOpen_keepsChannels (connection : Nat) : b.KeepsChannels (b.endOpen connection).1 := by
  refine ⟨by simp [endOpen], fun c hlt hclosed => ?_, fun hheld found hmem => ?_⟩
  · unfold channelClosed endOpen at *
    rw [List.getElem?_append_left hlt]
    exact hclosed
  · rcases List.mem_append.mp hmem with hkept | hnew
    · exact hheld found hkept
    · rw [List.mem_singleton.mp hnew]
      simp [CloseNotice.new]

end BrokerClient.Broker
