import BrokerClient.Proofs.System.Recording

/-!
# Tokens and identifiers

A token that has been cancelled stays so, whoever cancels it, and no token is forgotten.  A loop goes
to its end only where it finds that its token has been cancelled.  The source of identifiers only goes
forward.
-/

namespace BrokerClient

/-- From one source to the other identifiers have been taken, or none. -/
structure IdSource.Precedes (ids ids' : IdSource) : Prop where
  seed : ids'.seed = ids.seed
  given_le : ids.given ≤ ids'.given

theorem IdSource.Precedes.refl (ids : IdSource) : ids.Precedes ids :=
  ⟨rfl, le_rfl⟩

namespace Consuming

/-- Is the loop at its end, or about to come to it? -/
def hasStopped : Consuming → Bool
  | stopping | finished => true
  | _ => false

section Turns

variable {s : Supervisor} {config : ConsumerConfig} {queue : String} {handler : Handler}
  {state state' : ConsumeState} {point point' : Consuming}

theorem Advance.cancelled (hadvance : Advance s config queue handler state point state' point')
    (hcancelled : state.cancelled = true) : state'.cancelled = true := by
  cases hadvance with
  | askToStop htime => rfl
  | _ => exact hcancelled

/-- A loop stops only where it finds that it has been told to. -/
theorem Advance.cancelled_of_hasStopped
    (hadvance : Advance s config queue handler state point state' point')
    (hstopped : point'.hasStopped = true) : point.hasStopped = true ∨ state.cancelled = true := by
  cases hadvance with
  | cancelLooking hcancelled => exact .inr hcancelled
  | cancelEnded hcancelled => exact .inr hcancelled
  | cancelResting hcancelled => exact .inr hcancelled
  | stop => exact .inl rfl
  | _ => cases hstopped

theorem nextTag_precedes (config : ConsumerConfig) (ids : IdSource) :
    ids.Precedes (nextTag config ids).2 := by
  unfold nextTag
  split
  · exact .refl ids
  · exact ⟨rfl, Nat.le_succ _⟩

theorem Advance.precedes (hadvance : Advance s config queue handler state point state' point') :
    state.ids.Precedes state'.ids := by
  cases hadvance with
  | refuseSubscribe hconsume => exact nextTag_precedes config state.ids
  | subscribe hconsume => exact nextTag_precedes config state.ids
  | rest hgoesOn => exact ⟨rfl, Nat.le_succ _⟩
  | _ => exact .refl _

end Turns

end Consuming

namespace System

variable {w w' w'' : System}

/-! ## One happening -/

/-- From one system to the other no token has been forgotten or taken back. -/
structure KeepsTokens (w w' : System) : Prop where
  length_le : w.tokens.length ≤ w'.tokens.length
  cancelled : ∀ k : Nat, w.tokens[k]? = some true → w'.tokens[k]? = some true

theorem KeepsTokens.of_eq (htokens : w'.tokens = w.tokens) : w.KeepsTokens w' :=
  ⟨by rw [htokens], fun k hk => by rw [htokens, hk]⟩

theorem KeepsTokens.trans (h : w.KeepsTokens w') (h' : w'.KeepsTokens w'') : w.KeepsTokens w'' :=
  ⟨h.length_le.trans h'.length_le, fun k => h'.cancelled k ∘ h.cancelled k⟩

/-- A token is written over with what has been found there, or is cancelled. -/
theorem keepsTokens_of_set {k : Nat} {cancelled : Bool}
    (htokens : w'.tokens = w.tokens.set k cancelled)
    (hcancelled : w.tokens[k]? = some true → cancelled = true) : w.KeepsTokens w' := by
  refine ⟨by simp [htokens], fun j hj => ?_⟩
  have hlt : j < w.tokens.length := (List.getElem?_eq_some_iff.mp hj).1
  rw [htokens, List.getElem?_set]
  split
  · rename_i heq
    subst heq
    simp [hlt, hcancelled hj]
  · exact hj

theorem consumeState_cancelled {token : Nat} (hcancelled : w.tokens[token]? = some true) :
    (w.consumeState token).cancelled = true := by
  simp [consumeState, hcancelled]

theorem token_cancelled {token : Nat} (hlt : token < w.tokens.length)
    (hcancelled : (w.consumeState token).cancelled = true) : w.tokens[token]? = some true := by
  simp only [consumeState, List.getElem?_eq_getElem hlt, Option.getD_some] at hcancelled
  rw [List.getElem?_eq_getElem hlt, hcancelled]

/-- A loop writes its token and its identifiers back. -/
theorem step_consume_tokens {t i token : Nat} {point : Consuming}
    (htask : w.tasks[t]? = some (.consume i token point)) (hstep : w.step t = some w') :
    ∃ setup turn, w.consumers[i]? = some setup ∧
      point.step w.supervisor setup.config setup.queue w.handler (w.consumeState token) =
        some turn ∧ w'.tokens = w.tokens.set token turn.state.cancelled ∧
      w'.ids = turn.state.ids := by
  unfold step at hstep
  simp only [htask] at hstep
  split at hstep
  · cases hstep
  · rename_i setup hsetup
    obtain ⟨turn, hturn, rfl⟩ := Option.map_eq_some_iff.mp hstep
    refine ⟨setup, turn, hsetup, hturn, ?_⟩
    cases point <;> exact ⟨rfl, rfl⟩

/-- No other task writes to a token or takes identifiers in its turn. -/
theorem step_tokens_of_other {t : Nat}
    (hother : ∀ i token point, w.tasks[t]? ≠ some (.consume i token point))
    (hstep : w.step t = some w') : w'.tokens = w.tokens ∧ w'.ids = w.ids := by
  unfold step at hstep
  split at hstep
  · cases hstep
  · cases hstep
  · obtain ⟨turn, _, rfl⟩ := Option.map_eq_some_iff.mp hstep
    exact ⟨rfl, rfl⟩
  · rename_i point htask
    obtain ⟨turn, _, rfl⟩ := Option.map_eq_some_iff.mp hstep
    cases point <;> exact ⟨rfl, rfl⟩
  · obtain ⟨turn, _, rfl⟩ := Option.map_eq_some_iff.mp hstep
    exact ⟨rfl, rfl⟩
  · obtain ⟨turn, _, rfl⟩ := Option.map_eq_some_iff.mp hstep
    exact ⟨rfl, rfl⟩
  · rename_i i event point htask
    obtain ⟨turn, _, rfl⟩ := Option.map_eq_some_iff.mp hstep
    cases point <;> exact ⟨rfl, rfl⟩
  · obtain ⟨turn, _, rfl⟩ := Option.map_eq_some_iff.mp hstep
    exact ⟨rfl, rfl⟩
  · obtain ⟨turn, _, rfl⟩ := Option.map_eq_some_iff.mp hstep
    exact ⟨rfl, rfl⟩
  · rename_i htask
    exact absurd htask (hother _ _ _)

/-- What a turn does to the tokens and to the identifiers. -/
theorem step_tokens {t : Nat} (hstep : w.step t = some w') :
    (w'.tokens = w.tokens ∧ w'.ids = w.ids) ∨
      ∃ (token : Nat) (point : Consuming) (setup : ConsumerSetup)
        (turn : Turn ConsumeState Consuming),
        point.step w.supervisor setup.config setup.queue w.handler (w.consumeState token) =
          some turn ∧ w'.tokens = w.tokens.set token turn.state.cancelled ∧
        w'.ids = turn.state.ids := by
  by_cases hloop : ∃ i token point, w.tasks[t]? = some (.consume i token point)
  · obtain ⟨i, token, point, htask⟩ := hloop
    obtain ⟨setup, turn, _, hturn, htokens, hids⟩ := step_consume_tokens htask hstep
    exact .inr ⟨token, point, setup, turn, hturn, htokens, hids⟩
  · exact .inl (step_tokens_of_other (fun i token point htask => hloop ⟨i, token, point, htask⟩)
      hstep)

theorem step_keepsTokens {t : Nat} (hstep : w.step t = some w') : w.KeepsTokens w' := by
  rcases step_tokens hstep with ⟨hsame, _⟩ | ⟨token, point, setup, turn, hturn, htokens, _⟩
  · exact .of_eq hsame
  · exact keepsTokens_of_set htokens fun hcancelled =>
      (Consuming.step_advance hturn).cancelled (consumeState_cancelled hcancelled)

theorem after_keepsTokens {what : Happening} (hafter : w.after? what = some w') :
    w.KeepsTokens w' := by
  cases what with
  | turn t => exact step_keepsTokens hafter
  | call call =>
      cases hafter
      exact .of_eq rfl
  | abort t =>
      rw [after?] at hafter
      split at hafter
      · cases hafter
        unfold drop
        repeat' split
        all_goals exact .of_eq rfl
      · cases hafter
  | incident incident =>
      cases hafter
      exact .of_eq rfl
  | cancel consumer =>
      cases hafter
      unfold cancel
      split
      · exact keepsTokens_of_set rfl fun _ => rfl
      · exact .of_eq rfl
  | renewToken consumer =>
      cases hafter
      refine ⟨by simp [renewToken], fun k hk => ?_⟩
      have hlt : k < w.tokens.length := (List.getElem?_eq_some_iff.mp hk).1
      rw [renewToken, List.getElem?_append_left hlt, hk]

theorem after_precedes {what : Happening} (hafter : w.after? what = some w') :
    w.ids.Precedes w'.ids := by
  cases what with
  | turn t =>
      rcases step_tokens hafter with ⟨_, hsame⟩ | ⟨_, _, _, turn, hturn, _, hids⟩
      · rw [hsame]
        exact .refl _
      · rw [hids]
        exact (Consuming.step_advance hturn).precedes
  | call call =>
      cases hafter
      exact .refl _
  | abort t =>
      rw [after?] at hafter
      split at hafter
      · cases hafter
        unfold drop
        repeat' split
        all_goals exact .refl _
      · cases hafter
  | incident incident =>
      cases hafter
      exact .refl _
  | cancel consumer =>
      obtain ⟨tokens, htokens⟩ := w.cancel_eq consumer
      cases hafter
      rw [htokens]
      exact .refl _
  | renewToken consumer =>
      cases hafter
      exact .refl _

/-! ## Tokens of consumers -/

/-- Every consumer has a token. -/
def HasTokens (w : System) : Prop :=
  ∀ setup ∈ w.consumers, setup.token < w.tokens.length

instance (w : System) : Decidable w.HasTokens :=
  inferInstanceAs (Decidable (∀ setup ∈ w.consumers, setup.token < w.tokens.length))

/-- A consumer keeps its token or gets one that is new. -/
theorem HasTokens.after {what : Happening} (hhas : w.HasTokens)
    (hafter : w.after? what = some w') : w'.HasTokens := by
  have hlength := (after_keepsTokens hafter).length_le
  have hkept (hconsumers : w'.consumers = w.consumers) : w'.HasTokens := fun setup hmem =>
    (hhas setup (hconsumers ▸ hmem)).trans_le hlength
  cases what with
  | turn t =>
      obtain ⟨_, _, _, _, _, hconsumers, _⟩ := step_acts hafter
      exact hkept hconsumers
  | call call =>
      cases hafter
      exact hkept rfl
  | abort t =>
      obtain ⟨_, _, _, _, hgivesUp⟩ := after_abort hafter
      exact hkept hgivesUp.consumers
  | incident incident =>
      cases hafter
      exact hkept rfl
  | cancel consumer =>
      obtain ⟨tokens, htokens⟩ := w.cancel_eq consumer
      cases hafter
      exact hkept (by rw [htokens])
  | renewToken consumer =>
      cases hafter
      intro setup hmem
      obtain ⟨i, hi⟩ := List.mem_iff_getElem?.mp hmem
      simp only [renewToken, List.getElem?_modify] at hi
      obtain ⟨before, hbefore, rfl⟩ := Option.map_eq_some_iff.mp hi
      have hlt := hhas before (List.mem_of_getElem? hbefore)
      have hlonger : (w.renewToken consumer).tokens.length = w.tokens.length + 1 := by
        simp [renewToken]
      rw [hlonger]
      split
      · exact Nat.lt_succ_self _
      · exact hlt.trans (Nat.lt_succ_self _)

/-- A call to consume begins a loop under a token that there is. -/
theorem HasTokens.of_taskOf {call : Call} {i token : Nat} (hhas : w.HasTokens)
    (hi : i < w.consumers.length) (htask : w.taskOf call = .consume i token .starting) :
    token < w.tokens.length := by
  cases call <;> cases htask
  rw [List.getElem?_eq_getElem hi]
  exact hhas _ (List.getElem_mem hi)

end System

/-! ## Every run -/

namespace Run

variable {w₀ w w' : System} {past more : List Moment}

theorem keepsTokens (hrun : Run w₀ past w) : w₀.KeepsTokens w := by
  induction hrun with
  | refl => exact .of_eq rfl
  | snoc _ hafter ih => exact ih.trans (System.after_keepsTokens hafter)

theorem hasTokens (hrun : Run w₀ past w) (hhas : w₀.HasTokens) : w.HasTokens := by
  induction hrun with
  | refl => exact hhas
  | snoc _ hafter ih => exact ih.after hafter

end Run

end BrokerClient
