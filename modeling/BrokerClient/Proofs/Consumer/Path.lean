import BrokerClient.Proofs.Consumer.Loop

/-!
# What a consumption loop does from a moment on

A `LoopPath` leads a loop from one point to another.  From any moment of a run the loop follows such a
path, to where it is later or to where it has been given up.  If its token has been cancelled at that
moment, it finds so at each turn of the path.
-/

namespace BrokerClient

/-- `LoopPath config queue point path last` says that the turns that are listed in `path` lead a loop
with these settings from `point` to `last`. -/
inductive LoopPath (config : ConsumerConfig) (queue : String) :
    Consuming → List LoopTurn → Consuming → Prop
  | refl {point : Consuming} : LoopPath config queue point [] point
  | cons {point last : Consuming} {s : Supervisor} {handler : Handler} {state : ConsumeState}
      {turn : Turn ConsumeState Consuming} {path : List LoopTurn} :
      point.step s config queue handler state = some turn →
      LoopPath config queue turn.point path last →
      LoopPath config queue point (⟨s, handler, state, point, turn⟩ :: path) last

/-- What is read off a path begins with what is read off its first turn. -/
theorem filterMap_cons {α β : Type} (view : α → Option β) (first : α) (path : List α) :
    (first :: path).filterMap view = (view first).toList ++ path.filterMap view := by
  cases hview : view first <;> simp [hview]

namespace LoopPath

variable {config : ConsumerConfig} {queue : String} {point last : Consuming} {path : List LoopTurn}

theorem snoc {s : Supervisor} {handler : Handler} {state : ConsumeState}
    {turn : Turn ConsumeState Consuming} (hpath : LoopPath config queue point path last)
    (hstep : last.step s config queue handler state = some turn) :
    LoopPath config queue point (path ++ [⟨s, handler, state, last, turn⟩]) turn.point := by
  induction hpath with
  | refl => exact .cons hstep .refl
  | cons hfirst _ ih => exact .cons hfirst (ih hstep)

/-- Each turn of a path does what a turn of the loop can do. -/
theorem advances (hpath : LoopPath config queue point path last) {m : LoopTurn} (hmem : m ∈ path) :
    m.Advances config queue := by
  induction hpath with
  | refl => cases hmem
  | cons hfirst _ ih =>
      rcases List.mem_cons.mp hmem with rfl | hmem
      · exact Consuming.step_advance hfirst
      · exact ih hmem

end LoopPath

namespace Run

variable {w₀ w w' : System} {past more : List Moment} {i t token : Nat} {point last : Consuming}
  {setup : ConsumerSetup}

/-- From any moment on a loop follows a path, unless it has been given up. -/
theorem loopPath (hmore : Run w more w') (hsetup : w.consumers[i]? = some setup)
    (htask : w.tasks[t]? = some (.consume i token point)) :
    ∃ last, LoopPath setup.config setup.queue point (loopTurns t more) last ∧
      (w'.tasks[t]? = some (.consume i token last) ∨ w'.tasks[t]? = some .dropped) := by
  induction hmore with
  | refl => exact ⟨point, .refl, .inl htask⟩
  | @snoc more w₁ w₂ what hmore hafter ih =>
      obtain ⟨last, hpath, hlast⟩ := ih
      by_cases hwhat : what = .turn t
      · subst hwhat
        rcases hlast with hlast | hdropped
        · obtain ⟨turn, hturn, hnext, _, _, _, htask'⟩ :=
            System.step_loopTurn hlast (hmore.setup_eq hsetup) hafter
          rw [loopTurns_concat, Moment.loopTurn?_turn, hnext]
          exact ⟨_, hpath.snoc hturn, .inl htask'⟩
        · -- what has been given up takes no turn
          simp [System.after?, System.step, hdropped] at hafter
      · rw [loopTurns_concat_of_ne hwhat]
        refine ⟨last, hpath, ?_⟩
        rcases hlast with hlast | hdropped
        · rcases System.after_task_next hafter hlast with ⟨hturn, _⟩ | ⟨_, _, hdropped⟩ | ⟨_, hkept⟩
          · exact absurd hturn hwhat
          · exact .inr hdropped
          · exact .inl hkept
        · rcases System.after_task_next hafter hdropped with ⟨hturn, _⟩ | ⟨_, hpending, _⟩ |
            ⟨_, hkept⟩
          · exact absurd hturn hwhat
          · cases hpending
          · exact .inr hkept

/-- Where the loop is later, there its path has led. -/
theorem loopPath_to (hmore : Run w more w') (hsetup : w.consumers[i]? = some setup)
    (htask : w.tasks[t]? = some (.consume i token point))
    (htask' : w'.tasks[t]? = some (.consume i token last)) :
    LoopPath setup.config setup.queue point (loopTurns t more) last := by
  obtain ⟨end', hpath, hend | hdropped⟩ := hmore.loopPath hsetup htask
  · cases hend.symm.trans htask'
    exact hpath
  · cases hdropped.symm.trans htask'

/-- At each of its turns a loop meets the system as it is then, under its token. -/
theorem exists_loopTurn (hmore : Run w more w') (hsetup : w.consumers[i]? = some setup)
    (htask : w.tasks[t]? = some (.consume i token point)) {m : LoopTurn}
    (hmem : m ∈ loopTurns t more) :
    ∃ earlier before, Run w earlier before ∧ m.state = before.consumeState token := by
  obtain ⟨earlier, before, _, _, _, hearlier, hafter, _, hturn⟩ := hmore.of_mem_loopTurns hmem
  obtain ⟨last, _, hlast | hdropped⟩ := hearlier.loopPath hsetup htask
  · obtain ⟨turn, _, hfound, _⟩ := System.step_loopTurn hlast (hearlier.setup_eq hsetup) hafter
    obtain rfl := Option.some.inj (hfound.symm.trans hturn)
    exact ⟨earlier, before, hearlier, rfl⟩
  · simp [System.after?, System.step, hdropped] at hafter

/-- Once its token has been cancelled, a loop finds so at each turn. -/
theorem loopTurns_cancelled (hmore : Run w more w') (hsetup : w.consumers[i]? = some setup)
    (htask : w.tasks[t]? = some (.consume i token point))
    (hcancelled : w.tokens[token]? = some true) :
    ∀ m ∈ loopTurns t more, m.state.cancelled = true := by
  intro m hmem
  obtain ⟨_, before, hearlier, hstate⟩ := hmore.exists_loopTurn hsetup htask hmem
  rw [hstate]
  exact System.consumeState_cancelled (hearlier.keepsTokens.cancelled token hcancelled)

/-- The token of a loop is there, and it has been cancelled if the loop has stopped. -/
theorem loop_token (hrun : Run w₀ past w) (hfresh : w₀.Fresh) (hhas : w₀.HasTokens)
    (hsetup : w₀.consumers[i]? = some setup)
    (htask : w.tasks[t]? = some (.consume i token point)) :
    token < w.tokens.length ∧ (point.hasStopped = true → w.tokens[token]? = some true) := by
  refine hrun.loop_induction (P := fun w _ point => token < w.tokens.length ∧
      (point.hasStopped = true → w.tokens[token]? = some true)) hfresh hsetup htask
    (fun {_ w _ _} hpast hafter hcall => ?_) (fun hafter ih => ?_) fun hafter hturn _ _ ih => ?_
  · obtain ⟨_, hfound, _⟩ := Option.map_eq_some_iff.mp (hpast.setup_eq hsetup)
    have hi : i < w.consumers.length := (List.getElem?_eq_some_iff.mp hfound).1
    have hlt := (hpast.hasTokens hhas).of_taskOf hi hcall
    exact ⟨hlt.trans_le (System.after_keepsTokens hafter).length_le, nofun⟩
  · have hkeeps := System.after_keepsTokens hafter
    exact ⟨ih.1.trans_le hkeeps.length_le, fun hstopped => hkeeps.cancelled token (ih.2 hstopped)⟩
  · have hkeeps := System.after_keepsTokens hafter
    refine ⟨ih.1.trans_le hkeeps.length_le, fun hstopped => hkeeps.cancelled token ?_⟩
    rcases (Consuming.step_advance hturn).cancelled_of_hasStopped hstopped with hwas | hnow
    · exact ih.2 hwas
    · exact System.token_cancelled ih.1 hnow

end Run

end BrokerClient
