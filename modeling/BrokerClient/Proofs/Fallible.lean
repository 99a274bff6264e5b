/-!
# Computations that may fail

A computation in steps succeeds if each of its steps does, and fails at the first that does not.
-/

namespace BrokerClient

variable {ε α β : Type}

theorem bind_eq_ok {first : Except ε α} {next : α → Except ε β} {result : β} :
    (first >>= next) = .ok result ↔ ∃ value, first = .ok value ∧ next value = .ok result := by
  cases first <;> simp [bind, Except.bind]

theorem bind_eq_error {first : Except ε α} {next : α → Except ε β} {e : ε} :
    (first >>= next) = .error e ↔
      first = .error e ∨ ∃ value, first = .ok value ∧ next value = .error e := by
  cases first <;> simp [bind, Except.bind]

/-- A list is gone through if no entry fails. -/
theorem forM_eq_ok {entries : List α} {check : α → Except ε Unit} :
    entries.forM check = .ok () ↔ ∀ entry ∈ entries, check entry = .ok () := by
  induction entries with
  | nil => simp [List.forM, pure, Except.pure]
  | cons entry rest ih =>
      rw [List.forall_mem_cons, ← ih]
      exact bind_eq_ok.trans ⟨fun ⟨_, hentry, hrest⟩ => ⟨hentry, hrest⟩,
        fun ⟨hentry, hrest⟩ => ⟨(), hentry, hrest⟩⟩

/-- Going through a list fails at its first entry that does. -/
theorem forM_eq_error {entries : List α} {check : α → Except ε Unit} {e : ε} :
    entries.forM check = .error e ↔ ∃ before entry after, entries = before ++ entry :: after ∧
      (∀ earlier ∈ before, check earlier = .ok ()) ∧ check entry = .error e := by
  constructor
  · induction entries with
    | nil => exact nofun
    | cons entry rest ih =>
        intro hfails
        change (check entry >>= fun _ => rest.forM check) = .error e at hfails
        cases hentry : check entry with
        | error e' =>
            rw [hentry] at hfails
            cases hfails
            exact ⟨[], entry, rest, rfl, nofun, hentry⟩
        | ok _ =>
            rw [hentry] at hfails
            obtain ⟨before, failing, after, rfl, hbefore, hfailing⟩ := ih hfails
            exact ⟨entry :: before, failing, after, rfl,
              List.forall_mem_cons.mpr ⟨hentry, hbefore⟩, hfailing⟩
  · rintro ⟨before, entry, after, rfl, hbefore, hentry⟩
    induction before with
    | nil =>
        show (check entry >>= fun _ => after.forM check) = .error e
        rw [hentry]
        rfl
    | cons earlier before ih =>
        obtain ⟨hearlier, hbefore⟩ := List.forall_mem_cons.mp hbefore
        show (check earlier >>= fun _ => (before ++ entry :: after).forM check) = .error e
        rw [hearlier]
        exact ih hbefore

end BrokerClient
