import BrokerClient.Text.Decimal
import Mathlib.Tactic.SplitIfs

/-!
# Numbers in free text

A text is read as a number below a bound exactly if it is an optional plus sign with decimal digits
after it, at least one, and the number that they denote is below the bound.  The reader gives up at
the first digit that takes it to the bound; the digits after it can only make the number greater.
-/

namespace BrokerClient.Text

/-- The text is an optional plus sign and decimal digits that denote the number. -/
def IsNumber (text : String) (n : Nat) : Prop :=
  ∃ digits : List Char, digits ≠ [] ∧ (∀ c ∈ digits, c.isDigit = true) ∧
    (text.toList = digits ∨ text.toList = '+' :: digits) ∧ Nat.ofDigitChars 10 digits 0 = n

/-- More digits never make a number less. -/
theorem le_ofDigitChars (digits : List Char) (n : Nat) : n ≤ Nat.ofDigitChars 10 digits n := by
  rw [Nat.ofDigitChars_eq_ofDigitChars_zero]
  have hpos : 0 < 10 ^ digits.length := Nat.pow_pos (by decide)
  calc n ≤ 10 ^ digits.length * n := Nat.le_mul_of_pos_left n hpos
    _ ≤ 10 ^ digits.length * n + Nat.ofDigitChars 10 digits 0 := Nat.le_add_right _ _

/-- What is read after the number so far, unless there are no digits and that number is not below
the bound. -/
theorem digitsBelow_eq_ok {bound n m : Nat} {chars : List Char} (hsome : chars ≠ [] ∨ n < bound) :
    digitsBelow bound n chars = .ok m ↔
      (∀ c ∈ chars, c.isDigit = true) ∧ Nat.ofDigitChars 10 chars n = m ∧ m < bound := by
  induction chars generalizing n with
  | nil =>
      rw [digitsBelow, Nat.ofDigitChars_nil, Except.ok.injEq]
      constructor
      · rintro rfl
        exact ⟨nofun, rfl, hsome.resolve_left fun h => h rfl⟩
      · exact fun h => h.2.1
  | cons c rest ih =>
      rw [digitsBelow, Nat.ofDigitChars_cons, Nat.mul_comm 10 n, List.forall_mem_cons]
      cases hdigit : c.isDigit with
      | false => simp
      | true =>
          rw [Bool.not_true, if_neg Bool.false_ne_true]
          dsimp only
          split_ifs with hlarge
          · -- the number has reached the bound already
            refine iff_of_false nofun fun ⟨_, hnumber, hbelow⟩ => ?_
            have hle := le_ofDigitChars rest (n * 10 + (c.toNat - '0'.toNat))
            omega
          · rw [ih (.inr (Nat.lt_of_not_le hlarge))]
            simp

/-- After a plus sign there are digits. -/
theorem isNumber_of_plus {text : String} {digits : List Char} {n : Nat}
    (htext : text.toList = '+' :: digits) :
    IsNumber text n ↔ digits ≠ [] ∧ (∀ c ∈ digits, c.isDigit = true) ∧
      Nat.ofDigitChars 10 digits 0 = n := by
  rw [IsNumber, htext]
  constructor
  · rintro ⟨found, hsome, hdigits, hsame | hsame, hnumber⟩
    · -- a plus sign is no digit
      have hplus := hdigits '+' (hsame ▸ List.mem_cons_self)
      exact absurd hplus (by decide)
    · obtain rfl := (List.cons.inj hsame).2
      exact ⟨hsome, hdigits, hnumber⟩
  · rintro ⟨hsome, hdigits, hnumber⟩
    exact ⟨digits, hsome, hdigits, .inr rfl, hnumber⟩

/-- Without a plus sign there is nothing but digits. -/
theorem isNumber_of_ne {text : String} {first : Char} {rest : List Char} {n : Nat}
    (htext : text.toList = first :: rest) (hne : first ≠ '+') :
    IsNumber text n ↔ (∀ c ∈ first :: rest, c.isDigit = true) ∧
      Nat.ofDigitChars 10 (first :: rest) 0 = n := by
  rw [IsNumber, htext]
  constructor
  · rintro ⟨found, hsome, hdigits, rfl | hsame, hnumber⟩
    · exact ⟨hdigits, hnumber⟩
    · exact absurd (List.cons.inj hsame).1 hne
  · rintro ⟨hdigits, hnumber⟩
    exact ⟨first :: rest, List.cons_ne_nil _ _, hdigits, .inl rfl, hnumber⟩

/-- Which numbers are read from which texts. -/
theorem natBelow_eq_ok {bound n : Nat} {text : String} :
    natBelow bound text = .ok n ↔ IsNumber text n ∧ n < bound := by
  rw [natBelow]
  cases htext : text.toList with
  | nil =>
      refine iff_of_false nofun fun ⟨⟨digits, hsome, _, hsame, _⟩, _⟩ => ?_
      rw [htext] at hsame
      rcases hsame with hsame | hsame
      · exact hsome hsame.symm
      · cases hsame
  | cons first rest =>
      by_cases hplus : first = '+'
      · subst hplus
        rw [isNumber_of_plus htext, and_assoc, and_assoc]
        cases rest with
        | nil => simp
        | cons digit digits =>
            rw [and_iff_right (List.cons_ne_nil _ _)]
            exact digitsBelow_eq_ok (.inl (List.cons_ne_nil _ _))
      · rw [isNumber_of_ne htext hplus, and_assoc,
          ← digitsBelow_eq_ok (.inl (List.cons_ne_nil _ _))]
        split <;> simp_all

/-- A text denotes one number at most. -/
theorem IsNumber.unique {text : String} {n m : Nat} (hn : IsNumber text n) (hm : IsNumber text m) :
    n = m := by
  have hreadn : natBelow (max n m + 1) text = .ok n :=
    natBelow_eq_ok.mpr ⟨hn, Nat.lt_succ_of_le (Nat.le_max_left n m)⟩
  have hreadm : natBelow (max n m + 1) text = .ok m :=
    natBelow_eq_ok.mpr ⟨hm, Nat.lt_succ_of_le (Nat.le_max_right n m)⟩
  exact Except.ok.inj (hreadn.symm.trans hreadm)

end BrokerClient.Text
