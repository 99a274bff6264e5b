import BrokerClient.Uuid
import Mathlib.Data.Nat.Bitwise
import Mathlib.Tactic.IntervalCases

/-!
# The form of identifiers

Whatever random words an identifier is made from, its text is that of an identifier of version 4:
hexadecimal digits in five groups, with the digits for version and variant at their places.
-/

namespace BrokerClient

namespace Text

/-- The last hexadecimal digits of a number, as many as are asked for. -/
def hexDigits : Nat → Nat → List Char
  | 0, _ => []
  | width + 1, n => hexDigits width (n / 16) ++ [(n % 16).digitChar]

theorem hexDigits_zero (width : Nat) : hexDigits width 0 = List.replicate width '0' := by
  induction width with
  | zero => rfl
  | succ width ih => rw [hexDigits, Nat.zero_div, ih, List.replicate_succ']; rfl

/-- A number that is small enough is written with exactly these digits. -/
theorem hex_toList {n : Nat} (width : Nat) (hlt : n < 16 ^ (width + 1)) :
    (hex n (width + 1)).toList = hexDigits (width + 1) n := by
  suffices hdigits : List.replicate (width + 1 - (Nat.toDigits 16 n).length) '0' ++
      Nat.toDigits 16 n = hexDigits (width + 1) n by simpa [hex] using hdigits
  induction width generalizing n with
  | zero =>
      have hsmall : n < 16 := by simpa using hlt
      simp [Nat.toDigits_of_lt_base hsmall, hexDigits, Nat.mod_eq_of_lt hsmall]
  | succ width ih =>
      rw [hexDigits]
      rcases Nat.lt_or_ge n 16 with hsmall | hbig
      · rw [Nat.toDigits_of_lt_base hsmall, Nat.div_eq_of_lt hsmall, Nat.mod_eq_of_lt hsmall,
          hexDigits_zero]
        rfl
      · have hquotient : n / 16 < 16 ^ (width + 1) := by
          rw [Nat.div_lt_iff_lt_mul (by decide), ← Nat.pow_succ]
          exact hlt
        rw [Nat.toDigits_of_base_le (by decide) hbig, ← ih hquotient, List.length_append,
          List.length_singleton, Nat.add_sub_add_right, List.append_assoc]

end Text

namespace Uuid

theorem digit_admits (n : Nat) : Place.digit.admits (n % 16).digitChar = true := by
  have hlt := Nat.mod_lt n (show 0 < 16 by decide)
  generalize n % 16 = d at hlt
  interval_cases d <;> decide

/-- The digit for the version. -/
theorem version_digit (high : UInt64) :
    ((high &&& 0xFFFFFFFFFFFF0FFF) ||| 0x4000).toNat / 16 / 16 / 16 % 16 = 4 := by
  rw [Nat.div_div_eq_div_mul, Nat.div_div_eq_div_mul, UInt64.toNat_or, UInt64.toNat_and]
  show (high.toNat &&& 0xFFFFFFFFFFFF0FFF ||| 0x4000) / 2 ^ 12 % 2 ^ 4 = 4
  refine Nat.eq_of_testBit_eq fun i => ?_
  rw [Nat.testBit_mod_two_pow, Nat.testBit_div_two_pow, Nat.testBit_or, Nat.testBit_and]
  rcases Nat.lt_or_ge i 4 with hlt | hge
  · -- the four bits are masked, and one of them is set
    have hmasked : Nat.testBit 0xFFFFFFFFFFFF0FFF (i + 12) = false := by
      interval_cases i <;> decide
    have hset : Nat.testBit 0x4000 (i + 12) = Nat.testBit 4 i := by
      interval_cases i <;> decide
    rw [hmasked, hset, Bool.and_false, Bool.false_or, decide_eq_true hlt, Bool.true_and]
  · rw [decide_eq_false (by omega), Bool.false_and, Nat.testBit_lt_two_pow
      (Nat.lt_of_lt_of_le (by decide) (Nat.pow_le_pow_right (by decide) hge))]

/-- The digit for the variant. -/
theorem variant_digit (low : UInt64) :
    Place.variant.admits
      (((low &&& 0x3FFFFFFFFFFFFFFF) ||| 0x8000000000000000).toNat / 2 ^ 60 % 2 ^ 4).digitChar =
        true := by
  have hbits (i : Nat) (hlt : i < 4) :
      (((low &&& 0x3FFFFFFFFFFFFFFF) ||| 0x8000000000000000).toNat / 2 ^ 60 % 2 ^ 4).testBit i =
        (low.toNat.testBit (i + 60) && Nat.testBit 0x3FFFFFFFFFFFFFFF (i + 60) ||
          Nat.testBit 0x8000000000000000 (i + 60)) := by
    rw [Nat.testBit_mod_two_pow, Nat.testBit_div_two_pow, UInt64.toNat_or, UInt64.toNat_and,
      Nat.testBit_or, Nat.testBit_and, decide_eq_true hlt, Bool.true_and]
    rfl
  have hset := hbits 3 (by decide)
  have hmasked := hbits 2 (by decide)
  have hlt := Nat.mod_lt (((low &&& 0x3FFFFFFFFFFFFFFF) ||| 0x8000000000000000).toNat / 2 ^ 60)
    (show 0 < 2 ^ 4 by decide)
  generalize ((low &&& 0x3FFFFFFFFFFFFFFF) ||| 0x8000000000000000).toNat / 2 ^ 60 % 2 ^ 4 = d
    at hset hmasked hlt
  rw [show Nat.testBit 0x8000000000000000 (3 + 60) = true by decide, Bool.or_true] at hset
  rw [show Nat.testBit 0x8000000000000000 (2 + 60) = false by decide,
    show Nat.testBit 0x3FFFFFFFFFFFFFFF (2 + 60) = false by decide, Bool.and_false,
    Bool.or_false] at hmasked
  interval_cases d <;> first
    | decide
    | exact absurd hset (by decide)
    | exact absurd hmasked (by decide)

/-- Identifiers have the form of identifiers. -/
theorem isText_text (high low : UInt64) : isText (text high low) = true := by
  have hhigh := Text.hex_toList 15
    (((high &&& 0xFFFFFFFFFFFF0FFF) ||| 0x4000).toNat_lt)
  have hlow := Text.hex_toList 15
    (((low &&& 0x3FFFFFFFFFFFFFFF) ||| 0x8000000000000000).toNat_lt)
  have hversion := version_digit high
  have hvariant := variant_digit low
  have hfirst (n : Nat) : n / 2 ^ 60 % 2 ^ 4 =
      n / 16 / 16 / 16 / 16 / 16 / 16 / 16 / 16 / 16 / 16 / 16 / 16 / 16 / 16 / 16 % 16 := by
    simp only [Nat.div_div_eq_div_mul]
    rfl
  rw [hfirst] at hvariant
  simp only [isText, text, hhigh, hlow, decide_eq_true_eq]
  generalize ((high &&& 0xFFFFFFFFFFFF0FFF) ||| 0x4000).toNat = high at hversion
  generalize ((low &&& 0x3FFFFFFFFFFFFFFF) ||| 0x8000000000000000).toNat = low at hvariant
  -- digit for digit
  have hfour : (Place.fixed '4').admits (Nat.digitChar 4) = true := by decide
  have hdash : (Place.fixed '-').admits '-' = true := by decide
  simp [Text.join, Text.hexDigits, places, skip?, digit_admits, hversion, hvariant, hfour, hdash,
    List.replicate]

end Uuid

theorem IdSource.isText_next (source : IdSource) : Uuid.isText source.next.1 = true :=
  Uuid.isText_text _ _

end BrokerClient
