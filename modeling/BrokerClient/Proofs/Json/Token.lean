import BrokerClient.Json.Scan
import BrokerClient.Proofs.Json.Value
import BrokerClient.Proofs.Text.Bytes
import BrokerClient.Proofs.Uuid

/-!
# Strings and numbers are read as they are written

A string is read character by character: whatever `escapeChar` makes of a character, the reader
takes it for the bytes of that character and goes on after it.  An integer of 64 bits is read back
wherever the text after it does not lengthen it.
-/

namespace BrokerClient.Json

/-! ## Strings -/

/-- Four digits for a control character, as they stand after the letter of the escape. -/
theorem control_digits {n : Nat} (hlt : n < 0x20) :
    ∃ a b, (Text.hexDigits 4 n).flatMap String.utf8EncodeChar = [0x30, 0x30, a, b] ∧
      ∀ rest, scanEscape (0x75 :: 0x30 :: 0x30 :: a :: b :: rest) = .ok ([UInt8.ofNat n], 5) := by
  interval_cases n <;> exact ⟨_, _, rfl, fun _ => rfl⟩

theorem scanStringFrom_plain (done : Bytes) {byte : UInt8} (rest : Bytes) (hquote : byte ≠ 0x22)
    (hslash : byte ≠ 0x5C) (hcontrol : ¬ byte < 0x20) :
    scanStringFrom done (byte :: rest) = scanStringFrom (byte :: done) rest := by
  rw [scanStringFrom, if_neg hquote, if_neg hslash, if_neg hcontrol]

theorem scanStringFrom_escape (done : Bytes) {rest bytes : Bytes} {taken : Nat}
    (hescape : scanEscape rest = .ok (bytes, taken)) :
    scanStringFrom done (0x5C :: rest) =
      scanStringFrom (bytes.reverse ++ done) (rest.drop taken) := by
  rw [scanStringFrom, if_neg (by decide), if_pos rfl, hescape]

theorem scanStringFrom_plainEscape (done : Bytes) {letter meant : UInt8}
    (hletter : plainEscape? letter = some meant) (rest : Bytes) :
    scanStringFrom done (0x5C :: letter :: rest) = scanStringFrom (meant :: done) rest := by
  have hescape : scanEscape (letter :: rest) = .ok ([meant], 1) := by
    rw [scanEscape, hletter]
  exact scanStringFrom_escape done hescape

/-- Bytes beyond ASCII are taken as they stand. -/
theorem scanStringFrom_beyond (done : Bytes) {bytes : Bytes} (rest : Bytes)
    (hbeyond : ∀ byte ∈ bytes, 0x80 ≤ byte.toNat) :
    scanStringFrom done (bytes ++ rest) = scanStringFrom (bytes.reverse ++ done) rest := by
  induction bytes generalizing done with
  | nil => rfl
  | cons byte bytes ih =>
      have hbyte : 0x80 ≤ byte.toNat := hbeyond byte List.mem_cons_self
      have hmore : ∀ other ∈ bytes, 0x80 ≤ other.toNat := by
        intro other hmem
        exact hbeyond other (List.mem_cons_of_mem _ hmem)
      rw [List.cons_append, scanStringFrom_plain, ih _ hmore]
      · simp
      · rintro rfl
        exact absurd hbyte (by decide)
      · rintro rfl
        exact absurd hbyte (by decide)
      · intro hlt
        have : byte.toNat < 0x20 := UInt8.lt_iff_toNat_lt.mp hlt
        omega

/-- A character that needs no escape. -/
theorem scanStringFrom_char (done : Bytes) {c : Char} (rest : Bytes) (hquote : c ≠ '"')
    (hslash : c ≠ '\\') (hcontrol : 0x20 ≤ c.toNat) :
    scanStringFrom done (String.utf8EncodeChar c ++ rest) =
      scanStringFrom ((String.utf8EncodeChar c).reverse ++ done) rest := by
  rcases Nat.lt_or_ge c.toNat 0x80 with hascii | hbeyond
  · rw [Bytes.encodeChar_of_ascii hascii]
    have hbyte : (UInt8.ofNat c.toNat).toNat = c.toNat := by
      rw [UInt8.toNat_ofNat']
      omega
    refine scanStringFrom_plain done rest ?_ ?_ ?_
    · intro heq
      rw [heq] at hbyte
      exact hquote (Char.ext (UInt32.toNat_inj.mp hbyte.symm))
    · intro heq
      rw [heq] at hbyte
      exact hslash (Char.ext (UInt32.toNat_inj.mp hbyte.symm))
    · intro hlt
      have hsmall := UInt8.lt_iff_toNat_lt.mp hlt
      rw [hbyte] at hsmall
      exact absurd hsmall (Nat.not_lt.mpr hcontrol)
  · exact scanStringFrom_beyond done rest fun byte hmem =>
      Bytes.le_of_mem_encodeChar hbeyond hmem

/-- Whatever a character is written as, it is read as the character. -/
theorem scanStringFrom_escapeChar (done : Bytes) (c : Char) (rest : Bytes) :
    scanStringFrom done ((escapeChar c).flatMap String.utf8EncodeChar ++ rest) =
      scanStringFrom ((String.utf8EncodeChar c).reverse ++ done) rest := by
  rw [escapeChar]
  split_ifs with hquote hslash hback htab hline hfeed hreturn hcontrol
  · subst hquote
    exact scanStringFrom_plainEscape done rfl rest
  · subst hslash
    exact scanStringFrom_plainEscape done rfl rest
  · subst hback
    exact scanStringFrom_plainEscape done rfl rest
  · subst htab
    exact scanStringFrom_plainEscape done rfl rest
  · subst hline
    exact scanStringFrom_plainEscape done rfl rest
  · subst hfeed
    exact scanStringFrom_plainEscape done rfl rest
  · subst hreturn
    exact scanStringFrom_plainEscape done rfl rest
  · -- the other control characters have the long form of four digits
    have hlt : c.toNat < 0x20 := UInt32.lt_iff_toNat_lt.mp hcontrol
    obtain ⟨a, b, hdigits, hescape⟩ := control_digits hlt
    have hform : ('\\' :: 'u' :: (Text.hex c.toNat 4).toList).flatMap String.utf8EncodeChar =
        [0x5C, 0x75, 0x30, 0x30, a, b] := by
      rw [List.flatMap_cons, List.flatMap_cons, Text.hex_toList 3 (by omega), hdigits]
      rfl
    rw [hform, Bytes.encodeChar_of_ascii (by omega)]
    exact scanStringFrom_escape done (hescape rest)
  · rw [List.flatMap_singleton]
    have hge : 0x20 ≤ c.toNat :=
      Nat.le_of_not_lt fun hlt => hcontrol (UInt32.lt_iff_toNat_lt.mpr hlt)
    exact scanStringFrom_char done rest hquote hslash hge

/-- The characters of a text, up to the closing mark. -/
theorem scanStringFrom_chars (done : Bytes) (chars : List Char) (rest : Bytes) :
    scanStringFrom done
        ((chars.flatMap escapeChar).flatMap String.utf8EncodeChar ++ 0x22 :: rest) =
      .ok (done.reverse ++ chars.flatMap String.utf8EncodeChar, rest) := by
  induction chars generalizing done with
  | nil =>
      rw [List.flatMap_nil, List.flatMap_nil, List.nil_append, scanStringFrom, if_pos rfl]
      simp
  | cons c chars ih =>
      rw [List.flatMap_cons, List.flatMap_append, List.append_assoc, scanStringFrom_escapeChar, ih]
      simp

/-- A string of JSON as bytes: what stands between the marks. -/
theorem ofString_quote (text : String) :
    Bytes.ofString (quote text) =
      0x22 :: ((text.toList.flatMap escapeChar).flatMap String.utf8EncodeChar ++ [0x22]) := by
  rw [quote, Bytes.ofString_eq]
  simp only [String.toList_ofList, List.flatMap_cons, List.flatMap_append, List.cons_append,
    List.flatMap_nil, List.append_nil]
  rfl

/-- A string is read back, and the reader stands right after it. -/
theorem ofString_quote_append (text : String) (rest : Bytes) :
    ∃ inside, Bytes.ofString (quote text) ++ rest = 0x22 :: inside ∧
      scanString inside = .ok (text, rest) := by
  refine ⟨(text.toList.flatMap escapeChar).flatMap String.utf8EncodeChar ++ 0x22 :: rest, ?_, ?_⟩
  · rw [ofString_quote]
    simp
  · have hback := Bytes.toString?_ofString text
    rw [Bytes.ofString_eq] at hback
    simp [scanString, scanStringFrom_chars, hback, bind, Except.bind]

/-! ## Numbers -/

/-- Is there nothing at the front of a text that would lengthen a number before it? -/
def endsNumber : Bytes → Bool
  | [] => true
  | byte :: _ => !(isDigit byte || byte == 0x2E || isExponentMark byte)

/-- The digits of a number as bytes. -/
def digits (n : Nat) : Bytes :=
  (Nat.toDigits 10 n).flatMap String.utf8EncodeChar

theorem encodeChar_digitChar {d : Nat} (hlt : d < 10) :
    String.utf8EncodeChar d.digitChar = [UInt8.ofNat (0x30 + d)] := by
  interval_cases d <;> rfl

theorem isDigit_ofNat {d : Nat} (hlt : d < 10) : isDigit (UInt8.ofNat (0x30 + d)) = true := by
  interval_cases d <;> rfl

theorem digitOf_ofNat {d : Nat} (hlt : d < 10) : digitOf (UInt8.ofNat (0x30 + d)) = d := by
  interval_cases d <;> rfl

theorem digits_of_lt {n : Nat} (hlt : n < 10) : digits n = [UInt8.ofNat (0x30 + n)] := by
  rw [digits, Nat.toDigits_of_lt_base hlt, List.flatMap_singleton, encodeChar_digitChar hlt]

theorem digits_of_ge {n : Nat} (hge : 10 ≤ n) :
    digits n = digits (n / 10) ++ [UInt8.ofNat (0x30 + n % 10)] := by
  rw [digits, Nat.toDigits_of_base_le (by decide) hge, List.flatMap_append, List.flatMap_singleton,
    encodeChar_digitChar (Nat.mod_lt n (by decide))]
  rfl

/-- A number is written with a digit in front, which is zero for zero only. -/
theorem digits_head (n : Nat) :
    ∃ first more, digits n = first :: more ∧ isDigit first = true ∧ (first = 0x30 → n = 0) := by
  -- the digits are written from the last to the first, so the induction takes off the last one
  induction n using Nat.strong_induction_on with
  | _ n ih =>
      rcases Nat.lt_or_ge n 10 with hlt | hge
      · refine ⟨_, [], digits_of_lt hlt, isDigit_ofNat hlt, ?_⟩
        interval_cases n <;> decide
      · obtain ⟨first, more, heq, hdigit, hzero⟩ := ih (n / 10) (by omega)
        refine ⟨first, more ++ [UInt8.ofNat (0x30 + n % 10)], ?_, hdigit, ?_⟩
        · rw [digits_of_ge hge, heq, List.cons_append]
        · intro hfirst
          have := hzero hfirst
          omega

/-- The digits of a number that fits are all read. -/
theorem scanSignificand_digits {n : Nat} (hfits : n < UInt64.size) (rest : Bytes) :
    scanSignificand 0 (digits n ++ rest) = scanSignificand n rest := by
  induction n using Nat.strong_induction_on generalizing rest with
  | _ n ih =>
      rcases Nat.lt_or_ge n 10 with hlt | hge
      · rw [digits_of_lt hlt, List.singleton_append, scanSignificand, isDigit_ofNat hlt,
          digitOf_ofNat hlt]
        simp [hfits]
      · have hmod : n % 10 < 10 := Nat.mod_lt n (by decide)
        have hstep : n / 10 * 10 + n % 10 = n := by omega
        rw [digits_of_ge hge, List.append_assoc, ih (n / 10) (by omega) (by omega),
          List.singleton_append, scanSignificand, isDigit_ofNat hmod, digitOf_ofNat hmod, hstep]
        simp [hfits]

theorem isDigit_of_endsNumber {byte : UInt8} {rest : Bytes}
    (hends : endsNumber (byte :: rest) = true) : isDigit byte = false := by
  simp only [endsNumber, Bool.not_eq_true', Bool.or_eq_false_iff] at hends
  exact hends.1.1

theorem scanSignificand_of_endsNumber (n : Nat) {rest : Bytes} (hends : endsNumber rest = true) :
    scanSignificand n rest = (n, rest) := by
  cases rest with
  | nil => rfl
  | cons byte rest => simp [scanSignificand, isDigit_of_endsNumber hends]

/-- Where the digits are all read and the number ends, it has neither fraction nor exponent. -/
theorem scanUnsigned_of_endsNumber (negative : Bool) {first : UInt8} {more rest : Bytes} {n : Nat}
    (hdigit : isDigit first = true)
    (hread : (if first = 0x30 then (0, more) else scanSignificand 0 (first :: more)) = (n, rest))
    (hends : endsNumber rest = true) :
    scanUnsigned negative (first :: more) = scanUnsigned.whole negative n 0 rest := by
  rw [scanUnsigned]
  simp only [hdigit, Bool.not_true, Bool.false_eq_true, if_false, hread]
  cases rest with
  | nil => simp
  | cons byte rest =>
      have hnone := isDigit_of_endsNumber hends
      simp only [endsNumber, Bool.not_eq_true', Bool.or_eq_false_iff] at hends
      obtain ⟨⟨-, hpoint⟩, hmark⟩ := hends
      have hne : byte ≠ 0x2E := by simpa using hpoint
      simp only [List.takeWhile_cons, hnone, List.dropWhile_cons, Bool.false_eq_true, if_false,
        List.length_nil, Nat.lt_irrefl, decide_false, Bool.and_false]
      rw [if_neg (by rw [hmark]; exact Bool.false_ne_true)]

/-- The digits of a number, up to its end. -/
theorem scanUnsigned_digits (negative : Bool) {n : Nat} (hfits : n < UInt64.size) {rest : Bytes}
    (hends : endsNumber rest = true) :
    scanUnsigned negative (digits n ++ rest) = scanUnsigned.whole negative n 0 rest := by
  obtain ⟨first, more, heq, hdigit, hzero⟩ := digits_head n
  rw [heq, List.cons_append]
  refine scanUnsigned_of_endsNumber negative hdigit ?_ hends
  split_ifs with hfirst
  · have hn : n = 0 := hzero hfirst
    subst hn
    rw [digits_of_lt (by decide), List.cons.injEq] at heq
    rw [← heq.2, List.nil_append]
  · rw [← List.cons_append, ← heq, scanSignificand_digits hfits,
      scanSignificand_of_endsNumber n hends]

theorem ofString_nat (n : Nat) : Bytes.ofString (toString n) = digits n := by
  rw [Bytes.ofString_eq, Nat.toString_eq_ofList_toDigits, String.toList_ofList, digits]

theorem ofString_neg (n : Nat) :
    Bytes.ofString (toString (-(n + 1 : Nat) : Int)) = 0x2D :: digits (n + 1) := by
  have hsign : toString (-(n + 1 : Nat) : Int) = "-" ++ toString (n + 1) := rfl
  rw [hsign, Bytes.ofString_append, ofString_nat]
  rfl

/-- An integer is written with a digit or the sign in front. -/
theorem ofString_int_head (n : Int) :
    ∃ first more, Bytes.ofString (toString n) = first :: more ∧
      (first == 0x2D || isDigit first) = true := by
  rcases lt_or_ge n 0 with hneg | hge
  · obtain ⟨m, rfl⟩ : ∃ m : Nat, n = -(m + 1 : Nat) := ⟨n.natAbs - 1, by omega⟩
    exact ⟨0x2D, digits (m + 1), ofString_neg m, rfl⟩
  · obtain ⟨m, rfl⟩ : ∃ m : Nat, n = m := ⟨n.toNat, by omega⟩
    obtain ⟨first, more, heq, hdigit, -⟩ := digits_head m
    refine ⟨first, more, (ofString_nat m).trans heq, ?_⟩
    rw [hdigit, Bool.or_true]

/-- An integer of 64 bits is read back, and the reader stands right after it. -/
theorem scanNumber_ofString {n : Int} (hfits : fitsWord n) {rest : Bytes}
    (hends : endsNumber rest = true) :
    scanNumber (Bytes.ofString (toString n) ++ rest) = .ok (.int n, rest) := by
  obtain ⟨hleast, hgreatest⟩ := hfits
  rcases lt_or_ge n 0 with hneg | hge
  · obtain ⟨m, rfl⟩ : ∃ m : Nat, n = -(m + 1 : Nat) := ⟨n.natAbs - 1, by omega⟩
    have hword : m + 1 < UInt64.size := by
      simp only [UInt64.size]
      omega
    -- beyond this a negative number would be read as a double
    have hsigned : ¬ UInt64.size / 2 < m + 1 := by
      simp only [UInt64.size]
      omega
    rw [ofString_neg, List.cons_append, scanNumber, scanUnsigned_digits true hword hends]
    simp [scanUnsigned.whole, hsigned]
  · obtain ⟨m, rfl⟩ : ∃ m : Nat, n = m := ⟨n.toNat, by omega⟩
    have hword : m < UInt64.size := by
      simp only [UInt64.size]
      omega
    -- no number without a sign is taken for one with a sign
    have hnosign : scanNumber (digits m ++ rest) = scanUnsigned false (digits m ++ rest) := by
      obtain ⟨first, more, heq, hdigit, -⟩ := digits_head m
      rw [heq, List.cons_append, scanNumber]
      intro other hsign
      rw [List.cons.injEq] at hsign
      rw [hsign.1] at hdigit
      exact absurd hdigit (by decide)
    rw [show toString (m : Int) = toString m from rfl, ofString_nat, hnosign,
      scanUnsigned_digits false hword hends]
    simp [scanUnsigned.whole]

end BrokerClient.Json
