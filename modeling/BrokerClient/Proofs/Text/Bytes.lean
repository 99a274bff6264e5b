import BrokerClient.Text.Utf8
import Mathlib.Data.String.Basic
import Mathlib.Tactic.IntervalCases

/-!
# The bytes of a text

The bytes of a text are those of its characters one after the other.  A character of ASCII is one
byte, and all bytes of any other character lie beyond ASCII, so that a byte of ASCII is found in the
bytes of a text only where the text has the character.  Texts are ordered as their bytes are.
-/

namespace BrokerClient.Bytes

theorem ofString_eq (text : String) : ofString text = text.toList.flatMap String.utf8EncodeChar := by
  have hencoded : text.toUTF8 = (text.toList.flatMap String.utf8EncodeChar).toByteArray := by
    rw [String.toUTF8_eq_toByteArray, ← String.utf8Encode_toList]
    rfl
  rw [ofString, hencoded]
  simp

theorem ofString_append (first second : String) :
    ofString (first ++ second) = ofString first ++ ofString second := by
  simp [ofString_eq]

/-- A character of ASCII is one byte. -/
theorem encodeChar_of_ascii {c : Char} (hascii : c.toNat < 0x80) :
    String.utf8EncodeChar c = [UInt8.ofNat c.toNat] := by
  have hle : c.val.toNat ≤ 127 := Nat.le_of_lt_succ hascii
  simp only [String.utf8EncodeChar, if_pos hle]
  rfl

/-- The bytes of any other character lie beyond ASCII. -/
theorem le_of_mem_encodeChar {c : Char} (hbeyond : 0x80 ≤ c.toNat) {byte : UInt8}
    (hmem : byte ∈ String.utf8EncodeChar c) : 0x80 ≤ byte.toNat := by
  have hnot : ¬ c.val.toNat ≤ 127 := Nat.not_le_of_lt hbeyond
  simp only [String.utf8EncodeChar, if_neg hnot] at hmem
  -- one case for each length of the character's form
  split at hmem
  · simp only [List.mem_cons, List.not_mem_nil, or_false] at hmem
    rcases hmem with rfl | rfl <;> simp only [UInt8.toNat_ofNat'] <;> omega
  · split at hmem
    · simp only [List.mem_cons, List.not_mem_nil, or_false] at hmem
      rcases hmem with rfl | rfl | rfl <;> simp only [UInt8.toNat_ofNat'] <;> omega
    · simp only [List.mem_cons, List.not_mem_nil, or_false] at hmem
      rcases hmem with rfl | rfl | rfl | rfl <;> simp only [UInt8.toNat_ofNat'] <;> omega

/-- A byte of ASCII in the bytes of a text is a character of the text. -/
theorem mem_of_mem_ofString {c : Char} (hascii : c.toNat < 0x80) {text : String}
    (hmem : UInt8.ofNat c.toNat ∈ ofString text) : c ∈ text.toList := by
  rw [ofString_eq, List.mem_flatMap] at hmem
  obtain ⟨other, hother, hbyte⟩ := hmem
  have hvalue : (UInt8.ofNat c.toNat).toNat = c.toNat := by
    rw [UInt8.toNat_ofNat']
    omega
  by_cases hsame : other.toNat < 0x80
  · rw [encodeChar_of_ascii hsame, List.mem_singleton] at hbyte
    have hcode : other.toNat = c.toNat := by
      have hbytes := congrArg UInt8.toNat hbyte
      rw [UInt8.toNat_ofNat', UInt8.toNat_ofNat'] at hbytes
      omega
    rwa [← Char.toNat_inj.mp hcode]
  · have := le_of_mem_encodeChar (Nat.le_of_not_lt hsame) hbyte
    omega

/-- What is read from bytes has these bytes. -/
theorem ofString_of_toString? {bytes : Bytes} {text : String}
    (hread : toString? bytes = some text) : ofString text = bytes := by
  rw [toString?, String.fromUTF8?] at hread
  split at hread
  · obtain rfl := Option.some.inj hread
    rfl
  · cases hread

/-! ## The order of texts -/

/-- The forms of two characters differ in a byte, and the first that differs is ordered as they are. -/
theorem encodeChar_append_lt {c d : Char} (hless : c < d) (more rest : Bytes) :
    String.utf8EncodeChar c ++ more < String.utf8EncodeChar d ++ rest := by
  have hcode : c.val.toNat < d.val.toNat := hless
  have hd : d.val.toNat < 0x110000 := by
    rcases d.valid with hlow | ⟨-, hhigh⟩
    · exact Nat.lt_trans hlow (by decide)
    · exact hhigh
  simp only [String.utf8EncodeChar]
  generalize c.val.toNat = v at *
  generalize d.val.toNat = w at *
  -- one case for each pair of lengths
  split_ifs <;>
    simp only [List.cons_append, List.nil_append, List.cons_lt_cons_iff, UInt8.lt_iff_toNat_lt,
      ← UInt8.toNat_inj, UInt8.toNat_ofNat'] <;>
    simp (disch := omega) only [Nat.reducePow, Nat.mod_eq_of_lt] <;>
    omega

theorem flatMap_encodeChar_lt {first second : List Char} (hless : first < second) :
    first.flatMap String.utf8EncodeChar < second.flatMap String.utf8EncodeChar := by
  induction first generalizing second with
  | nil =>
      cases second with
      | nil => exact absurd hless (List.lt_irrefl _)
      | cons d second =>
          have hsome : String.utf8EncodeChar d ≠ [] := String.utf8EncodeChar_ne_nil
          obtain ⟨byte, bytes, hform⟩ := List.exists_cons_of_ne_nil hsome
          rw [List.flatMap_cons, hform]
          exact List.nil_lt_cons _ _
  | cons c first ih =>
      cases second with
      | nil => exact absurd hless (List.not_lt_nil _)
      | cons d second =>
          rw [List.flatMap_cons, List.flatMap_cons]
          rcases List.cons_lt_cons_iff.mp hless with hhead | ⟨rfl, htail⟩
          · exact encodeChar_append_lt hhead _ _
          · exact List.append_left_lt (ih htail)

/-- The bytes of texts are ordered as the texts are. -/
theorem ofString_lt_iff {first second : String} :
    ofString first < ofString second ↔ first < second := by
  rw [ofString_eq, ofString_eq, String.lt_iff_toList_lt]
  refine ⟨fun hbytes => ?_, flatMap_encodeChar_lt⟩
  by_contra hnot
  rcases (not_lt.mp hnot).lt_or_eq with hgreater | hsame
  · exact List.lt_asymm (flatMap_encodeChar_lt hgreater) hbytes
  · rw [hsame] at hbytes
    exact List.lt_irrefl _ hbytes

theorem ofString_le_iff {first second : String} :
    ofString first ≤ ofString second ↔ first ≤ second :=
  not_congr ofString_lt_iff

end BrokerClient.Bytes
