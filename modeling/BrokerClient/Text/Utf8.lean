/-!
# Bytes and text

Message bodies, settings files and field values are byte strings, which are plain lists here.  Text
is `String`; this file passes between the two.

* `Bytes.ofString` and `Bytes.toString?` are inverse to each other where the bytes are well-formed
  UTF-8 (`Bytes.toString?_ofString`).
* `Bytes.lossy` reads any bytes and puts a replacement character for each part that is not UTF-8.
* `Bytes.fault?` names the first such part, for messages.
-/

namespace BrokerClient

/-- A byte string. -/
abbrev Bytes := List UInt8

namespace Bytes

/-- The UTF-8 form of a text. -/
def ofString (text : String) : Bytes :=
  text.toUTF8.data.toList

/-- The text with this UTF-8 form, if there is one. -/
def toString? (bytes : Bytes) : Option String :=
  String.fromUTF8? ⟨bytes.toArray⟩

theorem toString?_ofString (text : String) : toString? (ofString text) = some text := by
  have back : (⟨(ofString text).toArray⟩ : ByteArray) = text.toUTF8 := by simp [ofString]
  rw [toString?, back, String.fromUTF8?, String.toUTF8_eq_toByteArray, dif_pos text.isValidUTF8]
  rfl

/-! ## Reading one character -/

/-- Why a byte sequence is no UTF-8. -/
inductive Utf8Fault
  /-- The first `width` bytes can start no character. -/
  | invalid (width : Nat)
  /-- The bytes end inside a character. -/
  | incomplete
  deriving Repr, DecidableEq

private def isContinuation (byte : UInt8) : Bool :=
  0x80 ≤ byte && byte ≤ 0xBF

/-- The range that the second byte must lie in, by the first byte of a longer character. -/
private def secondRange (first : UInt8) : UInt8 × UInt8 :=
  if first == 0xE0 then (0xA0, 0xBF)
  else if first == 0xED then (0x80, 0x9F)
  else if first == 0xF0 then (0x90, 0xBF)
  else if first == 0xF4 then (0x80, 0x8F)
  else (0x80, 0xBF)

private def low6 (byte : UInt8) : Nat :=
  byte.toNat % 64

/-- The character at the front of `first :: rest` and the number of bytes of `rest` it takes. -/
def decodeHead (first : UInt8) (rest : Bytes) : Except Utf8Fault (Char × Nat) :=
  if first < 0x80 then .ok (Char.ofNat first.toNat, 0)
  else if first < 0xC2 || 0xF4 < first then .error (.invalid 1)
  else
    match rest with
    | [] => .error .incomplete
    | second :: rest =>
      let (low, high) := secondRange first
      if second < low || high < second then .error (.invalid 1)
      else if first < 0xE0 then
        .ok (Char.ofNat (first.toNat % 32 * 64 + low6 second), 1)
      else
        match rest with
        | [] => .error .incomplete
        | third :: rest =>
          if !isContinuation third then .error (.invalid 2)
          else if first < 0xF0 then
            .ok (Char.ofNat ((first.toNat % 16 * 64 + low6 second) * 64 + low6 third), 2)
          else
            match rest with
            | [] => .error .incomplete
            | fourth :: _ =>
              if !isContinuation fourth then .error (.invalid 3)
              else
                .ok (Char.ofNat (((first.toNat % 8 * 64 + low6 second) * 64 + low6 third) * 64
                  + low6 fourth), 3)

/-- The characters of the bytes, with one replacement character for each part that is no UTF-8. -/
def lossyChars : Bytes → List Char
  | [] => []
  | first :: rest =>
    match decodeHead first rest with
    | .ok (c, taken) => c :: lossyChars (rest.drop taken)
    | .error (.invalid width) => '\uFFFD' :: lossyChars (rest.drop (width - 1))
    | .error .incomplete => ['\uFFFD']
termination_by bytes => bytes.length
decreasing_by all_goals simp only [List.length_drop, List.length_cons]; omega

/-- The text of any bytes; what is no UTF-8 is replaced. -/
def lossy (bytes : Bytes) : String :=
  String.ofList (lossyChars bytes)

/-- The first part that is no UTF-8, with the index of its first byte. -/
def faultFrom (index : Nat) : Bytes → Option (Nat × Utf8Fault)
  | [] => none
  | first :: rest =>
    match decodeHead first rest with
    | .ok (_, taken) => faultFrom (index + taken + 1) (rest.drop taken)
    | .error fault => some (index, fault)
termination_by bytes => bytes.length
decreasing_by simp only [List.length_drop, List.length_cons]; omega

@[inherit_doc faultFrom]
def fault? (bytes : Bytes) : Option (Nat × Utf8Fault) :=
  faultFrom 0 bytes

/-- The message for a part that is no UTF-8. -/
def Utf8Fault.message (fault : Utf8Fault) (index : Nat) : String :=
  match fault with
  | .invalid width => s!"invalid utf-8 sequence of {width} bytes from index {index}"
  | .incomplete => s!"incomplete utf-8 byte sequence from index {index}"

end Bytes

end BrokerClient
