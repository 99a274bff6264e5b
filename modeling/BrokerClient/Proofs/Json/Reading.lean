import BrokerClient.Json.Shape
import BrokerClient.Proofs.Fields
import BrokerClient.Proofs.Json.Spelling
import BrokerClient.Proofs.Json.Token

/-!
# Every text of a value is read as the value

The reader goes through the inside of a bracket part by part.  The steps are the same for lists and
for objects: over the blanks, over the comma, to the next part.  From what the reader makes of one
part (`Takes`) follows what it makes of a whole bracket, and by induction over the value that all its
texts are read as the value (`readAny_takes`), as deep as the reader may go.
-/

namespace BrokerClient.Json

/-! ## Over the blanks -/

theorem skipGap_append {gap : Bytes} (hgap : IsGap gap) (rest : Bytes) :
    skipGap (gap ++ rest) = skipGap rest :=
  List.dropWhile_append_of_pos hgap

theorem skipGap_cons {byte : UInt8} (hbyte : isGap byte = false) (rest : Bytes) :
    skipGap (byte :: rest) = byte :: rest :=
  List.dropWhile_cons_of_neg (by simp [hbyte])

/-- Over the blanks to a byte that is none. -/
theorem skipGap_to {gap : Bytes} (hgap : IsGap gap) {byte : UInt8} (hbyte : isGap byte = false)
    (rest : Bytes) : skipGap (gap ++ byte :: rest) = byte :: rest := by
  rw [skipGap_append hgap, skipGap_cons hbyte]

theorem endsNumber_of_isGap {byte : UInt8} (hgap : isGap byte = true) (rest : Bytes) :
    endsNumber (byte :: rest) = true := by
  simp only [isGap, Bool.or_eq_true, beq_iff_eq] at hgap
  rcases hgap with ((rfl | rfl) | rfl) | rfl <;> rfl

theorem IsGap.endsNumber {gap : Bytes} (hgap : IsGap gap) {rest : Bytes}
    (hends : endsNumber rest = true) : endsNumber (gap ++ rest) = true := by
  cases gap with
  | nil => exact hends
  | cons byte gap => exact endsNumber_of_isGap (hgap byte List.mem_cons_self) _

theorem IsGap.endsNumber_end {gap : Bytes} (hgap : IsGap gap) : Json.endsNumber gap = true := by
  have hends := hgap.endsNumber (show Json.endsNumber [] = true from rfl)
  rwa [List.append_nil] at hends

theorem endsNumber_close (rest : Bytes) :
    endsNumber (0x5D :: rest) = true ∧ endsNumber (0x7D :: rest) = true :=
  ⟨rfl, rfl⟩

/-- What stands after a part of a bracket does not lengthen a number. -/
theorem Listed.endsNumber {parts : List Bytes} {text rest : Bytes}
    (hlisted : Listed false parts text) (hrest : endsNumber rest = true) :
    endsNumber (text ++ rest) = true := by
  cases hlisted with
  | done hgap => exact hgap.endsNumber hrest
  | next hbefore _ _ =>
      rw [List.append_assoc]
      exact hbefore.endsNumber rfl

theorem Listed.length_le {first : Bool} {parts : List Bytes} {text : Bytes}
    (hlisted : Listed first parts text) : parts.length ≤ text.length + 1 := by
  suffices hcount : parts.length ≤ text.length + first.toNat from
    hcount.trans (Nat.add_le_add_left first.toNat_le _)
  induction hlisted with
  | done _ => exact Nat.zero_le _
  | head _ _ ih =>
      simp only [List.length_cons, List.length_append, Bool.toNat_true, Bool.toNat_false] at ih ⊢
      omega
  | next _ _ _ ih =>
      simp only [List.length_cons, List.length_append, Bool.toNat_false] at ih ⊢
      omega

/-- There are turns enough for all parts of a bracket in the length of a text that has it. -/
theorem Listed.length_lt {parts : List Bytes} {text : Bytes} (hlisted : Listed true parts text)
    (before rest : Bytes) (opening closing : UInt8) :
    parts.length < (before ++ opening :: (text ++ closing :: rest)).length + 1 := by
  have := hlisted.length_le
  simp only [List.length_append, List.length_cons]
  omega

/-! ## From part to part of a list -/

/-- A reader takes the value off the front of every text that starts with `text`, whatever blanks
stand before it, as long as nothing after it lengthens a number. -/
def Takes (read : Bytes → Except ReadError (Value × Bytes)) (text : Bytes) (value : Value) : Prop :=
  ∀ gap rest, IsGap gap → endsNumber rest = true →
    read (gap ++ (text ++ rest)) = .ok (value, rest)

/-- Does the text start with something that is neither a blank nor the end of a list? -/
def StartsPart (text : Bytes) : Prop :=
  ∃ byte more, text = byte :: more ∧ isGap byte = false ∧ byte ≠ 0x5D

theorem nextItem_close (first : Bool) {gap : Bytes} (hgap : IsGap gap) (rest : Bytes) :
    nextItem first (gap ++ 0x5D :: rest) = .ok (false, 0x5D :: rest) := by
  rw [nextItem, skipGap_to hgap rfl]
  rfl

theorem nextItem_head {gap part : Bytes} (hgap : IsGap gap) (hpart : StartsPart part)
    (rest : Bytes) : nextItem true (gap ++ (part ++ rest)) = .ok (true, part ++ rest) := by
  obtain ⟨byte, more, rfl, hbyte, hclosing⟩ := hpart
  rw [nextItem, List.cons_append, skipGap_to hgap hbyte]
  simp

theorem nextItem_comma {before after part : Bytes} (hbefore : IsGap before) (hafter : IsGap after)
    (hpart : StartsPart part) (rest : Bytes) :
    nextItem false (before ++ 0x2C :: (after ++ (part ++ rest))) = .ok (true, part ++ rest) := by
  obtain ⟨byte, more, rfl, hbyte, hclosing⟩ := hpart
  rw [nextItem, skipGap_to hbefore rfl]
  simp [List.cons_append, skipGap_to hafter hbyte, hclosing]

/-- At a part the reader stands before it, and behind it the other parts follow. -/
theorem Listed.nextItem {first : Bool} {part text : Bytes} {parts : List Bytes}
    (hlisted : Listed first (part :: parts) text) (hpart : StartsPart part) (rest : Bytes) :
    ∃ more, Json.nextItem first (text ++ rest) = .ok (true, part ++ (more ++ rest)) ∧
      Listed false parts more := by
  cases hlisted with
  | @head gap _ more _ hgap hrest =>
      refine ⟨more, ?_, hrest⟩
      rw [List.append_assoc, List.append_assoc]
      exact nextItem_head hgap hpart _
  | @next before after _ more _ hbefore hafter hrest =>
      refine ⟨more, ?_, hrest⟩
      simpa using nextItem_comma hbefore hafter hpart (more ++ rest)

/-- At the end of the parts there is no further item. -/
theorem Listed.nextItem_nil {first : Bool} {text : Bytes} (hlisted : Listed first [] text)
    (rest : Bytes) : Json.nextItem first (text ++ 0x5D :: rest) = .ok (false, 0x5D :: rest) := by
  cases hlisted with
  | done hgap => exact nextItem_close first hgap rest

/-- Item by item up to the end of the list. -/
theorem readItems_listed {read : Bytes → Except ReadError (Value × Bytes)} {items : List Value}
    {parts : List Bytes}
    (hparts : List.Forall₂ (fun item part => Takes read part item ∧ StartsPart part) items parts)
    {first : Bool} {text : Bytes} (hlisted : Listed first parts text) (rest : Bytes) {turns : Nat}
    (hturns : parts.length < turns) :
    readItems read turns first (text ++ 0x5D :: rest) = .ok (items, 0x5D :: rest) := by
  obtain ⟨turns, rfl⟩ : ∃ more, turns = more + 1 := ⟨turns - 1, by omega⟩
  induction hparts generalizing first text turns with
  | nil =>
      rw [readItems, hlisted.nextItem_nil]
      rfl
  | cons hpart hparts ih =>
      obtain ⟨turns, rfl⟩ : ∃ more, turns = more + 1 := ⟨turns - 1, by simp at hturns; omega⟩
      obtain ⟨more, hnext, hrest⟩ := hlisted.nextItem hpart.2 (0x5D :: rest)
      -- the bracket or the comma behind the item does not lengthen a number
      have htake := hpart.1 [] _ isGap_nil (hrest.endsNumber (endsNumber_close rest).1)
      have hmore := ih hrest turns (by simpa using hturns)
      rw [List.nil_append] at htake
      rw [readItems, hnext]
      simp [bind, Except.bind, htake, hmore, pure, Except.pure]

theorem closeList_bracket (rest : Bytes) : closeList (0x5D :: rest) = .ok rest := by
  rw [closeList, skipGap_cons rfl]
  rfl

/-- A list from its opening bracket to its closing one. -/
theorem listWith_listed {read : Bytes → Except ReadError (Value × Bytes)} {items : List Value}
    {parts : List Bytes} {text : Bytes} (hlisted : Listed true parts text)
    (hparts : List.Forall₂ (fun item part => Takes read part item ∧ StartsPart part) items parts)
    (rest : Bytes) :
    listWith read (0x5B :: (text ++ 0x5D :: rest)) = .ok (.array items, rest) := by
  have hturns : parts.length < (0x5B :: (text ++ 0x5D :: rest)).length + 1 :=
    hlisted.length_lt [] rest 0x5B 0x5D
  rw [listWith, List.drop_one, List.tail_cons, readItems_listed hparts hlisted rest hturns]
  simp [bind, Except.bind, closeList_bracket, pure, Except.pure]

/-! ## From field to field of an object -/

theorem nextKey_close (first : Bool) {gap : Bytes} (hgap : IsGap gap) (rest : Bytes) :
    nextKey first (gap ++ 0x7D :: rest) = .ok (none, 0x7D :: rest) := by
  rw [nextKey, skipGap_to hgap rfl]
  rfl

theorem nextKey_head {gap : Bytes} (hgap : IsGap gap) (key : String) (rest : Bytes) :
    nextKey true (gap ++ (Bytes.ofString (quote key) ++ rest)) = .ok (some key, rest) := by
  obtain ⟨inside, heq, hscan⟩ := ofString_quote_append key rest
  rw [heq, nextKey, skipGap_to hgap rfl]
  simp [hscan]

theorem nextKey_comma {before after : Bytes} (hbefore : IsGap before) (hafter : IsGap after)
    (key : String) (rest : Bytes) :
    nextKey false (before ++ 0x2C :: (after ++ (Bytes.ofString (quote key) ++ rest))) =
      .ok (some key, rest) := by
  obtain ⟨inside, heq, hscan⟩ := ofString_quote_append key rest
  rw [heq, nextKey, skipGap_to hbefore rfl]
  simp [skipGap_to hafter, hscan, isGap]

theorem scanColon_gap {gap : Bytes} (hgap : IsGap gap) (rest : Bytes) :
    scanColon (gap ++ 0x3A :: rest) = .ok rest := by
  rw [scanColon, skipGap_to hgap rfl]
  rfl

/-- At a field the reader takes the key, then the colon, and stands before the value. -/
theorem Listed.nextKey {first : Bool} {field : String × Value} {part text : Bytes}
    {parts : List Bytes} (hlisted : Listed first (part :: parts) text)
    (hpart : SpellsField field part) (rest : Bytes) :
    ∃ colon gap value more, nextKey first (text ++ rest) = .ok (some field.1, colon) ∧
      scanColon colon = .ok (gap ++ (value ++ (more ++ rest))) ∧
      IsGap gap ∧ Spells field.2 value ∧ Listed false parts more := by
  cases hpart with
  | @mk key value before after valueText hbefore hafter hvalue =>
      cases hlisted with
      | @head gap _ more _ hgap hrest =>
          refine ⟨before ++ 0x3A :: (after ++ (valueText ++ (more ++ rest))), after, valueText, more,
            ?_, scanColon_gap hbefore _, hafter, hvalue, hrest⟩
          simpa using nextKey_head hgap key _
      | @next gap gap' _ more _ hgap hgap' hrest =>
          refine ⟨before ++ 0x3A :: (after ++ (valueText ++ (more ++ rest))), after, valueText, more,
            ?_, scanColon_gap hbefore _, hafter, hvalue, hrest⟩
          simpa using nextKey_comma hgap hgap' key _

/-- At the end of the fields there is no further key. -/
theorem Listed.nextKey_nil {first : Bool} {text : Bytes} (hlisted : Listed first [] text)
    (rest : Bytes) : Json.nextKey first (text ++ 0x7D :: rest) = .ok (none, 0x7D :: rest) := by
  cases hlisted with
  | done hgap => exact nextKey_close first hgap rest

/-- Field by field up to the end of the object, each put at its place. -/
theorem readEntries_listed {read : Bytes → Except ReadError (Value × Bytes)}
    {fields : List (String × Value)} {parts : List Bytes}
    (hparts : List.Forall₂ SpellsField fields parts)
    (hread : ∀ field ∈ fields, ∀ text, Spells field.2 text → Takes read text field.2)
    {first : Bool} {text : Bytes} (hlisted : Listed first parts text)
    (sorted : List (String × Value)) (rest : Bytes) {turns : Nat} (hturns : parts.length < turns) :
    readEntries read turns first sorted (text ++ 0x7D :: rest) =
      .ok (fields.foldl (fun sorted field => Fields.insert field.1 field.2 sorted) sorted,
        0x7D :: rest) := by
  obtain ⟨turns, rfl⟩ : ∃ more, turns = more + 1 := ⟨turns - 1, by omega⟩
  induction hparts generalizing first text sorted turns with
  | nil =>
      rw [readEntries, hlisted.nextKey_nil]
      rfl
  | @cons field part fields parts hpart hparts ih =>
      obtain ⟨turns, rfl⟩ : ∃ more, turns = more + 1 := ⟨turns - 1, by simp at hturns; omega⟩
      obtain ⟨colon, gap, value, more, hkey, hcolon, hgap, hvalue, hrest⟩ :=
        hlisted.nextKey hpart (0x7D :: rest)
      have htake := hread field List.mem_cons_self value hvalue gap _ hgap
        (hrest.endsNumber (endsNumber_close rest).2)
      have hmore := ih (fun other hmem => hread other (List.mem_cons_of_mem _ hmem)) hrest
        (Fields.insert field.1 field.2 sorted) turns (by simpa using hturns)
      rw [readEntries, hkey]
      simp [bind, Except.bind, hcolon, htake, hmore]

theorem closeObject_brace (rest : Bytes) : closeObject (0x7D :: rest) = .ok rest := by
  rw [closeObject, skipGap_cons rfl]
  rfl

/-- An object from its opening bracket to its closing one. -/
theorem objectWith_listed {read : Bytes → Except ReadError (Value × Bytes)}
    {fields : List (String × Value)} {parts : List Bytes}
    (hparts : List.Forall₂ SpellsField fields parts)
    (hread : ∀ field ∈ fields, ∀ text, Spells field.2 text → Takes read text field.2)
    {text : Bytes} (hlisted : Listed true parts text) (rest : Bytes) :
    objectWith read (0x7B :: (text ++ 0x7D :: rest)) = .ok (ofFields fields, rest) := by
  have hturns : parts.length < (0x7B :: (text ++ 0x7D :: rest)).length + 1 :=
    hlisted.length_lt [] rest 0x7B 0x7D
  rw [objectWith, List.drop_one, List.tail_cons,
    readEntries_listed hparts hread hlisted [] rest hturns]
  simp [bind, Except.bind, closeObject_brace, pure, Except.pure, ofFields, Fields.ofList]

/-! ## Any value -/

/-- Is the value neither an array nor an object? -/
def Value.IsScalar : Value → Prop
  | .array _ | .object _ => False
  | _ => True

theorem isGap_of_startsNumber {byte : UInt8} (hstarts : (byte == 0x2D || isDigit byte) = true) :
    isGap byte = false := by
  by_contra hgap
  simp only [isGap, Bool.not_eq_false, Bool.or_eq_true, beq_iff_eq] at hgap
  rcases hgap with ((rfl | rfl) | rfl) | rfl <;> exact absurd hstarts (by decide)

theorem ne_of_startsNumber {byte other : UInt8} (hstarts : (byte == 0x2D || isDigit byte) = true)
    (hother : (other == 0x2D || isDigit other) = false) : byte ≠ other := by
  rintro rfl
  rw [hother] at hstarts
  exact Bool.false_ne_true hstarts

/-- The byte that a text of the value starts with. -/
def Value.StartsWith (byte : UInt8) : Value → Prop
  | .null => byte = 0x6E
  | .bool true => byte = 0x74
  | .bool false => byte = 0x66
  | .number _ => (byte == 0x2D || isDigit byte) = true
  | .string _ => byte = 0x22
  | .array _ => byte = 0x5B
  | .object _ => byte = 0x7B

theorem Spells.exists_cons {value : Value} {text : Bytes} (hspells : Spells value text) :
    ∃ byte more, text = byte :: more ∧ value.StartsWith byte := by
  cases hspells with
  | null => exact ⟨0x6E, [0x75, 0x6C, 0x6C], rfl, rfl⟩
  | yes => exact ⟨0x74, [0x72, 0x75, 0x65], rfl, rfl⟩
  | no => exact ⟨0x66, [0x61, 0x6C, 0x73, 0x65], rfl, rfl⟩
  | int n => exact ofString_int_head n
  | string text => exact ⟨0x22, _, ofString_quote text, rfl⟩
  | array _ _ => exact ⟨0x5B, _, rfl, rfl⟩
  | object _ _ => exact ⟨0x7B, _, rfl, rfl⟩

theorem Value.StartsWith.notGap {byte : UInt8} {value : Value} (hstarts : value.StartsWith byte) :
    isGap byte = false := by
  cases value with
  | number n => exact isGap_of_startsNumber hstarts
  | bool b => cases b <;> (obtain rfl : byte = _ := hstarts; rfl)
  | _ => obtain rfl : byte = _ := hstarts; rfl

theorem Value.StartsWith.ne_close {byte : UInt8} {value : Value}
    (hstarts : value.StartsWith byte) : byte ≠ 0x5D := by
  cases value with
  | number n => exact ne_of_startsNumber hstarts rfl
  | bool b => cases b <;> (obtain rfl : byte = _ := hstarts; decide)
  | _ => obtain rfl : byte = _ := hstarts; decide

theorem Value.StartsWith.ne_bracket {byte : UInt8} {value : Value}
    (hstarts : value.StartsWith byte) (hscalar : value.IsScalar) : byte ≠ 0x5B ∧ byte ≠ 0x7B := by
  cases value with
  | number n => exact ⟨ne_of_startsNumber hstarts rfl, ne_of_startsNumber hstarts rfl⟩
  | bool b => cases b <;> (obtain rfl : byte = _ := hstarts; decide)
  | array _ => exact absurd hscalar id
  | object _ => exact absurd hscalar id
  | _ => obtain rfl : byte = _ := hstarts; decide

theorem Spells.startsPart {value : Value} {text : Bytes} (hspells : Spells value text) :
    StartsPart text := by
  obtain ⟨byte, more, heq, hstarts⟩ := hspells.exists_cons
  exact ⟨byte, more, heq, hstarts.notGap, hstarts.ne_close⟩

/-- What a reader makes of the texts of the items it makes of the parts of their list. -/
theorem takes_parts {read : Bytes → Except ReadError (Value × Bytes)} {items : List Value}
    {parts : List Bytes} (hitems : ∀ item ∈ items, ∀ text, Spells item text → Takes read text item)
    (hparts : List.Forall₂ Spells items parts) :
    List.Forall₂ (fun item part => Takes read part item ∧ StartsPart part) items parts :=
  ((List.forall₂_and_left _ _).mpr ⟨hitems, hparts⟩).imp fun _ _ hpart =>
    ⟨hpart.1 _ hpart.2, hpart.2.startsPart⟩

/-- A scalar is read back, and the reader stands right after it. -/
theorem readScalar_spells {value : Value} {text : Bytes} (hspells : Spells value text)
    (hscalar : value.IsScalar) (hsound : value.WellFormed) {rest : Bytes}
    (hends : endsNumber rest = true) : readScalar (text ++ rest) = .ok (value, rest) := by
  cases hspells with
  | null => rfl
  | yes => rfl
  | no => rfl
  | int n =>
      obtain ⟨byte, more, heq, hstarts⟩ := ofString_int_head n
      have hnumber := scanNumber_ofString hsound.fits hends
      rw [heq, List.cons_append] at hnumber ⊢
      have hn : byte ≠ 0x6E := ne_of_startsNumber hstarts rfl
      have ht : byte ≠ 0x74 := ne_of_startsNumber hstarts rfl
      have hf : byte ≠ 0x66 := ne_of_startsNumber hstarts rfl
      have hq : byte ≠ 0x22 := ne_of_startsNumber hstarts rfl
      have hif : (byte = 0x2D ∨ isDigit byte = true) := by simpa using hstarts
      simp [readScalar, hif, hnumber, bind, Except.bind, pure, Except.pure]
  | string text =>
      obtain ⟨inside, heq, hscan⟩ := ofString_quote_append text rest
      rw [heq]
      simp [readScalar, hscan, bind, Except.bind, pure, Except.pure]
  | array _ _ => exact absurd hscalar id
  | object _ _ => exact absurd hscalar id

theorem readAny_scalar (depth : Nat) {bytes rest : Bytes} {byte : UInt8} {value : Value}
    (hskip : skipGap bytes = byte :: rest) (hstarts : value.StartsWith byte)
    (hscalar : value.IsScalar) : readAny depth bytes = readScalar (byte :: rest) := by
  obtain ⟨hlist, hobject⟩ := hstarts.ne_bracket hscalar
  cases depth <;> simp [readAny, hskip, hlist, hobject]

/-- Every text of a value is read as the value, by a reader that may go as deep. -/
theorem readAny_takes {value : Value} {text : Bytes} (hspells : Spells value text)
    (hsound : value.WellFormed) {depth : Nat} (hdepth : value.depth ≤ depth) :
    Takes (readAny depth) text value := by
  induction value using Value.induct generalizing text depth with
  | array items ih =>
      intro gap rest hgap hends
      cases hspells with
      | @array _ parts inside hparts hlisted =>
          obtain ⟨depth, rfl⟩ : ∃ less, depth = less + 1 :=
            ⟨depth - 1, by rw [Value.depth] at hdepth; omega⟩
          rw [Value.depth] at hdepth
          have hitems : ∀ item ∈ items, ∀ text, Spells item text →
              Takes (readAny depth) text item := by
            intro item hmem text hitem
            exact ih item hmem hitem (hsound.item hmem)
              (Nat.le_trans (depth_le_itemsDepth hmem) (by omega))
          have hread := listWith_listed hlisted (takes_parts hitems hparts) rest
          rw [readAny, List.cons_append, skipGap_to hgap rfl]
          simpa using hread
  | object fields ih =>
      intro gap rest hgap hends
      cases hspells with
      | @object _ parts inside hparts hlisted =>
          obtain ⟨depth, rfl⟩ : ∃ less, depth = less + 1 :=
            ⟨depth - 1, by rw [Value.depth] at hdepth; omega⟩
          rw [Value.depth] at hdepth
          have hfields : ∀ field ∈ fields, ∀ text, Spells field.2 text →
              Takes (readAny depth) text field.2 := by
            intro field hfield text hvalue
            exact ih field hfield hvalue (hsound.field hfield)
              (Nat.le_trans (depth_le_fieldsDepth hfield) (by omega))
          have hread := objectWith_listed hparts hfields hlisted rest
          -- the reader sorts the fields, which are sorted already
          have hsorted : ofFields fields = .object fields := by
            rw [ofFields, Fields.ofList_of_ascending hsound.ascending]
          rw [hsorted] at hread
          rw [readAny, List.cons_append, skipGap_to hgap rfl]
          simpa using hread
  | _ =>
      intro gap rest hgap hends
      obtain ⟨byte, more, heq, hstarts⟩ := hspells.exists_cons
      have hread := readScalar_spells hspells trivial hsound hends
      rw [heq, List.cons_append] at hread ⊢
      rw [readAny_scalar depth (skipGap_to hgap hstarts.notGap _) hstarts trivial, hread]

end BrokerClient.Json
