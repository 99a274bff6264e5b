import BrokerClient.Proofs.Json.Reading
import Mathlib.Data.List.Nodup

/-!
# What shapes make of the texts of a value

A shape accepts a value for another if it takes every text of the one for the other
(`Shape.Accepts`).  Texts, flags, numbers that fit, lists and maps are accepted for themselves.  A
record accepts an object whose fields it has, each at most once and the required ones among them,
for the same fields in order (`record_accepts`): what is found under a key is what the field's own
shape has made of it.  An object may be made of some of the fields that a record has, in any order
(`MadeOf`).
-/

namespace BrokerClient.Json

namespace Shape

/-- The shape takes every text of the value for `taken`, where so many brackets may be nested. -/
def Accepts (shape : Shape) (depth : Nat) (value taken : Value) : Prop :=
  ∀ text, Spells value text → Takes (shape.read depth) text taken

/-- A text of the value that has nothing else in it. -/
theorem ofBytes?_of_accepts {shape : Shape} {value taken : Value}
    (haccepts : shape.Accepts depthLimit value taken) {content : Bytes}
    (hcontent : IsTextOf value content) : shape.ofBytes? content = .ok taken := by
  obtain ⟨before, text, after, hbefore, hspells, hafter, rfl⟩ := hcontent
  have hread := haccepts text hspells before after hbefore hafter.endsNumber_end
  have hrest : skipGap after = [] := by
    have hskip := skipGap_append hafter []
    rwa [List.append_nil] at hskip
  rw [ofBytes?, readAll, hread]
  simp [bind, Except.bind, hrest, pure, Except.pure, Except.mapError]

/-! ## Scalars -/

theorem ofScalar_accepts {expected : String} {starts : UInt8 → Bool}
    {accept : Value → Except Fault Value} (depth : Nat) {value taken : Value}
    (hscalar : value.IsScalar) (hsound : value.WellFormed)
    (hstarts : ∀ byte, value.StartsWith byte → starts byte = true)
    (haccept : accept value = .ok taken) :
    (ofScalar expected starts accept).Accepts depth value taken := by
  intro text hspells gap rest hgap hends
  obtain ⟨byte, more, rfl, hbyte⟩ := hspells.exists_cons
  have hread := readScalar_spells hspells hscalar hsound hends
  rw [List.cons_append] at hread ⊢
  simp only [ofScalar, skipGap_to hgap hbyte.notGap, hstarts byte hbyte, if_true, hread]
  simp [bind, Except.bind, haccept, pure, Except.pure]

theorem wellFormed_string (text : String) : (Value.string text).WellFormed := by
  simp [Value.WellFormed, Value.parts, Value.IsSound]

theorem wellFormed_bool (b : Bool) : (Value.bool b).WellFormed := by
  simp [Value.WellFormed, Value.parts, Value.IsSound]

theorem wellFormed_int {n : Int} (hfits : fitsWord n) : (Value.number (.int n)).WellFormed := by
  simpa [Value.WellFormed, Value.parts, Value.IsSound] using hfits

theorem string_accepts (depth : Nat) (text : String) :
    string.Accepts depth (.string text) (.string text) := by
  refine ofScalar_accepts depth trivial (wellFormed_string text) ?_ rfl
  rintro byte rfl
  rfl

theorem bool_accepts (depth : Nat) (b : Bool) : bool.Accepts depth (.bool b) (.bool b) := by
  refine ofScalar_accepts depth trivial (wellFormed_bool b) ?_ rfl
  intro byte hbyte
  cases b <;> (obtain rfl : byte = _ := hbyte; rfl)

theorem unsigned_accepts (depth : Nat) {bits n : Nat} (hbits : bits ≤ 64) (hlt : n < 2 ^ bits) :
    (unsigned bits).Accepts depth (.ofNat n) (.ofNat n) := by
  have hword : n < 2 ^ 64 := Nat.lt_of_lt_of_le hlt (Nat.pow_le_pow_right (by decide) hbits)
  have hfits : fitsWord n := ⟨by omega, by exact_mod_cast hword⟩
  have hstarts : ∀ byte, (Value.ofNat n).StartsWith byte → startsNumber byte = true :=
    fun _ hbyte => hbyte
  have hscalar : (Value.ofNat n).IsScalar := trivial
  have hsound : (Value.ofNat n).WellFormed := wellFormed_int hfits
  rw [unsigned, integer]
  refine ofScalar_accepts depth hscalar hsound hstarts ?_
  have hrange : ((0 : Int) ≤ (n : Int) && (n : Int) ≤ ((2 ^ bits - 1 : Nat) : Int)) = true := by
    rw [Bool.and_eq_true, decide_eq_true_eq, decide_eq_true_eq]
    omega
  exact if_pos hrange

/-- What is accepted is accepted where `null` may stand in its place, too. -/
theorem option_accepts {shape : Shape} {depth : Nat} {value taken : Value}
    (haccepts : shape.Accepts depth value taken) (hsome : value ≠ .null) :
    (option shape).Accepts depth value taken := by
  intro text hspells gap rest hgap hends
  obtain ⟨byte, more, rfl, hbyte⟩ := hspells.exists_cons
  have hread := haccepts _ hspells [] rest isGap_nil hends
  -- no other value starts as `null` does
  have hnull : byte ≠ 0x6E := by
    cases value with
    | null => exact absurd rfl hsome
    | number n => exact ne_of_startsNumber hbyte rfl
    | bool b => cases b <;> (obtain rfl : byte = _ := hbyte; decide)
    | _ => obtain rfl : byte = _ := hbyte; decide
  rw [List.nil_append, List.cons_append] at hread
  simp only [option, List.cons_append, skipGap_to hgap hbyte.notGap]
  simp [hnull, hread]

/-! ## Lists and maps -/

theorem list_accepts {shape : Shape} {depth : Nat} {items : List Value}
    (hitems : ∀ item ∈ items, shape.Accepts depth item item) :
    (list shape).Accepts (depth + 1) (.array items) (.array items) := by
  intro text hspells gap rest hgap hends
  cases hspells with
  | @array _ parts inside hparts hlisted =>
      have hread := listWith_listed hlisted (takes_parts hitems hparts) rest
      simp only [list, List.cons_append, skipGap_to hgap (show isGap 0x5B = false from rfl), deeper]
      simpa using hread

theorem map_accepts {depth : Nat} {fields : List (String × Value)}
    (hsound : (Value.object fields).WellFormed) (hdepth : (Value.object fields).depth ≤ depth + 1) :
    map.Accepts (depth + 1) (.object fields) (.object fields) := by
  intro text hspells gap rest hgap hends
  have hread := readAny_takes hspells hsound hdepth gap rest hgap hends
  cases hspells with
  | @object _ parts inside hparts hlisted =>
      rw [List.cons_append, readAny, skipGap_to hgap rfl] at hread
      simp only [map, List.cons_append, skipGap_to hgap (show isGap 0x7B = false from rfl), deeper]
      exact hread

/-! ## Records -/

/-- The record has a field with this key, and accepts the value in it for the one taken. -/
def FieldFits (fields : List Field) (depth : Nat) (given taken : String × Value) : Prop :=
  given.1 = taken.1 ∧ ∃ field, fields.find? (·.name == given.1) = some field ∧
    field.shape.Accepts depth given.2 taken.2

/-- Field by field up to the end of the object: those taken, the last one first. -/
theorem readNamed_listed {fields : List Field} {depth : Nat} {given taken : List (String × Value)}
    (hfits : List.Forall₂ (FieldFits fields depth) given taken) {parts : List Bytes}
    (hparts : List.Forall₂ SpellsField given parts) {first : Bool} {text : Bytes}
    (hlisted : Listed first parts text) (before : List (String × Value))
    (hdistinct : ((before ++ given).map (·.1)).Nodup)
    (hrequired : ∀ field ∈ fields, field.required = true →
      field.name ∈ (before ++ given).map (·.1))
    (rest : Bytes) {turns : Nat} (hturns : parts.length < turns) :
    readNamed fields depth turns first before (text ++ 0x7D :: rest) =
      .ok (taken.reverse ++ before, 0x7D :: rest) := by
  obtain ⟨turns, rfl⟩ : ∃ more, turns = more + 1 := ⟨turns - 1, by omega⟩
  induction hfits generalizing parts first text before turns with
  | nil =>
      cases hparts
      -- at the end all required fields have been taken
      have hmissing : fields.find? (fun field =>
          field.required && !before.any (·.1 == field.name)) = none := by
        rw [List.find?_eq_none]
        intro field hmem hmissing
        rw [Bool.and_eq_true, Bool.not_eq_true'] at hmissing
        have hthere := hrequired field hmem hmissing.1
        rw [List.append_nil, List.mem_map] at hthere
        obtain ⟨entry, hentry, hname⟩ := hthere
        have := List.any_eq_false.mp hmissing.2 entry hentry
        rw [hname, beq_self_eq_true] at this
        exact this rfl
      rw [readNamed, hlisted.nextKey_nil]
      simp [hmissing]
  | @cons given taken givens takens hfit hfits ih =>
      cases hparts with
      | @cons _ part _ parts hpart hparts =>
          obtain ⟨turns, rfl⟩ : ∃ more, turns = more + 1 := ⟨turns - 1, by simp at hturns; omega⟩
          obtain ⟨key, value⟩ := given
          obtain ⟨other, found⟩ := taken
          obtain ⟨rfl, field, hfind, haccepts⟩ := hfit
          obtain ⟨colon, gap, valueText, more, hkey, hcolon, hgap, hvalue, hrest⟩ :=
            hlisted.nextKey hpart (0x7D :: rest)
          have htake := haccepts valueText hvalue gap _ hgap
            (hrest.endsNumber (endsNumber_close rest).2)
          -- the field that is taken goes to the front of those taken before
          rw [List.map_append, List.map_cons, List.nodup_middle, ← List.map_append] at hdistinct
          have hfresh : before.any (·.1 == key) = false := by
            rw [List.any_eq_false]
            intro entry hentry heq
            refine (List.nodup_cons.mp hdistinct).1 ?_
            have hmem : entry ∈ before ++ givens := List.mem_append_left _ hentry
            exact List.mem_map.mpr ⟨entry, hmem, eq_of_beq heq⟩
          have hthere : ∀ field ∈ fields, field.required = true →
              field.name ∈ ((key, found) :: before ++ givens).map (·.1) := by
            intro field hmem hneeded
            simpa [or_left_comm] using hrequired field hmem hneeded
          have hmore := ih hparts hrest ((key, found) :: before) hdistinct hthere turns
            (by simpa using hturns)
          rw [readNamed, hkey]
          simp [hfind, hfresh, bind, Except.bind, hcolon, htake, hmore]

/-- A record accepts the fields that it has, and keeps them in order. -/
theorem record_accepts {name : String} {fields : List Field} {depth : Nat}
    {given taken : List (String × Value)}
    (hfits : List.Forall₂ (FieldFits fields depth) given taken)
    (hdistinct : (given.map (·.1)).Nodup)
    (hrequired : ∀ field ∈ fields, field.required = true → field.name ∈ given.map (·.1)) :
    (record name fields).Accepts (depth + 1) (.object given) (ofFields taken.reverse) := by
  intro text hspells gap rest hgap hends
  cases hspells with
  | @object _ parts inside hparts hlisted =>
      have hbrace : isGap 0x7B = false := rfl
      have hread := readNamed_listed hfits hparts hlisted [] hdistinct hrequired rest
        (hlisted.length_lt gap rest 0x7B 0x7D)
      simp only [record, List.cons_append, List.append_assoc, List.nil_append,
        skipGap_to hgap hbrace, deeper, hread]
      simp [finish, bind, Except.bind, closeObject_brace, pure, Except.pure]

/-- What a record has taken is found under its key. -/
theorem get_ofFields_reverse (fields : List (String × Value)) (key : String) :
    (ofFields fields.reverse).get key = (Value.object fields).get key := by
  rw [ofFields, Value.get, Value.get, Fields.find?_ofList, List.reverse_reverse]

end Shape

/-! ## Fields that may be left out -/

/-- Are the fields, in any order, those that are there? -/
structure MadeOf (expected : List (String × Option Value)) (fields : List (String × Value)) :
    Prop where
  distinct : (fields.map (·.1)).Nodup
  mem_iff : ∀ key value, (key, value) ∈ fields ↔ (key, some value) ∈ expected

namespace MadeOf

variable {expected : List (String × Option Value)} {fields : List (String × Value)}

theorem find?_eq (hmade : MadeOf expected fields) (hdistinct : (expected.map (·.1)).Nodup)
    {entry : String × Option Value} (hmem : entry ∈ expected) :
    Fields.find? entry.1 fields = entry.2 := by
  obtain ⟨key, value?⟩ := entry
  have hother : ∀ other, (key, other) ∈ expected → other = value? := by
    intro other hthere
    exact congrArg Prod.snd (List.inj_on_of_nodup_map hdistinct hthere hmem rfl)
  cases hfind : Fields.find? key fields with
  | some value =>
      exact hother _ ((hmade.mem_iff key value).mp
        ((Fields.find?_eq_some_iff hmade.distinct).mp hfind))
  | none =>
      cases value? with
      | none => rfl
      | some value =>
          have hthere := (Fields.find?_eq_some_iff hmade.distinct).mpr
            ((hmade.mem_iff key value).mpr hmem)
          exact hfind.symm.trans hthere

/-- What stands under a key. -/
theorem get_eq (hmade : MadeOf expected fields) (hdistinct : (expected.map (·.1)).Nodup)
    {entry : String × Option Value} (hmem : entry ∈ expected) :
    (Value.object fields).get entry.1 = entry.2.getD .null := by
  rw [Value.get, hmade.find?_eq hdistinct hmem]

end MadeOf

end BrokerClient.Json
