import BrokerClient.Json.Basic
import Mathlib.Data.List.Basic

/-!
# Values and what is inside them

Induction over a value through its items and fields, the list of all values inside a value, and how
deep they lie.  A value is well formed if its integers have 64 bits, with a sign or without, and its
objects keep their fields in ascending order, one for each key.
-/

namespace BrokerClient.Json

/-- Induction over a value, its items and its fields. -/
@[elab_as_elim]
theorem Value.induct {motive : Value → Prop} (null : motive .null)
    (bool : ∀ b, motive (.bool b)) (number : ∀ n, motive (.number n))
    (string : ∀ text, motive (.string text))
    (array : ∀ items, (∀ item ∈ items, motive item) → motive (.array items))
    (object : ∀ fields, (∀ field ∈ fields, motive field.2) → motive (.object fields)) :
    ∀ value, motive value
  | .null => null
  | .bool b => bool b
  | .number n => number n
  | .string text => string text
  | .array items =>
      array items fun item _ => Value.induct null bool number string array object item
  | .object fields =>
      object fields fun field _ => Value.induct null bool number string array object field.2
termination_by value => sizeOf value
decreasing_by
  · have hlt := List.sizeOf_lt_of_mem ‹item ∈ items›
    simp only [Value.array.sizeOf_spec]
    omega
  · have hlt := List.sizeOf_lt_of_mem ‹field ∈ fields›
    have hvalue : sizeOf field.2 < sizeOf field := by
      cases field
      simp only [Prod.mk.sizeOf_spec]
      omega
    simp only [Value.object.sizeOf_spec]
    omega

/-! ## The values inside -/

mutual

/-- The value and all values inside it. -/
def Value.parts : Value → List Value
  | .array items => .array items :: itemParts items
  | .object fields => .object fields :: fieldParts fields
  | value => [value]

def itemParts : List Value → List Value
  | [] => []
  | item :: rest => item.parts ++ itemParts rest

def fieldParts : List (String × Value) → List Value
  | [] => []
  | (_, value) :: rest => value.parts ++ fieldParts rest

end

theorem Value.self_mem_parts (value : Value) : value ∈ value.parts := by
  cases value <;> simp [Value.parts]

theorem mem_itemParts {part : Value} {items : List Value} :
    part ∈ itemParts items ↔ ∃ item ∈ items, part ∈ item.parts := by
  induction items with
  | nil => simp [itemParts]
  | cons first rest ih => simp [itemParts, ih]

theorem mem_fieldParts {part : Value} {fields : List (String × Value)} :
    part ∈ fieldParts fields ↔ ∃ field ∈ fields, part ∈ field.2.parts := by
  induction fields with
  | nil => simp [fieldParts]
  | cons first rest ih => simp [fieldParts, ih]

mutual

/-- The number of arrays and objects that the value nests. -/
def Value.depth : Value → Nat
  | .array items => itemsDepth items + 1
  | .object fields => fieldsDepth fields + 1
  | _ => 0

def itemsDepth : List Value → Nat
  | [] => 0
  | item :: rest => max item.depth (itemsDepth rest)

def fieldsDepth : List (String × Value) → Nat
  | [] => 0
  | (_, value) :: rest => max value.depth (fieldsDepth rest)

end

theorem depth_le_itemsDepth {item : Value} {items : List Value} (hitem : item ∈ items) :
    item.depth ≤ itemsDepth items := by
  induction items with
  | nil => exact absurd hitem List.not_mem_nil
  | cons first rest ih =>
      rw [itemsDepth]
      rcases List.mem_cons.mp hitem with rfl | hrest
      · exact Nat.le_max_left _ _
      · exact Nat.le_trans (ih hrest) (Nat.le_max_right _ _)

theorem depth_le_fieldsDepth {field : String × Value} {fields : List (String × Value)}
    (hfield : field ∈ fields) : field.2.depth ≤ fieldsDepth fields := by
  induction fields with
  | nil => exact absurd hfield List.not_mem_nil
  | cons first rest ih =>
      rw [fieldsDepth]
      rcases List.mem_cons.mp hfield with rfl | hrest
      · exact Nat.le_max_left _ _
      · exact Nat.le_trans (ih hrest) (Nat.le_max_right _ _)

/-! ## Well-formed values -/

/-- Has the integer 64 bits, with a sign or without? -/
def fitsWord (n : Int) : Prop :=
  -0x8000000000000000 ≤ n ∧ n < 0x10000000000000000

instance (n : Int) : Decidable (fitsWord n) :=
  inferInstanceAs (Decidable (_ ∧ _))

/-- Is the value itself well formed, whatever the values inside it are? -/
def Value.IsSound : Value → Prop
  | .number (.int n) => fitsWord n
  | .object fields => (fields.map (·.1)).Pairwise (· < ·)
  | _ => True

/-- Are the value and all values inside it well formed? -/
def Value.WellFormed (value : Value) : Prop :=
  ∀ part ∈ value.parts, part.IsSound

/-- Is there no double in the value? -/
def Value.FloatFree (value : Value) : Prop :=
  ∀ part ∈ value.parts, ∀ x, part ≠ .number (.float x)

section Inside

variable {items : List Value} {first : Value} {fields : List (String × Value)}
  {entry : String × Value}

theorem Value.WellFormed.item (hsound : (Value.array items).WellFormed) (hitem : first ∈ items) :
    first.WellFormed :=
  fun part hpart =>
    hsound part (List.mem_cons_of_mem _ (mem_itemParts.mpr ⟨first, hitem, hpart⟩))

theorem Value.WellFormed.field (hsound : (Value.object fields).WellFormed)
    (hfield : entry ∈ fields) : entry.2.WellFormed :=
  fun part hpart =>
    hsound part (List.mem_cons_of_mem _ (mem_fieldParts.mpr ⟨entry, hfield, hpart⟩))

theorem Value.WellFormed.ascending (hsound : (Value.object fields).WellFormed) :
    (fields.map (·.1)).Pairwise (· < ·) :=
  hsound _ (Value.self_mem_parts _)

theorem Value.WellFormed.fits {n : Int} (hsound : (Value.number (.int n)).WellFormed) :
    fitsWord n :=
  hsound _ (Value.self_mem_parts _)

theorem Value.FloatFree.item (hfree : (Value.array items).FloatFree) (hitem : first ∈ items) :
    first.FloatFree :=
  fun part hpart =>
    hfree part (List.mem_cons_of_mem _ (mem_itemParts.mpr ⟨first, hitem, hpart⟩))

theorem Value.FloatFree.field (hfree : (Value.object fields).FloatFree) (hfield : entry ∈ fields) :
    entry.2.FloatFree :=
  fun part hpart =>
    hfree part (List.mem_cons_of_mem _ (mem_fieldParts.mpr ⟨entry, hfield, hpart⟩))

theorem Value.wellFormed_object (hascending : (fields.map (·.1)).Pairwise (· < ·))
    (hfields : ∀ field ∈ fields, field.2.WellFormed) : (Value.object fields).WellFormed := by
  intro part hpart
  rcases List.mem_cons.mp hpart with rfl | hinside
  · exact hascending
  · obtain ⟨field, hfield, hmem⟩ := mem_fieldParts.mp hinside
    exact hfields field hfield part hmem

theorem Value.floatFree_string (text : String) : (Value.string text).FloatFree := by
  simp [Value.FloatFree, Value.parts]

theorem Value.floatFree_bool (b : Bool) : (Value.bool b).FloatFree := by
  simp [Value.FloatFree, Value.parts]

theorem Value.floatFree_ofNat (n : Nat) : (Value.ofNat n).FloatFree := by
  simp [Value.FloatFree, Value.parts, Value.ofNat]

theorem Value.floatFree_array (hitems : ∀ item ∈ items, item.FloatFree) :
    (Value.array items).FloatFree := by
  intro part hpart x
  rcases List.mem_cons.mp hpart with rfl | hinside
  · exact fun h => nomatch h
  · obtain ⟨item, hitem, hmem⟩ := mem_itemParts.mp hinside
    exact hitems item hitem part hmem x

theorem Value.floatFree_object (hfields : ∀ field ∈ fields, field.2.FloatFree) :
    (Value.object fields).FloatFree := by
  intro part hpart x
  rcases List.mem_cons.mp hpart with rfl | hinside
  · exact fun h => nomatch h
  · obtain ⟨field, hfield, hmem⟩ := mem_fieldParts.mp hinside
    exact hfields field hfield part hmem x

/-- A number that is no double is an integer. -/
theorem Value.FloatFree.int {n : Number} (hfree : (Value.number n).FloatFree) :
    ∃ i, n = .int i := by
  cases n with
  | int i => exact ⟨i, rfl⟩
  | float x => exact absurd rfl (hfree _ (Value.self_mem_parts _) x)

end Inside

end BrokerClient.Json
