import BrokerClient.Json.Print
import BrokerClient.Json.Scan
import BrokerClient.Proofs.Json.Value
import BrokerClient.Proofs.Text.Bytes
import Mathlib.Data.List.Forall2

/-!
# The texts of a value

A value has many texts: between the parts of an array or an object blanks may stand as one likes.
`Spells value text` says that `text` is one of them, with integers and strings in the form in which
they are written and with the fields of an object in their order.  The text without blanks and the
one with an item per line are two of them (`spells_compact`, `spells_pretty`).
-/

namespace BrokerClient.Json

/-- Are there only blanks? -/
def IsGap (gap : Bytes) : Prop :=
  ∀ byte ∈ gap, isGap byte = true

/-- The inside of a bracket from a place on, blanks around its parts and commas between them; `first`
says that no part stands before the place. -/
inductive Listed : Bool → List Bytes → Bytes → Prop
  | done {first : Bool} {gap : Bytes} (hgap : IsGap gap) : Listed first [] gap
  | head {gap part text : Bytes} {parts : List Bytes} (hgap : IsGap gap)
      (hrest : Listed false parts text) : Listed true (part :: parts) (gap ++ (part ++ text))
  | next {before after part text : Bytes} {parts : List Bytes} (hbefore : IsGap before)
      (hafter : IsGap after) (hrest : Listed false parts text) :
      Listed false (part :: parts) (before ++ 0x2C :: (after ++ (part ++ text)))

mutual

/-- Is this a text of the value? -/
inductive Spells : Value → Bytes → Prop
  | null : Spells .null (Bytes.ofString "null")
  | yes : Spells (.bool true) (Bytes.ofString "true")
  | no : Spells (.bool false) (Bytes.ofString "false")
  | int (n : Int) : Spells (.number (.int n)) (Bytes.ofString (toString n))
  | string (text : String) : Spells (.string text) (Bytes.ofString (quote text))
  | array {items : List Value} {parts : List Bytes} {text : Bytes}
      (hparts : List.Forall₂ Spells items parts) (htext : Listed true parts text) :
      Spells (.array items) (0x5B :: (text ++ [0x5D]))
  | object {fields : List (String × Value)} {parts : List Bytes} {text : Bytes}
      (hparts : List.Forall₂ SpellsField fields parts) (htext : Listed true parts text) :
      Spells (.object fields) (0x7B :: (text ++ [0x7D]))

/-- Is this a text of the field, its key and its value with a colon between them? -/
inductive SpellsField : String × Value → Bytes → Prop
  | mk {key : String} {value : Value} {before after text : Bytes} (hbefore : IsGap before)
      (hafter : IsGap after) (hvalue : Spells value text) :
      SpellsField (key, value) (Bytes.ofString (quote key) ++ (before ++ 0x3A :: (after ++ text)))

end

/-- Is the content a text of the value, with blanks around it? -/
def IsTextOf (value : Value) (content : Bytes) : Prop :=
  ∃ before text after, IsGap before ∧ Spells value text ∧ IsGap after ∧
    content = before ++ (text ++ after)

/-! ## Two texts -/

theorem isGap_nil : IsGap [] :=
  fun _ hmem => absurd hmem List.not_mem_nil

theorem Spells.isTextOf {value : Value} {text : Bytes} (hspells : Spells value text) :
    IsTextOf value text :=
  ⟨[], text, [], isGap_nil, hspells, isGap_nil, (List.append_nil text).symm⟩

theorem isGap_empty : IsGap (Bytes.ofString "") :=
  isGap_nil

theorem IsGap.append {first second : String} (hfirst : IsGap (Bytes.ofString first))
    (hsecond : IsGap (Bytes.ofString second)) : IsGap (Bytes.ofString (first ++ second)) := by
  intro byte hmem
  rw [Bytes.ofString_append, List.mem_append] at hmem
  exact hmem.elim (hfirst byte) (hsecond byte)

theorem IsGap.cons {byte : UInt8} {gap : Bytes} (hbyte : isGap byte = true) (hgap : IsGap gap) :
    IsGap (byte :: gap) := by
  intro other hmem
  rcases List.mem_cons.mp hmem with rfl | hrest
  · exact hbyte
  · exact hgap other hrest

theorem isGap_blank : IsGap [0x20] :=
  isGap_nil.cons rfl

theorem isGap_line : IsGap (Bytes.ofString "\n") := by
  show IsGap [0x0A]
  exact isGap_nil.cons rfl

theorem isGap_step : IsGap (Bytes.ofString "  ") := by
  show IsGap [0x20, 0x20]
  exact isGap_blank.cons rfl

/-- Parts that are put together with commas, a gap after each comma and one at the end. -/
theorem listed_intercalate {gap after : String} (hgap : IsGap (Bytes.ofString gap))
    (hafter : IsGap (Bytes.ofString after)) (part : String) (parts : List String) :
    ∃ text, Listed false (parts.map Bytes.ofString) text ∧
      Bytes.ofString (("," ++ gap).intercalate (part :: parts) ++ after) =
        Bytes.ofString part ++ text := by
  induction parts generalizing part with
  | nil =>
      refine ⟨Bytes.ofString after, .done hafter, ?_⟩
      rw [String.intercalate_singleton, Bytes.ofString_append]
  | cons second parts ih =>
      obtain ⟨text, hlisted, heq⟩ := ih second
      refine ⟨_, .next isGap_nil hgap hlisted, ?_⟩
      calc Bytes.ofString (("," ++ gap).intercalate (part :: second :: parts) ++ after)
          = Bytes.ofString part ++ (Bytes.ofString ("," ++ gap) ++
              Bytes.ofString (("," ++ gap).intercalate (second :: parts) ++ after)) := by
            rw [String.intercalate_cons_cons]
            simp only [Bytes.ofString_append, List.append_assoc]
        _ = Bytes.ofString part ++ ([] ++ 0x2C :: (Bytes.ofString gap ++
              (Bytes.ofString second ++ text))) := by
            rw [heq, Bytes.ofString_append]
            rfl

/-- The inside of a bracket with a gap before each part and one after the last. -/
theorem listed_of_parts {gap after : String} (hgap : IsGap (Bytes.ofString gap))
    (hafter : IsGap (Bytes.ofString after)) {parts : List String} (hsome : parts ≠ []) :
    Listed true (parts.map Bytes.ofString)
      (Bytes.ofString (gap ++ ("," ++ gap).intercalate parts ++ after)) := by
  obtain ⟨part, parts, rfl⟩ := List.exists_cons_of_ne_nil hsome
  obtain ⟨text, hlisted, heq⟩ := listed_intercalate hgap hafter part parts
  rw [String.append_assoc, Bytes.ofString_append, heq]
  exact .head hgap hlisted

/-- The inside of a bracket without any blank. -/
theorem listed_compact (parts : List String) :
    Listed true (parts.map Bytes.ofString) (Bytes.ofString (",".intercalate parts)) := by
  by_cases hnone : parts = []
  · subst hnone
    exact .done isGap_empty
  · have hlisted := listed_of_parts isGap_empty isGap_empty hnone
    rwa [String.empty_append, String.append_empty, String.append_empty] at hlisted

/-- A block between two brackets. -/
theorem listed_block {indent : String} (hindent : IsGap (Bytes.ofString indent))
    (opening closing : String) (parts : List String) :
    ∃ text, Listed true (parts.map Bytes.ofString) text ∧
      Bytes.ofString (block indent opening closing parts) =
        Bytes.ofString opening ++ (text ++ Bytes.ofString closing) := by
  by_cases hnone : parts = []
  · subst hnone
    exact ⟨[], .done isGap_nil, by simp [block, Bytes.ofString_append]⟩
  · have hline : IsGap (Bytes.ofString ("\n" ++ indent)) := isGap_line.append hindent
    refine ⟨_, listed_of_parts (hline.append isGap_step) hline hnone, ?_⟩
    have hsome : parts.isEmpty = false := by simpa using hnone
    simp [block, hsome, Bytes.ofString_append]

theorem compactItems_eq (items : List Value) : compactItems items = items.map Value.compact := by
  induction items with
  | nil => rfl
  | cons item items ih => rw [compactItems, ih, List.map_cons]

theorem compactFields_eq (fields : List (String × Value)) :
    compactFields fields = fields.map fun field => quote field.1 ++ ":" ++ field.2.compact := by
  induction fields with
  | nil => rfl
  | cons field fields ih => rw [compactFields, ih, List.map_cons]

theorem prettyItems_eq (indent : String) (items : List Value) :
    prettyItems indent items = items.map (Value.prettyFrom indent) := by
  induction items with
  | nil => rfl
  | cons item items ih => rw [prettyItems, ih, List.map_cons]

theorem prettyFields_eq (indent : String) (fields : List (String × Value)) :
    prettyFields indent fields =
      fields.map fun field => quote field.1 ++ ": " ++ field.2.prettyFrom indent := by
  induction fields with
  | nil => rfl
  | cons field fields ih => rw [prettyFields, ih, List.map_cons]

/-- A field with a colon, and the blanks after it, between the key and the value. -/
theorem spellsField_of_append {field : String × Value} (colon : String) {text : String}
    {gap : Bytes} (hcolon : Bytes.ofString colon = 0x3A :: gap) (hgap : IsGap gap)
    (hvalue : Spells field.2 (Bytes.ofString text)) :
    SpellsField field (Bytes.ofString (quote field.1 ++ colon ++ text)) := by
  have heq : Bytes.ofString (quote field.1 ++ colon ++ text) =
      Bytes.ofString (quote field.1) ++ ([] ++ 0x3A :: (gap ++ Bytes.ofString text)) := by
    rw [Bytes.ofString_append, Bytes.ofString_append, hcolon, List.append_assoc]
    rfl
  rw [heq]
  exact .mk isGap_nil hgap hvalue

/-- If each value has the text that a writer gives it, the values have the texts in order. -/
theorem forall₂_texts {α : Type} {spells : α → Bytes → Prop} {write : α → String} {values : List α}
    (hvalues : ∀ value ∈ values, spells value (Bytes.ofString (write value))) :
    List.Forall₂ spells values ((values.map write).map Bytes.ofString) := by
  rw [List.map_map, List.forall₂_map_right_iff, List.forall₂_same]
  exact hvalues

theorem ofString_bracketed {opening closing : String} {first last : UInt8}
    (hopening : Bytes.ofString opening = [first]) (hclosing : Bytes.ofString closing = [last])
    (inside : String) :
    Bytes.ofString (opening ++ inside ++ closing) = first :: (Bytes.ofString inside ++ [last]) := by
  rw [Bytes.ofString_append, Bytes.ofString_append, hopening, hclosing]
  rfl

/-- The text of a value without blanks. -/
theorem spells_compact {value : Value} (hfree : value.FloatFree) :
    Spells value (Bytes.ofString value.compact) := by
  induction value using Value.induct with
  | null => exact .null
  | bool b => cases b <;> constructor
  | number n =>
      obtain ⟨i, rfl⟩ := hfree.int
      exact .int i
  | string text => exact .string text
  | array items ih =>
      have hparts := forall₂_texts fun item hitem => ih item hitem (hfree.item hitem)
      rw [Value.compact, compactItems_eq, ofString_bracketed rfl rfl]
      exact .array hparts (listed_compact _)
  | object fields ih =>
      have hparts := forall₂_texts fun field hfield =>
        spellsField_of_append ":" rfl isGap_nil (ih field hfield (hfree.field hfield))
      rw [Value.compact, compactFields_eq, ofString_bracketed rfl rfl]
      exact .object hparts (listed_compact _)

/-- The text of a value with an item per line, after an indent. -/
theorem spells_prettyFrom {value : Value} (hfree : value.FloatFree) {indent : String}
    (hindent : IsGap (Bytes.ofString indent)) :
    Spells value (Bytes.ofString (value.prettyFrom indent)) := by
  induction value using Value.induct generalizing indent with
  | null => exact .null
  | bool b => cases b <;> constructor
  | number n =>
      obtain ⟨i, rfl⟩ := hfree.int
      exact .int i
  | string text => exact .string text
  | array items ih =>
      have hinner : IsGap (Bytes.ofString (indent ++ "  ")) := hindent.append isGap_step
      have hparts := forall₂_texts fun item hitem => ih item hitem (hfree.item hitem) hinner
      rw [Value.prettyFrom, prettyItems_eq]
      obtain ⟨text, hlisted, heq⟩ := listed_block hindent "[" "]"
        (items.map (Value.prettyFrom (indent ++ "  ")))
      rw [heq]
      exact .array hparts hlisted
  | object fields ih =>
      have hinner : IsGap (Bytes.ofString (indent ++ "  ")) := hindent.append isGap_step
      have hparts := forall₂_texts fun field hfield =>
        spellsField_of_append ": " rfl isGap_blank
          (ih field hfield (hfree.field hfield) hinner)
      rw [Value.prettyFrom, prettyFields_eq]
      obtain ⟨text, hlisted, heq⟩ := listed_block hindent "\x7b" "\x7d"
        (fields.map fun field => quote field.1 ++ ": " ++ field.2.prettyFrom (indent ++ "  "))
      rw [heq]
      exact .object hparts hlisted

@[inherit_doc spells_prettyFrom]
theorem spells_pretty {value : Value} (hfree : value.FloatFree) :
    Spells value (Bytes.ofString value.pretty) :=
  spells_prettyFrom hfree isGap_empty

end BrokerClient.Json
