import BrokerClient.Proofs.Json.Shapes

/-!
# How deep a text may nest

A reader that may go so deep takes every text of a value that lies no deeper (`readAny_takes`).
The texts of all other values it refuses, at the first bracket that lies too deep, whatever stands
before and after (`readAny_refuses`).  So a value can be read back from its texts exactly if it
nests no more than `Shape.depthLimit` arrays and objects (`Shape.any_ofBytes?_eq_ok_iff`).
-/

namespace BrokerClient.Json

/-- A reader stops with the fault at every text that starts with `text`, whatever blanks stand
before it, as long as nothing after it lengthens a number. -/
def Refuses (read : Bytes → Except ReadError (Value × Bytes)) (text : Bytes) (fault : Fault) :
    Prop :=
  ∀ gap rest, IsGap gap → endsNumber rest = true →
    ∃ left, read (gap ++ (text ++ rest)) = .error ⟨fault, left⟩

section TooDeep

variable {depth : Nat}

/-- The items up to the first that lies too deep are taken, and that one is refused. -/
theorem readItems_refuses {items : List Value} {parts : List Bytes}
    (hparts : List.Forall₂ Spells items parts) (hsound : ∀ item ∈ items, item.WellFormed)
    (hrefused : ∀ item ∈ items, ∀ text, Spells item text → depth < item.depth →
      Refuses (readAny depth) text .recursionLimit)
    (hdeep : depth < itemsDepth items) {first : Bool} {text : Bytes}
    (hlisted : Listed first parts text) (rest : Bytes) {turns : Nat}
    (hturns : parts.length < turns) :
    ∃ left, readItems (readAny depth) turns first (text ++ 0x5D :: rest) =
      .error ⟨.recursionLimit, left⟩ := by
  induction hparts generalizing first text turns with
  | nil => exact absurd hdeep (Nat.not_lt_zero _)
  | @cons item part items parts hpart hparts ih =>
      obtain ⟨turns, rfl⟩ : ∃ more, turns = more + 1 := ⟨turns - 1, by omega⟩
      have hfewer : parts.length < turns := by simpa using hturns
      obtain ⟨more, hnext, hrest⟩ := hlisted.nextItem hpart.startsPart (0x5D :: rest)
      have hends := hrest.endsNumber (endsNumber_close rest).1
      rw [readItems, hnext]
      by_cases hitem : depth < item.depth
      · obtain ⟨left, hread⟩ :=
          hrefused item List.mem_cons_self part hpart hitem [] _ isGap_nil hends
        rw [List.nil_append] at hread
        exact ⟨left, by simp [bind, Except.bind, hread]⟩
      · -- the item is taken, so the one that lies too deep comes later
        have hread := readAny_takes hpart (hsound item List.mem_cons_self) (Nat.le_of_not_lt hitem)
          [] _ isGap_nil hends
        rw [List.nil_append] at hread
        have hlater : depth < itemsDepth items := by
          rw [itemsDepth] at hdeep
          omega
        obtain ⟨left, hmore⟩ := ih (fun other hmem => hsound other (List.mem_cons_of_mem _ hmem))
          (fun other hmem => hrefused other (List.mem_cons_of_mem _ hmem)) hlater hrest
          hfewer
        exact ⟨left, by simp [bind, Except.bind, hread, hmore]⟩

/-- The fields up to the first whose value lies too deep are taken, and that value is refused. -/
theorem readEntries_refuses {fields : List (String × Value)} {parts : List Bytes}
    (hparts : List.Forall₂ SpellsField fields parts)
    (hsound : ∀ field ∈ fields, field.2.WellFormed)
    (hrefused : ∀ field ∈ fields, ∀ text, Spells field.2 text → depth < field.2.depth →
      Refuses (readAny depth) text .recursionLimit)
    (hdeep : depth < fieldsDepth fields) {first : Bool} {text : Bytes}
    (hlisted : Listed first parts text) (sorted : List (String × Value)) (rest : Bytes)
    {turns : Nat} (hturns : parts.length < turns) :
    ∃ left, readEntries (readAny depth) turns first sorted (text ++ 0x7D :: rest) =
      .error ⟨.recursionLimit, left⟩ := by
  induction hparts generalizing first text sorted turns with
  | nil => exact absurd hdeep (Nat.not_lt_zero _)
  | @cons field part fields parts hpart hparts ih =>
      obtain ⟨turns, rfl⟩ : ∃ more, turns = more + 1 := ⟨turns - 1, by omega⟩
      have hfewer : parts.length < turns := by simpa using hturns
      obtain ⟨colon, gap, value, more, hkey, hcolon, hgap, hvalue, hrest⟩ :=
        hlisted.nextKey hpart (0x7D :: rest)
      have hends := hrest.endsNumber (endsNumber_close rest).2
      rw [readEntries, hkey]
      by_cases hfield : depth < field.2.depth
      · obtain ⟨left, hread⟩ :=
          hrefused field List.mem_cons_self value hvalue hfield gap _ hgap hends
        exact ⟨left, by simp [bind, Except.bind, hcolon, hread]⟩
      · have hread := readAny_takes hvalue (hsound field List.mem_cons_self)
          (Nat.le_of_not_lt hfield) gap _ hgap hends
        have hlater : depth < fieldsDepth fields := by
          rw [fieldsDepth] at hdeep
          omega
        obtain ⟨left, hmore⟩ := ih (fun other hmem => hsound other (List.mem_cons_of_mem _ hmem))
          (fun other hmem => hrefused other (List.mem_cons_of_mem _ hmem)) hlater hrest
          (Fields.insert field.1 field.2 sorted) hfewer
        exact ⟨left, by simp [bind, Except.bind, hcolon, hread, hmore]⟩

/-- A reader that may not go as deep as a value refuses all its texts. -/
theorem readAny_refuses {value : Value} {text : Bytes} (hspells : Spells value text)
    (hsound : value.WellFormed) (hdeep : depth < value.depth) :
    Refuses (readAny depth) text .recursionLimit := by
  induction value using Value.induct generalizing text depth with
  | array items ih =>
      intro gap rest hgap hends
      cases hspells with
      | @array _ parts inside hparts hlisted =>
          cases depth with
          | zero =>
              rw [readAny, List.cons_append, skipGap_to hgap rfl]
              exact ⟨_, rfl⟩
          | succ depth =>
              have hinside : depth < itemsDepth items := Nat.lt_of_succ_lt_succ hdeep
              obtain ⟨left, hread⟩ := readItems_refuses hparts (fun _ hmem => hsound.item hmem)
                (fun item hmem _ hitem => ih item hmem hitem (hsound.item hmem)) hinside hlisted
                rest (hlisted.length_lt [] rest 0x5B 0x5D)
              refine ⟨left, ?_⟩
              rw [readAny, List.cons_append, List.append_assoc, skipGap_to hgap rfl]
              show listWith (readAny depth) (0x5B :: (inside ++ 0x5D :: rest)) = _
              rw [listWith, List.drop_one, List.tail_cons]
              exact congrArg (· >>= _) hread
  | object fields ih =>
      intro gap rest hgap hends
      cases hspells with
      | @object _ parts inside hparts hlisted =>
          cases depth with
          | zero =>
              rw [readAny, List.cons_append, skipGap_to hgap rfl]
              exact ⟨_, rfl⟩
          | succ depth =>
              have hinside : depth < fieldsDepth fields := Nat.lt_of_succ_lt_succ hdeep
              obtain ⟨left, hread⟩ := readEntries_refuses hparts (fun _ hmem => hsound.field hmem)
                (fun field hmem _ hvalue => ih field hmem hvalue (hsound.field hmem)) hinside
                hlisted [] rest (hlisted.length_lt [] rest 0x7B 0x7D)
              refine ⟨left, ?_⟩
              rw [readAny, List.cons_append, List.append_assoc, skipGap_to hgap rfl]
              show objectWith (readAny depth) (0x7B :: (inside ++ 0x7D :: rest)) = _
              rw [objectWith, List.drop_one, List.tail_cons]
              exact congrArg (· >>= _) hread
  | _ => exact absurd hdeep (Nat.not_lt_zero _)

end TooDeep

namespace Shape

theorem any_accepts {value : Value} (hsound : value.WellFormed) {depth : Nat}
    (hdepth : value.depth ≤ depth) : any.Accepts depth value value :=
  fun _ hspells => readAny_takes hspells hsound hdepth

/-- A text of a value that nests too deep is refused for that reason. -/
theorem any_ofBytes?_of_deep {value : Value} {content : Bytes} (hcontent : IsTextOf value content)
    (hsound : value.WellFormed) (hdeep : depthLimit < value.depth) :
    ∃ e, any.ofBytes? content = .error e ∧ e.fault = .recursionLimit := by
  obtain ⟨before, text, after, hbefore, hspells, hafter, rfl⟩ := hcontent
  obtain ⟨left, hread⟩ : ∃ left, any.read depthLimit (before ++ (text ++ after)) =
      .error ⟨.recursionLimit, left⟩ :=
    readAny_refuses hspells hsound hdeep before after hbefore hafter.endsNumber_end
  refine ⟨ReadError.placedIn (before ++ (text ++ after)) ⟨.recursionLimit, left⟩, ?_, rfl⟩
  rw [ofBytes?, readAll, hread]
  rfl

/-- A value is read back from its texts exactly if it does not nest too deep. -/
theorem any_ofBytes?_eq_ok_iff {value : Value} {content : Bytes} (hcontent : IsTextOf value content)
    (hsound : value.WellFormed) :
    any.ofBytes? content = .ok value ↔ value.depth ≤ depthLimit := by
  constructor
  · intro hread
    by_contra hdeep
    obtain ⟨e, herror, -⟩ := any_ofBytes?_of_deep hcontent hsound (Nat.lt_of_not_le hdeep)
    exact nomatch hread.symm.trans herror
  · intro hdepth
    exact ofBytes?_of_accepts (any_accepts hsound hdepth) hcontent

end Shape

end BrokerClient.Json
