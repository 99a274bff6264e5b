import BrokerClient.Fields
import Mathlib.Data.String.Basic
import Mathlib.Data.List.Induction

/-!
# Sorted fields

Inserting a field changes what is found under its name and nothing else, so that of two fields with
one name the later stands.  Fields that are in ascending order already stay as they are.
-/

namespace BrokerClient.Fields

variable {α : Type}

theorem find?_cons (key : String) (field : String × α) (fields : List (String × α)) :
    find? key (field :: fields) = if field.1 = key then some field.2 else find? key fields := by
  by_cases h : field.1 = key <;> simp [find?, h]

/-- What is done to all values is done to the one that is found. -/
theorem find?_map {β : Type} (f : α → β) (key : String) (fields : List (String × α)) :
    find? key (fields.map fun field => (field.1, f field.2)) = (find? key fields).map f := by
  induction fields with
  | nil => rfl
  | cons field fields ih =>
      rw [List.map_cons, find?_cons, find?_cons, ih]
      split_ifs <;> rfl

/-- With one field for each name, a value is found under a name if it is in the field. -/
theorem find?_eq_some_iff {key : String} {value : α} {fields : List (String × α)}
    (hdistinct : (fields.map (·.1)).Nodup) :
    find? key fields = some value ↔ (key, value) ∈ fields := by
  induction fields with
  | nil => exact ⟨fun h => (nomatch h), fun h => (nomatch h)⟩
  | cons field fields ih =>
      obtain ⟨name, other⟩ := field
      rw [List.map_cons, List.nodup_cons] at hdistinct
      rw [find?_cons, List.mem_cons, Prod.mk.injEq]
      by_cases hname : name = key
      · subst hname
        have hrest : (name, value) ∉ fields := fun hmem =>
          hdistinct.1 (List.mem_map.mpr ⟨(name, value), hmem, rfl⟩)
        simp [hrest, eq_comm]
      · simp [hname, Ne.symm hname, ih hdistinct.2]

theorem find?_insert (key name : String) (value : α) (fields : List (String × α)) :
    find? key (insert name value fields) = if name = key then some value else find? key fields := by
  induction fields with
  | nil => rw [insert, find?_cons]
  | cons field fields ih =>
      obtain ⟨other, old⟩ := field
      rw [insert]
      by_cases hsame : name = other
      · subst hsame
        rw [if_pos rfl, find?_cons, find?_cons]
        split_ifs <;> rfl
      · rw [if_neg hsame]
        by_cases hless : name < other
        · rw [if_pos hless, find?_cons]
        · rw [if_neg hless, find?_cons, find?_cons, ih]
          by_cases hkey : other = key
          · rw [if_pos hkey, if_pos hkey, if_neg fun h => hsame (h.trans hkey.symm)]
          · rw [if_neg hkey, if_neg hkey]

/-- Of two fields with one name the later stands. -/
theorem find?_ofList (key : String) (fields : List (String × α)) :
    find? key (ofList fields) = find? key fields.reverse := by
  induction fields using List.reverseRecOn with
  | nil => rfl
  | append_singleton fields field ih =>
      have hlast : ofList (fields ++ [field]) = insert field.1 field.2 (ofList fields) := by
        rw [ofList, List.foldl_append]
        rfl
      rw [hlast, find?_insert, ih, List.reverse_append, List.reverse_singleton,
        List.singleton_append, find?_cons]

/-- A field whose name comes after all others goes to the end. -/
theorem insert_of_forall_lt {name : String} (value : α) {fields : List (String × α)}
    (hlt : ∀ field ∈ fields, field.1 < name) : insert name value fields = fields ++ [(name, value)] := by
  induction fields with
  | nil => rfl
  | cons field fields ih =>
      have hfirst : field.1 < name := hlt field List.mem_cons_self
      rw [insert, if_neg hfirst.ne', if_neg hfirst.asymm,
        ih fun other hmem => hlt other (List.mem_cons_of_mem _ hmem), List.cons_append]

/-- Fields in ascending order stay as they are. -/
theorem ofList_of_ascending {fields : List (String × α)}
    (hascending : (fields.map (·.1)).Pairwise (· < ·)) : ofList fields = fields := by
  induction fields using List.reverseRecOn with
  | nil => rfl
  | append_singleton fields field ih =>
      rw [List.map_append, List.pairwise_append] at hascending
      obtain ⟨hbefore, -, hlast⟩ := hascending
      have hlt : ∀ other ∈ fields, other.1 < field.1 := by
        intro other hmem
        exact hlast other.1 (List.mem_map_of_mem hmem) field.1 (List.mem_singleton_self _)
      calc ofList (fields ++ [field]) = insert field.1 field.2 (ofList fields) := by
            rw [ofList, List.foldl_append]
            rfl
        _ = fields ++ [field] := by rw [ih hbefore, insert_of_forall_lt _ hlt]

end BrokerClient.Fields
