import BrokerClient.Endpoint
import Mathlib.Data.List.TakeWhile

/-!
# Texts that are not blank

A text that is trimmed and not empty has a character that is no white space, and so has every entry of
a list of endpoints.  A list has no entry at all exactly if there is nothing in it but white space and
commas.
-/

namespace BrokerClient

namespace Text

/-- Has the text a character that is no white space? -/
def HasInk (text : String) : Prop :=
  ∃ c ∈ text.toList, isBlank c = false

theorem hasInk_iff {text : String} : HasInk text ↔ allBlank text = false := by
  simp [HasInk, allBlank]

instance (text : String) : Decidable (HasInk text) :=
  decidable_of_iff _ hasInk_iff.symm

/-- A trimmed text that is not empty ends in a character that is no white space. -/
theorem exists_of_trimChars_ne_nil {chars : List Char} (hsome : trimChars chars ≠ []) :
    ∃ c ∈ trimChars chars, isBlank c = false := by
  rw [trimChars, ne_eq, List.reverse_eq_nil_iff] at hsome
  refine ⟨List.head _ hsome, ?_, ?_⟩
  · rw [trimChars, List.mem_reverse]
    exact List.head_mem hsome
  · exact List.head_dropWhile_not isBlank hsome

theorem mem_of_mem_trimChars {c : Char} {chars : List Char} (hmem : c ∈ trimChars chars) :
    c ∈ chars := by
  rw [trimChars, List.mem_reverse] at hmem
  exact (List.dropWhile_sublist _).subset (List.mem_reverse.mp ((List.dropWhile_sublist _).subset hmem))

/-- Nothing is left of a text if there is nothing in it but white space. -/
theorem trimChars_eq_nil {chars : List Char} :
    trimChars chars = [] ↔ ∀ c ∈ chars, isBlank c = true := by
  constructor
  · intro hnil
    rw [trimChars, List.reverse_eq_nil_iff, List.dropWhile_eq_nil_iff] at hnil
    -- what the first cut leaves would begin with a character that is not blank
    have hcut : chars.dropWhile isBlank = [] := by
      by_contra hsome
      have hhead := hnil _ (List.mem_reverse.mpr (List.head_mem hsome))
      exact Bool.false_ne_true ((List.head_dropWhile_not isBlank hsome).symm.trans hhead)
    exact List.dropWhile_eq_nil_iff.mp hcut
  · intro hblank
    by_contra hsome
    obtain ⟨c, hmem, hink⟩ := exists_of_trimChars_ne_nil hsome
    exact Bool.false_ne_true (hink.symm.trans (hblank c (mem_of_mem_trimChars hmem)))

/-- The characters of the pieces are those of the text but the separators. -/
theorem forall_mem_splitChars {separator : Char} {P : Char → Prop} (chars : List Char) :
    (∀ piece ∈ splitChars separator chars, ∀ c ∈ piece, P c) ↔
      ∀ c ∈ chars, c = separator ∨ P c := by
  induction chars with
  | nil => simp [splitChars]
  | cons c rest ih =>
      rw [List.forall_mem_cons, ← ih, splitChars]
      by_cases hseparator : c = separator
      · simp [hseparator]
      · rw [if_neg hseparator, or_iff_right hseparator]
        cases splitChars separator rest with
        | nil => simp
        | cons piece pieces => simp [and_assoc]

end Text

/-- The entries of a list of endpoints are not blank. -/
theorem Endpoint.hasInk_of_mem_parseList {text entry : String} (hmem : entry ∈ parseList text) :
    Text.HasInk entry := by
  obtain ⟨chars, hchars, rfl⟩ := List.mem_map.mp hmem
  obtain ⟨hpiece, hsome⟩ := List.mem_filter.mp hchars
  obtain ⟨piece, -, rfl⟩ := List.mem_map.mp hpiece
  rw [Text.HasInk, String.toList_ofList]
  exact Text.exists_of_trimChars_ne_nil (by simpa using hsome)

/-- A list has no entry if there is nothing in it but white space and commas. -/
theorem Endpoint.parseList_eq_nil {text : String} :
    parseList text = [] ↔ ∀ c ∈ text.toList, c = ',' ∨ Text.isBlank c = true := by
  rw [parseList, List.map_eq_nil_iff, parseChars, List.filter_eq_nil_iff, List.forall_mem_map,
    ← Text.forall_mem_splitChars]
  refine forall₂_congr fun piece _ => ?_
  rw [← Text.trimChars_eq_nil]
  simp

end BrokerClient
