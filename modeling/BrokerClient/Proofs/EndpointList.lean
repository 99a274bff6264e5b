import BrokerClient.Proofs.Text.Blank
import Mathlib.Data.List.DropRight

/-!
# Several endpoints in one text

A text lists endpoints if these stand in it in order with commas between them.  White space may
stand around an endpoint, and entries that are blank may stand anywhere.  Each text lists exactly one
list of endpoints, the one that is read from it (`Endpoint.listSyntax`); a comma between two texts
puts their lists one after the other.
-/

namespace BrokerClient

namespace Text

/-! ## Splitting and trimming -/

theorem splitChars_eq_splitOn (separator : Char) (chars : List Char) :
    splitChars separator chars = chars.splitOn separator := by
  induction chars with
  | nil => rfl
  | cons c rest ih =>
      rw [splitChars, List.splitOn_cons_eq_if_modifyHead, ih]
      by_cases hseparator : c = separator
      · simp [hseparator]
      · rw [if_neg hseparator, if_neg (by simpa using hseparator)]
        cases hpieces : rest.splitOn separator with
        | nil => exact absurd hpieces (List.splitOn_ne_nil separator rest)
        | cons piece pieces => rfl

/-- Is there no white space at either end? -/
def IsTrimmed (chars : List Char) : Prop :=
  (∀ c ∈ chars.head?, isBlank c = false) ∧ ∀ c ∈ chars.getLast?, isBlank c = false

theorem trimChars_eq_rdropWhile (chars : List Char) :
    trimChars chars = (chars.dropWhile isBlank).rdropWhile isBlank :=
  rfl

theorem isTrimmed_trimChars (chars : List Char) : IsTrimmed (trimChars chars) := by
  rw [trimChars_eq_rdropWhile]
  constructor
  · -- what is cut off the end leaves the first character
    intro c hc
    obtain ⟨cut, hcut⟩ := List.rdropWhile_prefix isBlank (chars.dropWhile isBlank)
    have hfirst : (chars.dropWhile isBlank).head? = some c := by
      rw [← hcut, List.head?_append, hc, Option.some_or]
    have hhead := List.head?_dropWhile_not isBlank chars
    rw [hfirst] at hhead
    simpa using hhead
  · intro c hc
    obtain ⟨hsome, rfl⟩ := List.mem_getLast?_eq_getLast hc
    simpa using List.rdropWhile_last_not isBlank _ hsome

/-- White space around a trimmed text is cut off again. -/
theorem trimChars_padded {before entry after : List Char} (hbefore : ∀ c ∈ before, isBlank c = true)
    (htrimmed : IsTrimmed entry) (hafter : ∀ c ∈ after, isBlank c = true) :
    trimChars (before ++ entry ++ after) = entry := by
  have hfront : (before ++ entry ++ after).dropWhile isBlank =
      (entry ++ after).dropWhile isBlank := by
    rw [List.append_assoc, List.dropWhile_append_of_pos hbefore]
  rw [trimChars, hfront]
  cases entry with
  | nil => rw [List.nil_append, List.dropWhile_eq_nil_iff.mpr hafter]; rfl
  | cons c rest =>
      have hfirst : ¬ isBlank c = true := by simpa using htrimmed.1 c rfl
      have hlast : (c :: rest).rdropWhile isBlank = c :: rest := by
        rw [List.rdropWhile_eq_self_iff]
        intro hsome
        simpa using htrimmed.2 _ (List.getLast?_eq_some_getLast hsome)
      rw [List.cons_append, List.dropWhile_cons_of_neg hfirst, ← List.cons_append,
        List.reverse_append, List.dropWhile_append_of_pos (by simpa using hafter)]
      exact hlast

/-- A text is what trimming leaves of it with white space around. -/
theorem exists_padding (chars : List Char) :
    ∃ before after : List Char, (∀ c ∈ before, isBlank c = true) ∧ (∀ c ∈ after, isBlank c = true) ∧
      chars = before ++ trimChars chars ++ after := by
  refine ⟨chars.takeWhile isBlank, (chars.dropWhile isBlank).rtakeWhile isBlank,
    fun c hc => List.mem_takeWhile_imp hc, fun c hc => List.mem_rtakeWhile_imp hc, ?_⟩
  rw [trimChars_eq_rdropWhile, List.append_assoc, List.rdropWhile_append_rtakeWhile,
    List.takeWhile_append_dropWhile]

end Text

namespace Endpoint

/-! ## Lists -/

/-- Can the text be an entry of a list?  It is not empty, and neither a comma is in it nor white
space at its ends. -/
structure IsEntry (entry : String) : Prop where
  ne_empty : entry ≠ ""
  no_comma : ',' ∉ entry.toList
  trimmed : Text.IsTrimmed entry.toList

/-- `Pieces entries pieces` says that `pieces`, the texts between the commas, are the entries in
order, each with any white space around it, and any blank texts between them. -/
inductive Pieces : List String → List String → Prop
  | nil : Pieces [] []
  | blank {entries pieces : List String} {piece : String} :
      Text.allBlank piece = true → Pieces entries pieces → Pieces entries (piece :: pieces)
  | entry {entries pieces : List String} {before entry after : String} :
      Text.allBlank before = true → Text.allBlank after = true → Pieces entries pieces →
      Pieces (entry :: entries) ((before ++ entry ++ after) :: pieces)

/-- Does the text list the entries? -/
def Lists (text : String) (entries : List String) : Prop :=
  ∃ pieces, Pieces entries pieces ∧ text = Text.join "," pieces

/-- The entries among the pieces between commas. -/
def entriesOf (pieces : List (List Char)) : List String :=
  ((pieces.map Text.trimChars).filter fun entry => !entry.isEmpty).map String.ofList

theorem parseList_eq (text : String) : parseList text = entriesOf (text.toList.splitOn ',') := by
  rw [parseList, parseChars, Text.splitChars_eq_splitOn, entriesOf]

theorem entriesOf_append (first second : List (List Char)) :
    entriesOf (first ++ second) = entriesOf first ++ entriesOf second := by
  simp [entriesOf]

theorem entriesOf_cons (piece : List Char) (pieces : List (List Char)) :
    entriesOf (piece :: pieces) =
      if Text.trimChars piece = [] then entriesOf pieces
      else String.ofList (Text.trimChars piece) :: entriesOf pieces := by
  by_cases hblank : Text.trimChars piece = []
  · simp [entriesOf, hblank]
  · simp [entriesOf, hblank]

/-- A comma between two texts puts their lists one after the other. -/
theorem parseList_append (first second : String) :
    parseList (first ++ "," ++ second) = parseList first ++ parseList second := by
  have hcomma : (first ++ "," ++ second).toList = first.toList ++ ',' :: second.toList := by simp
  rw [parseList_eq, hcomma, List.splitOn_append_cons_self, entriesOf_append, ← parseList_eq,
    ← parseList_eq]

/-- What is read from a list can be an entry. -/
theorem isEntry_of_mem_parseList {text entry : String} (hmem : entry ∈ parseList text) :
    IsEntry entry := by
  rw [parseList_eq, entriesOf] at hmem
  obtain ⟨chars, hchars, rfl⟩ := List.mem_map.mp hmem
  obtain ⟨htrimmed, hsome⟩ := List.mem_filter.mp hchars
  obtain ⟨piece, hpiece, rfl⟩ := List.mem_map.mp htrimmed
  refine ⟨by simpa using hsome, ?_, ?_⟩
  · have hpieces : ∀ piece ∈ Text.splitChars ',' text.toList, ∀ c ∈ piece, c ≠ ',' :=
      (Text.forall_mem_splitChars _).mpr fun c _ => eq_or_ne c ','
    rw [← Text.splitChars_eq_splitOn] at hpiece
    rw [String.toList_ofList]
    intro hcomma
    exact hpieces piece hpiece ',' (Text.mem_of_mem_trimChars hcomma) rfl
  · rw [String.toList_ofList]
    exact Text.isTrimmed_trimChars piece

/-! ## Reading -/

theorem not_mem_of_allBlank {piece : String} (hblank : Text.allBlank piece = true) :
    ',' ∉ piece.toList := by
  intro hcomma
  exact absurd (List.all_eq_true.mp hblank ',' hcomma) (by decide)

namespace Pieces

variable {entries pieces : List String}

/-- No piece has a comma in it. -/
theorem no_comma (hpieces : Pieces entries pieces) (hentries : ∀ entry ∈ entries, IsEntry entry) :
    ∀ piece ∈ pieces, ',' ∉ piece.toList := by
  induction hpieces with
  | nil => simp
  | blank hblank _ ih =>
      rw [List.forall_mem_cons]
      exact ⟨not_mem_of_allBlank hblank, ih hentries⟩
  | entry hbefore hafter _ ih =>
      rw [List.forall_mem_cons] at hentries ⊢
      refine ⟨?_, ih hentries.2⟩
      simp [not_mem_of_allBlank hbefore, not_mem_of_allBlank hafter, hentries.1.no_comma]

theorem entriesOf_eq (hpieces : Pieces entries pieces)
    (hentries : ∀ entry ∈ entries, IsEntry entry) :
    entriesOf (pieces.map String.toList) = entries := by
  induction hpieces with
  | nil => rfl
  | blank hblank _ ih =>
      rw [List.map_cons, entriesOf_cons, if_pos, ih hentries]
      exact Text.trimChars_eq_nil.mpr (List.all_eq_true.mp hblank)
  | @entry entries pieces before entry after hbefore hafter _ ih =>
      rw [List.forall_mem_cons] at hentries
      have htrim : Text.trimChars (before ++ entry ++ after).toList = entry.toList := by
        rw [String.toList_append, String.toList_append]
        exact Text.trimChars_padded (List.all_eq_true.mp hbefore) hentries.1.trimmed
          (List.all_eq_true.mp hafter)
      rw [List.map_cons, entriesOf_cons, htrim, if_neg, String.ofList_toList, ih hentries.2]
      simpa using hentries.1.ne_empty

/-- Pieces without white space and without blank ones. -/
theorem self (entries : List String) : Pieces entries entries := by
  induction entries with
  | nil => exact .nil
  | cons entry entries ih =>
      have hentry := @Pieces.entry entries entries "" entry "" rfl rfl ih
      rwa [String.empty_append, String.append_empty] at hentry

end Pieces

/-- Each list of pieces is one of the entries in it. -/
theorem pieces_entriesOf (pieces : List (List Char)) :
    Pieces (entriesOf pieces) (pieces.map String.ofList) := by
  induction pieces with
  | nil => exact .nil
  | cons piece pieces ih =>
      rw [entriesOf_cons, List.map_cons]
      split_ifs with hblank
      · refine .blank ?_ ih
        rw [Text.allBlank, String.toList_ofList, List.all_eq_true]
        exact Text.trimChars_eq_nil.mp hblank
      · obtain ⟨before, after, hbefore, hafter, hpadded⟩ := Text.exists_padding piece
        have hentry : String.ofList piece =
            String.ofList before ++ String.ofList (Text.trimChars piece) ++ String.ofList after := by
          rw [← String.ofList_append, ← String.ofList_append, ← hpadded]
        rw [hentry]
        exact .entry (by simpa [Text.allBlank] using hbefore)
          (by simpa [Text.allBlank] using hafter) ih

/-- Each text lists what is read from it. -/
theorem lists_parseList (text : String) : Lists text (parseList text) := by
  refine ⟨_, parseList_eq text ▸ pieces_entriesOf _, ?_⟩
  rw [← String.toList_inj, Text.join, String.toList_intercalate, List.map_map]
  simp

/-- What is read from a text is what it lists. -/
theorem parseList_of_lists {text : String} {entries : List String}
    (hentries : ∀ entry ∈ entries, IsEntry entry) (hlists : Lists text entries) :
    parseList text = entries := by
  obtain ⟨pieces, hpieces, rfl⟩ := hlists
  cases pieces with
  | nil => cases hpieces; rfl
  | cons piece pieces =>
      have hsplit : (Text.join "," (piece :: pieces)).toList.splitOn ',' =
          (piece :: pieces).map String.toList := by
        rw [Text.join, String.toList_intercalate]
        refine List.splitOn_intercalate ',' ?_ (by simp)
        simpa using hpieces.no_comma hentries
      rw [parseList_eq, hsplit, hpieces.entriesOf_eq hentries]

/-- Each text lists exactly one list of entries, which is read from it and stays the same when it is
written with commas alone; and a comma puts two lists one after the other. -/
theorem listSyntax (text other : String) (entries : List String) :
    (parseList text = entries ↔ (∀ entry ∈ entries, IsEntry entry) ∧ Lists text entries) ∧
      parseList (Text.join "," (parseList text)) = parseList text ∧
      parseList (text ++ "," ++ other) = parseList text ++ parseList other := by
  refine ⟨⟨?_, fun ⟨hentries, hlists⟩ => parseList_of_lists hentries hlists⟩, ?_,
    parseList_append text other⟩
  · rintro rfl
    exact ⟨fun entry hmem => isEntry_of_mem_parseList hmem, lists_parseList text⟩
  · exact parseList_of_lists (fun entry hmem => isEntry_of_mem_parseList hmem) ⟨_, .self _, rfl⟩

end Endpoint

end BrokerClient
