import BrokerClient.Proofs.Text.Bytes
import BrokerClient.Url.Basic
import Mathlib.Data.List.TakeWhile

/-!
# No host has an at sign

An at sign in the text of a host is refused, in whatever form the host is given: no piece of a numeric
address has one, a name in decoded form keeps the one that it has, and so does its ASCII form, in
which no at sign may stand.
-/

namespace BrokerClient.Url

/-! ## Names -/

/-- A sign that begins no encoded byte and is no digit of one stays when a text is decoded. -/
theorem mem_decode {chars : List Char} (hmem : '@' ∈ chars) : 0x40 ∈ decode chars := by
  -- the sign is no hexadecimal digit, so that it is in no pair that is decoded
  induction chars using decode.induct with
  | case1 a b rest high low hlow hhigh ih =>
      have ha : '@' ≠ a := by rintro rfl; cases hhigh
      have hb : '@' ≠ b := by rintro rfl; cases hlow
      have hrest : '@' ∈ rest := by simpa [ha, hb] using hmem
      rw [decode, hhigh, hlow]
      exact List.mem_cons_of_mem _ (ih hrest)
  | case2 a b rest hnone ih =>
      have hrest : '@' ∈ a :: b :: rest := by simpa using hmem
      rw [decode]
      split
      · exact absurd ‹_› (by simpa using hnone _ _ ‹_›)
      · exact List.mem_cons_of_mem _ (ih hrest)
  | case3 c rest hother ih =>
      rw [decode]
      · rcases List.mem_cons.mp hmem with rfl | hrest
        · exact List.mem_append_left _ (by decide)
        · exact List.mem_append_right _ (ih hrest)
      · exact hother
  | case4 => exact absurd hmem List.not_mem_nil

/-- Every character is in one of the labels, but for the points between them. -/
theorem exists_label_of_mem {c : Char} (hpoint : c ≠ '.') {chars : List Char} (hmem : c ∈ chars) :
    ∃ label ∈ splitDots chars, c ∈ label := by
  induction chars with
  | nil => exact absurd hmem List.not_mem_nil
  | cons first rest ih =>
      rw [splitDots]
      split_ifs with hfirst
      · have hrest : c ∈ rest := by simpa [hfirst, hpoint] using hmem
        obtain ⟨label, hlabel, hin⟩ := ih hrest
        exact ⟨label, List.mem_cons_of_mem _ hlabel, hin⟩
      · cases hsplit : splitDots rest with
        | nil =>
            rcases List.mem_cons.mp hmem with rfl | hrest
            · exact ⟨[c], by simp, by simp⟩
            · obtain ⟨label, hlabel, -⟩ := ih hrest
              rw [hsplit] at hlabel
              exact absurd hlabel List.not_mem_nil
        | cons label labels =>
            rcases List.mem_cons.mp hmem with rfl | hrest
            · exact ⟨c :: label, by simp, by simp⟩
            · obtain ⟨found, hfound, hin⟩ := ih hrest
              rw [hsplit] at hfound
              rcases List.mem_cons.mp hfound with rfl | hlater
              · exact ⟨first :: found, by simp, List.mem_cons_of_mem _ hin⟩
              · exact ⟨found, List.mem_cons_of_mem _ hlater, hin⟩

/-- Going through a label only adds to what has been written. -/
theorem mem_deltaPass {basic m : Nat} {c : Char} (label : List Char) {state : DeltaState}
    (hmem : c ∈ state.out) : c ∈ (deltaPass basic m state label).out := by
  induction label generalizing state with
  | nil => exact hmem
  | cons first rest ih =>
      rw [deltaPass]
      split_ifs
      · exact ih hmem
      · exact ih (List.mem_append_left _ hmem)
      · exact ih hmem

theorem mem_deltaFrom {label : List Char} {basic turns : Nat} {c : Char} {state : DeltaState}
    (hmem : c ∈ state.out) : c ∈ deltaFrom label basic turns state := by
  induction turns generalizing state with
  | zero => exact hmem
  | succ turns ih =>
      rw [deltaFrom]
      split
      · exact hmem
      · exact ih (mem_deltaPass label hmem)

/-- The ASCII characters of a label are in its delta code. -/
theorem mem_deltaCode {label : List Char} {c : Char} (hascii : c.toNat < 0x80) (hmem : c ∈ label) :
    c ∈ deltaCode label := by
  have hkept : c ∈ label.filter fun c => c.toNat < 0x80 := by simp [hmem, hascii]
  have hsome : (label.filter fun c => c.toNat < 0x80).isEmpty = false := by
    rw [List.isEmpty_eq_false_iff]
    exact List.ne_nil_of_mem hkept
  -- a label starts with its ASCII characters, and from then on its code only grows
  refine mem_deltaFrom ?_
  show c ∈ if _ then _ else _
  rw [if_neg (by rw [hsome]; exact Bool.false_ne_true)]
  exact List.mem_append_left _ hkept

theorem mem_intercalate {α : Type} {separator part : List α} {parts : List (List α)} {x : α}
    (hpart : part ∈ parts) (hmem : x ∈ part) : x ∈ separator.intercalate parts := by
  induction parts with
  | nil => exact absurd hpart List.not_mem_nil
  | cons first rest ih =>
      by_cases hrest : rest = []
      · subst hrest
        obtain rfl := List.mem_singleton.mp hpart
        simpa using hmem
      · rw [List.intercalate_cons_of_ne_nil hrest]
        rcases List.mem_cons.mp hpart with rfl | hlater
        · exact List.mem_append_left _ (List.mem_append_left _ hmem)
        · exact List.mem_append_right _ (ih hlater)

/-- The ASCII form of a name keeps an at sign. -/
theorem mem_of_asciiName? {chars ascii : List Char} (hread : asciiName? chars = some ascii)
    (hmem : '@' ∈ chars) : '@' ∈ ascii := by
  obtain rfl := Option.some.inj hread
  have hfolded : '@' ∈ chars.flatMap foldCase :=
    List.mem_flatMap.mpr ⟨'@', hmem, by decide⟩
  obtain ⟨label, hlabel, hin⟩ := exists_label_of_mem (by decide) hfolded
  refine mem_intercalate (List.mem_map_of_mem hlabel) ?_
  split_ifs
  · exact hin
  · exact List.mem_append_right _ (mem_deltaCode (by decide) hin)

/-! ## Numeric addresses -/

theorem mem_of_hexPiece {left n : Nat} {chars : List Char} (hmem : '@' ∈ chars) :
    '@' ∈ (hexPiece left n chars).2.2 := by
  induction left generalizing n chars with
  | zero => exact hmem
  | succ left ih =>
      cases chars with
      | nil => exact absurd hmem List.not_mem_nil
      | cons c rest =>
          rw [hexPiece]
          cases hvalue : hexValue? c with
          | none => exact hmem
          | some d =>
              have hc : '@' ≠ c := by rintro rfl; cases hvalue
              exact ih (by simpa [hc] using hmem)

theorem mem_of_ipv4Piece? {chars rest : List Char} {n : Nat}
    (hread : ipv4Piece? chars = some (n, rest)) (hmem : '@' ∈ chars) : '@' ∈ rest := by
  have hrest : chars.drop (chars.takeWhile Char.isDigit).length = rest := by
    simp only [ipv4Piece?, Option.bind_eq_bind, Option.bind_eq_some_iff] at hread
    obtain ⟨_, -, _, -, _, -, hrest⟩ := hread
    exact congrArg Prod.snd (Option.some.inj hrest)
  have hdigits := List.prefix_iff_eq_take.mp (chars.takeWhile_prefix Char.isDigit)
  rw [← List.take_append_drop (chars.takeWhile Char.isDigit).length chars, List.mem_append,
    ← hdigits, hrest] at hmem
  rcases hmem with hdigit | hrest
  · exact absurd (List.mem_takeWhile_imp hdigit) (by decide)
  · exact hrest

theorem mem_of_afterPoint? {chars rest : List Char} (hread : afterPoint? chars = some rest)
    (hmem : '@' ∈ chars) : '@' ∈ rest := by
  rw [afterPoint?] at hread
  cases chars with
  | nil => exact absurd hmem List.not_mem_nil
  | cons c more =>
      split_ifs at hread with hpoint
      obtain rfl : c = '.' := Option.some.inj hpoint
      obtain rfl : more = rest := Option.some.inj hread
      simpa using hmem

theorem embeddedIpv4?_eq_none {chars : List Char} (hmem : '@' ∈ chars) :
    embeddedIpv4? chars = none := by
  rw [Option.eq_none_iff_forall_ne_some]
  intro pieces hread
  simp only [embeddedIpv4?, Option.bind_eq_bind, Option.bind_eq_some_iff] at hread
  obtain ⟨⟨_, _⟩, ha, _, hpoint, ⟨_, _⟩, hb, _, hpoint', ⟨_, _⟩, hc, _, hpoint'', ⟨_, rest⟩, hd, _,
    hend, -⟩ := hread
  have hfirst := mem_of_afterPoint? hpoint (mem_of_ipv4Piece? ha hmem)
  have hsecond := mem_of_afterPoint? hpoint' (mem_of_ipv4Piece? hb hfirst)
  have hthird := mem_of_afterPoint? hpoint'' (mem_of_ipv4Piece? hc hsecond)
  have hlast : '@' ∈ rest := mem_of_ipv4Piece? hd hthird
  have hnil : rest = [] := by simpa [guard, Option.ite_none_right_eq_some] using hend
  rw [hnil] at hlast
  exact absurd hlast List.not_mem_nil

theorem ipv6Pieces?_eq_none {turns : Nat} {pieces : List Nat} {gap : Option Nat}
    {chars : List Char} (hmem : '@' ∈ chars) : ipv6Pieces? turns pieces gap chars = none := by
  induction turns generalizing pieces gap chars with
  | zero =>
      cases chars with
      | nil => exact absurd hmem List.not_mem_nil
      | cons c rest => rfl
  | succ turns ih =>
      cases chars with
      | nil => exact absurd hmem List.not_mem_nil
      | cons c rest =>
          rw [ipv6Pieces?]
          split_ifs with hfull hcolon hgap
          · rfl
          · rfl
          · exact ih (by simpa [hcolon] using hmem)
          · have hafter : '@' ∈ (hexPiece 4 0 (c :: rest)).2.2 := mem_of_hexPiece hmem
            rcases hpiece : hexPiece 4 0 (c :: rest) with ⟨n, left, after⟩
            rw [hpiece] at hafter
            dsimp only at hafter ⊢
            split
            · split_ifs
              · rfl
              · rw [embeddedIpv4?_eq_none hmem, Option.map_none]
            · rfl
            · exact ih (by simpa using hafter)
            · exact absurd hafter List.not_mem_nil
            · rfl

theorem parseIpv6_of_mem {chars : List Char} (hmem : '@' ∈ chars) :
    parseIpv6 chars = .error .badIpv6 := by
  unfold parseIpv6
  dsimp only
  rw [Option.bind_eq_none_iff.mpr]
  rintro ⟨gap, rest⟩ hstart
  refine ipv6Pieces?_eq_none ?_
  -- where the pieces start, the sign is still to be read
  split at hstart
  · cases hstart
    simpa using hmem
  · cases hstart
  · cases hstart
    exact hmem

/-! ## Hosts -/

theorem bracketed_of_mem {chars : List Char} (hbracket : chars.head? = some '[')
    (hmem : '@' ∈ chars) : bracketed chars = .error .badIpv6 := by
  rw [bracketed]
  split_ifs with hlast
  · obtain ⟨before, rfl⟩ := List.getLast?_eq_some_iff.mp hlast
    have hinside : '@' ∈ (List.drop 1 (before ++ [']'])).dropLast := by
      cases before with
      | nil => cases hbracket
      | cons c before =>
          obtain rfl : c = '[' := Option.some.inj hbracket
          rw [List.cons_append, List.drop_one, List.tail_cons, List.dropLast_concat]
          simpa using hmem
    rw [parseIpv6_of_mem hinside]
    rfl
  · rfl

/-- A host of a special scheme has no at sign. -/
theorem parseSpecialHost_of_mem {chars : List Char} (hmem : '@' ∈ chars) :
    ∃ fault, parseSpecialHost chars = .error fault := by
  rw [parseSpecialHost]
  split_ifs with hbracket
  · exact ⟨_, bracketed_of_mem hbracket hmem⟩
  · cases hread : (Bytes.toString? (decode chars)).bind fun text => asciiName? text.toList with
    | none => exact ⟨_, rfl⟩
    | some ascii =>
        obtain ⟨text, htext, hascii⟩ := Option.bind_eq_some_iff.mp hread
        have hdecoded : 0x40 ∈ Bytes.ofString text := by
          rw [Bytes.ofString_of_toString? htext]
          exact mem_decode hmem
        have hin : '@' ∈ ascii :=
          mem_of_asciiName? hascii (Bytes.mem_of_mem_ofString (by decide) hdecoded)
        have hforbidden : ascii.any isForbiddenInName = true :=
          List.any_eq_true.mpr ⟨'@', hin, by decide⟩
        exact ⟨.badName, if_pos hforbidden⟩

end BrokerClient.Url
