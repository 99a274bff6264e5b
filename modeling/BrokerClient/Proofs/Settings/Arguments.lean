import BrokerClient.Proofs.Fallible
import BrokerClient.Proofs.Json.Value
import BrokerClient.Proofs.Text.Bytes
import BrokerClient.Settings.Basic
import Mathlib.Data.List.Forall2

/-!
# The arguments of a subscription

Settings hold the arguments of a subscription as JSON, a field table holds them as fields.  Truth
values, numbers and texts can be carried over; of the arguments that are anything else the one with
the least name is refused.  Truth values, texts and doubles stay what they are, and so do integers
of 64 bits with sign.  An integer beyond these becomes a double, so that the table is faithful
exactly if there is none (`ConsumerSettings.arguments_carried`).
-/

namespace BrokerClient.ConsumerSettings

open Json (Value)

/-- Can a field hold the value? -/
def IsScalar : Value → Prop
  | .bool _ | .number _ | .string _ => True
  | .null | .array _ | .object _ => False

/-- `Keeps value field` says that the field has the value's kind and content. -/
inductive Keeps : Value → Amqp.FieldValue → Prop
  | boolean (b : Bool) : Keeps (.bool b) (.boolean b)
  | text (t : String) : Keeps (.string t) (.longString (Bytes.ofString t))
  | integer (n : Int) : Keeps (.number (.int n)) (.longLongInt n)
  | double (x : Float) : Keeps (.number (.float x)) (.double x)

/-- Is the value an integer that needs all 64 bits without sign? -/
def IsWide : Value → Prop
  | .number (.int n) => 0x8000000000000000 ≤ n
  | _ => False

/-- `Widens value field` says that the value is a wide integer and the field a double for it. -/
inductive Widens : Value → Amqp.FieldValue → Prop
  | integer {n : Int} : IsWide (.number (.int n)) →
      Widens (.number (.int n)) (.double (Float.ofInt n))

/-- The fields have the names of the arguments, in order, and each is related by `r` to the value of
its argument. -/
def Matches (r : Value → Amqp.FieldValue → Prop) (arguments : List (String × Value))
    (fields : Amqp.Table) : Prop :=
  List.Forall₂ (fun argument field => field.1 = argument.1 ∧ r argument.2 field.2) arguments fields

theorem Matches.exists_argument {r : Value → Amqp.FieldValue → Prop}
    {arguments : List (String × Value)} {fields : Amqp.Table}
    (hmatches : Matches r arguments fields)
    {field : String × Amqp.FieldValue} (hmem : field ∈ fields) :
    ∃ argument ∈ arguments, field.1 = argument.1 ∧ r argument.2 field.2 := by
  induction hmatches with
  | nil => exact absurd hmem List.not_mem_nil
  | @cons argument _ _ _ hfirst _ ih =>
      rcases List.mem_cons.mp hmem with rfl | hrest
      · exact ⟨argument, List.mem_cons_self, hfirst⟩
      · obtain ⟨other, hother, hrelated⟩ := ih hrest
        exact ⟨other, List.mem_cons_of_mem _ hother, hrelated⟩

/-! ## Single values -/

section Values

variable {value : Value} {field : Amqp.FieldValue}

theorem fieldValue?_int (n : Int) :
    fieldValue? (.number (.int n)) =
      if n < 0x8000000000000000 then some (.longLongInt n) else some (.double (Float.ofInt n)) :=
  rfl

theorem fieldValue?_eq_none : fieldValue? value = none ↔ ¬ IsScalar value := by
  cases value with
  | number n =>
      cases n with
      | int n => rw [fieldValue?_int]; split_ifs <;> simp [IsScalar]
      | float x => simp [fieldValue?, IsScalar]
  | _ => simp [fieldValue?, IsScalar]

/-- A wide integer becomes a double, and every other value stays what it is. -/
theorem fieldValue?_cases (hfield : fieldValue? value = some field) :
    IsWide value ∧ Widens value field ∨ ¬ IsWide value ∧ Keeps value field := by
  cases value with
  | null | array _ | object _ => cases hfield
  | bool b => cases hfield; exact .inr ⟨id, .boolean b⟩
  | string text => cases hfield; exact .inr ⟨id, .text text⟩
  | number n =>
      cases n with
      | float x => cases hfield; exact .inr ⟨id, .double x⟩
      | int n =>
          rw [fieldValue?_int] at hfield
          split_ifs at hfield with hfits
          · cases hfield
            exact .inr ⟨Int.not_le.mpr hfits, .integer n⟩
          · cases hfield
            have hwide : IsWide (.number (.int n)) := Int.not_lt.mp hfits
            exact .inl ⟨hwide, .integer hwide⟩

/-- A double is no integer. -/
theorem Widens.not_keeps (hwidens : Widens value field) : ¬ Keeps value field := by
  cases hwidens with
  | integer hwide => intro hkeeps; cases hkeeps

end Values

/-! ## Tables -/

section Tables

variable {arguments : List (String × Value)} {fields : Amqp.Table}

theorem table_eq_ok :
    table arguments = .ok fields ↔
      Matches (fun value field => fieldValue? value = some field) arguments fields := by
  induction arguments generalizing fields with
  | nil =>
      rw [table, Matches, List.forall₂_nil_left_iff, Except.ok.injEq, eq_comm]
  | cons argument rest ih =>
      obtain ⟨name, value⟩ := argument
      rw [table, Matches, List.forall₂_cons_left_iff]
      cases hvalue : fieldValue? value with
      | none => simp
      | some field =>
          dsimp only
          rw [bind_eq_ok]
          constructor
          · rintro ⟨others, hothers, hsame⟩
            cases hsame
            exact ⟨_, _, ⟨rfl, rfl⟩, ih.mp hothers, rfl⟩
          · rintro ⟨⟨name', field'⟩, others, ⟨hname, hfield⟩, hothers, rfl⟩
            cases hname
            cases hfield
            exact ⟨others, ih.mpr hothers, rfl⟩

/-- Making a table fails at the first argument that no field can hold. -/
theorem table_eq_error {e : UnsupportedArgument} :
    table arguments = .error e ↔ ∃ before after, arguments = before ++ (e.name, e.value) :: after ∧
      (∀ argument ∈ before, IsScalar argument.2) ∧ ¬ IsScalar e.value := by
  induction arguments with
  | nil => simp [table]
  | cons argument rest ih =>
      obtain ⟨name, value⟩ := argument
      rw [table]
      cases hvalue : fieldValue? value with
      | none =>
          have hrefused : ¬ IsScalar value := fieldValue?_eq_none.mp hvalue
          constructor
          · intro herror
            cases herror
            exact ⟨[], rest, rfl, nofun, hrefused⟩
          · rintro ⟨before, after, hsplit, hbefore, -⟩
            cases before with
            | nil => cases hsplit; rfl
            | cons earlier before =>
                cases hsplit
                exact absurd (hbefore _ List.mem_cons_self) hrefused
      | some field =>
          have hscalar : IsScalar value := by
            by_contra hrefused
            exact nomatch hvalue.symm.trans (fieldValue?_eq_none.mpr hrefused)
          have hrest : (do return (name, field) :: (← table rest)) = Except.error e ↔
              table rest = .error e := by
            rw [bind_eq_error]
            exact or_iff_left fun ⟨_, _, hpure⟩ => nomatch hpure
          dsimp only
          rw [hrest, ih]
          constructor
          · rintro ⟨before, after, rfl, hbefore, hrefused⟩
            exact ⟨(name, value) :: before, after, rfl,
              List.forall_mem_cons.mpr ⟨hscalar, hbefore⟩, hrefused⟩
          · rintro ⟨before, after, hsplit, hbefore, hrefused⟩
            cases before with
            | nil => cases hsplit; exact absurd hscalar hrefused
            | cons earlier before =>
                cases hsplit
                exact ⟨before, after, rfl, (List.forall_mem_cons.mp hbefore).2, hrefused⟩

/-- The argument that is refused: of those that no field can hold the one with the least name in the
order of bytes. -/
structure LeastRefused (arguments : List (String × Value)) (e : UnsupportedArgument) : Prop where
  mem : (e.name, e.value) ∈ arguments
  refused : ¬ IsScalar e.value
  least : ∀ argument ∈ arguments, ¬ IsScalar argument.2 →
    Bytes.ofString e.name ≤ Bytes.ofString argument.1

theorem table_eq_error_iff (hascending : (arguments.map (·.1)).Pairwise (· < ·))
    {e : UnsupportedArgument} : table arguments = .error e ↔ LeastRefused arguments e := by
  rw [table_eq_error]
  constructor
  · rintro ⟨before, after, rfl, hbefore, hrefused⟩
    rw [List.map_append, List.map_cons, List.pairwise_append, List.pairwise_cons] at hascending
    refine ⟨List.mem_append_right _ List.mem_cons_self, hrefused, ?_⟩
    intro argument hmem hargument
    rw [Bytes.ofString_le_iff]
    rcases List.mem_append.mp hmem with hearlier | hmem
    · exact absurd (hbefore argument hearlier) hargument
    · rcases List.mem_cons.mp hmem with rfl | hlater
      · exact le_refl _
      · exact le_of_lt (hascending.2.1.1 _ (List.mem_map_of_mem hlater))
  · rintro ⟨hmem, hrefused, hleast⟩
    obtain ⟨before, after, rfl⟩ := List.append_of_mem hmem
    refine ⟨before, after, rfl, ?_, hrefused⟩
    intro argument hearlier
    by_contra hargument
    -- an earlier argument has a lesser name
    rw [List.map_append, List.pairwise_append] at hascending
    have hless : argument.1 < e.name :=
      hascending.2.2 _ (List.mem_map_of_mem hearlier) _ List.mem_cons_self
    have hle := hleast argument (List.mem_append_left _ hearlier) hargument
    exact absurd hless (not_lt.mpr (Bytes.ofString_le_iff.mp hle))

theorem exists_table_iff :
    (∃ fields, table arguments = .ok fields) ↔ ∀ argument ∈ arguments, IsScalar argument.2 := by
  constructor
  · rintro ⟨fields, hok⟩
    have hscalar : ∀ (argument : String × Value) (field : String × Amqp.FieldValue),
        field.1 = argument.1 ∧ fieldValue? argument.2 = some field.2 →
          IsScalar argument.2 ∧ field.1 = argument.1 := by
      rintro argument field ⟨hname, hfield⟩
      refine ⟨?_, hname⟩
      by_contra hrefused
      exact nomatch hfield.symm.trans (fieldValue?_eq_none.mpr hrefused)
    exact ((List.forall₂_and_left _ _).mp ((table_eq_ok.mp hok).imp hscalar)).1
  · intro hscalar
    cases htable : table arguments with
    | ok fields => exact ⟨fields, rfl⟩
    | error e =>
        obtain ⟨before, after, rfl, -, hrefused⟩ := table_eq_error.mp htable
        exact absurd (hscalar _ (List.mem_append_right _ List.mem_cons_self)) hrefused

end Tables

/-! ## Settings -/

/-- What the settings of a consumption loop have from the settings that they are made of. -/
structure Carried (settings : ConsumerSettings) (config : ConsumerConfig) : Prop where
  options : config.options = ⟨settings.autoAck, settings.exclusive, settings.noLocal, false⟩
  prefetch :
    config.prefetch = ⟨settings.prefetchCount, settings.prefetchSize, settings.prefetchGlobal⟩
  /-- Every argument is kept, but a wide integer becomes a double. -/
  arguments : Matches (fun value field => Keeps value field ∨ Widens value field) settings.arguments
    config.arguments
  /-- All arguments are kept exactly if no integer is wide. -/
  kept : Matches Keeps settings.arguments config.arguments ↔
    ∀ argument ∈ settings.arguments, ¬ IsWide argument.2
  /-- An integer in the table has 64 bits with sign. -/
  fits : ∀ name n, (name, .longLongInt n) ∈ config.arguments →
    -0x8000000000000000 ≤ n ∧ n < 0x8000000000000000

/-- The arguments that the table has kept are all but the wide integers. -/
theorem matches_keeps_iff {arguments : List (String × Value)} {fields : Amqp.Table}
    (hok : table arguments = .ok fields) :
    Matches Keeps arguments fields ↔ ∀ argument ∈ arguments, ¬ IsWide argument.2 := by
  have hmatches := table_eq_ok.mp hok
  constructor
  · intro hkeeps
    have hnarrow : ∀ (argument : String × Value) (field : String × Amqp.FieldValue),
        field.1 = argument.1 ∧ fieldValue? argument.2 = some field.2 →
          field.1 = argument.1 ∧ Keeps argument.2 field.2 →
            ¬ IsWide argument.2 ∧ field.1 = argument.1 := by
      rintro argument field ⟨hname, hfield⟩ ⟨-, hkept⟩
      rcases fieldValue?_cases hfield with ⟨-, hwidens⟩ | ⟨hnarrow, -⟩
      · exact absurd hkept hwidens.not_keeps
      · exact ⟨hnarrow, hname⟩
    exact ((List.forall₂_and_left _ _).mp (List.Forall₂.mp hnarrow hmatches hkeeps)).1
  · intro hnarrow
    refine ((List.forall₂_and_left _ _).mpr ⟨hnarrow, hmatches⟩).imp ?_
    rintro argument field ⟨hargument, hname, hfield⟩
    rcases fieldValue?_cases hfield with ⟨hwide, -⟩ | ⟨-, hkept⟩
    · exact absurd hwide hargument
    · exact ⟨hname, hkept⟩

/-- An integer that is in the table has 64 bits with sign. -/
theorem fits_of_mem_table {arguments : List (String × Value)}
    (hsound : (Value.object arguments).WellFormed) {fields : Amqp.Table}
    (hok : table arguments = .ok fields) {name : String} {n : Int}
    (hmem : (name, .longLongInt n) ∈ fields) :
    -0x8000000000000000 ≤ n ∧ n < 0x8000000000000000 := by
  obtain ⟨⟨_, value⟩, hargument, -, hfield⟩ := (table_eq_ok.mp hok).exists_argument hmem
  rcases fieldValue?_cases hfield with ⟨-, hwidens⟩ | ⟨hnarrow, hkept⟩
  · cases hwidens
  · cases hkept
    exact ⟨(hsound.field hargument).fits.1, Int.not_le.mp hnarrow⟩

theorem toConfig_eq_ok {settings : ConsumerSettings} {config : ConsumerConfig} :
    settings.toConfig = .ok config ↔ ∃ fields, table settings.arguments = .ok fields ∧
      { ConsumerConfig.standard with
        options := ⟨settings.autoAck, settings.exclusive, settings.noLocal, false⟩
        prefetch := ⟨settings.prefetchCount, settings.prefetchSize, settings.prefetchGlobal⟩
        arguments := fields } = config := by
  rw [toConfig, bind_eq_ok]
  simp only [pure, Except.pure, Except.ok.injEq]

theorem toConfig_eq_error {settings : ConsumerSettings} {e : UnsupportedArgument} :
    settings.toConfig = .error e ↔ table settings.arguments = .error e := by
  rw [toConfig, bind_eq_error]
  exact or_iff_left fun ⟨_, _, hpure⟩ => nomatch hpure

/-- A field table can be made of arguments exactly if each of them is a truth value, a number or a
text; if one is not, the least is named, and otherwise everything is carried over but the wide
integers. -/
theorem arguments_carried {settings : ConsumerSettings}
    (hsound : (Value.object settings.arguments).WellFormed) :
    ((∃ config, settings.toConfig = .ok config) ↔
        ∀ argument ∈ settings.arguments, IsScalar argument.2) ∧
      (∀ e, settings.toConfig = .error e ↔ LeastRefused settings.arguments e) ∧
      ∀ config, settings.toConfig = .ok config → Carried settings config := by
  refine ⟨?_, fun e => ?_, fun config hconfig => ?_⟩
  · rw [← exists_table_iff]
    constructor
    · rintro ⟨config, hconfig⟩
      obtain ⟨fields, hok, -⟩ := toConfig_eq_ok.mp hconfig
      exact ⟨fields, hok⟩
    · rintro ⟨fields, hok⟩
      exact ⟨_, toConfig_eq_ok.mpr ⟨fields, hok, rfl⟩⟩
  · rw [toConfig_eq_error, table_eq_error_iff hsound.ascending]
  · obtain ⟨fields, hok, rfl⟩ := toConfig_eq_ok.mp hconfig
    refine ⟨rfl, rfl, ?_, matches_keeps_iff hok,
      fun name n hmem => fits_of_mem_table hsound hok hmem⟩
    refine (table_eq_ok.mp hok).imp ?_
    rintro argument field ⟨hname, hfield⟩
    rcases fieldValue?_cases hfield with ⟨-, hwidens⟩ | ⟨-, hkept⟩
    · exact ⟨hname, .inr hwidens⟩
    · exact ⟨hname, .inl hkept⟩

/-- Settings with an argument of each kind, of which one is an integer that needs all 64 bits. -/
def withWideArgument : ConsumerSettings :=
  { ConsumerSettings.standard with
    arguments :=
      [("x-big", .number (.int 9223372036854775809)), ("x-cancel-on-ha-failover", .bool true),
        ("x-priority", .number (.int 5)), ("x-tag", .string "audit")] }

theorem withWideArgument_wellFormed : (Value.object withWideArgument.arguments).WellFormed := by
  have hascending : (withWideArgument.arguments.map (·.1)).Pairwise (· < ·) := by
    simp only [withWideArgument, List.map_cons, List.map_nil, String.lt_iff_toList_lt]
    decide
  have hargument : ∀ argument ∈ withWideArgument.arguments, argument.2.WellFormed := by
    simp [withWideArgument, Value.WellFormed, Value.parts, Value.IsSound, Json.fitsWord]
  exact Value.wellFormed_object hascending hargument

theorem withWideArgument_scalar : ∀ argument ∈ withWideArgument.arguments, IsScalar argument.2 := by
  simp [withWideArgument, IsScalar]

theorem withWideArgument_wide : ¬ ∀ argument ∈ withWideArgument.arguments, ¬ IsWide argument.2 := by
  simp [withWideArgument, IsWide]

theorem withWideArgument_widened :
    (Value.object withWideArgument.arguments).WellFormed ∧
      ∃ config, withWideArgument.toConfig = .ok config ∧ Carried withWideArgument config ∧
        ¬ Matches Keeps withWideArgument.arguments config.arguments := by
  obtain ⟨hok, -, hcarried⟩ := arguments_carried withWideArgument_wellFormed
  obtain ⟨config, hconfig⟩ := hok.mpr withWideArgument_scalar
  refine ⟨withWideArgument_wellFormed, config, hconfig, hcarried config hconfig, ?_⟩
  rw [(hcarried config hconfig).kept]
  exact withWideArgument_wide

/-- Not every argument that a field can hold is kept. -/
theorem not_forall_arguments_kept :
    ¬ ∀ settings : ConsumerSettings, (Value.object settings.arguments).WellFormed →
      ∀ config, settings.toConfig = .ok config →
        Matches Keeps settings.arguments config.arguments := by
  intro hkept
  obtain ⟨fields, hok⟩ := exists_table_iff.mpr withWideArgument_scalar
  have hmatches := hkept withWideArgument withWideArgument_wellFormed _
    (toConfig_eq_ok.mpr ⟨fields, hok, rfl⟩)
  exact withWideArgument_wide ((matches_keeps_iff hok).mp hmatches)

end BrokerClient.ConsumerSettings
