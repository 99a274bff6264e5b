import BrokerClient.Proofs.Fallible
import BrokerClient.Proofs.Settings.Environment
import BrokerClient.Proofs.Text.Blank

/-!
# Which variable names the endpoints

Endpoints are named by a list of them, or else by a single address.  A variable that is blank counts
as not set, but a list of which nothing is left once its blank entries are dropped need not be blank:
there may be commas between them.  Such a list is taken for one that is set, the single address is
not looked at, and there are no settings although it names an endpoint (`Settings.endpoints_named`).
-/

namespace BrokerClient.Settings

variable {lookup : Lookup} {name : String}

/-- The endpoints that a variable names; one that is not set counts as the empty text. -/
def named (lookup : Lookup) (name : String) : List String :=
  Endpoint.parseList ((lookup name).getD "")

theorem text_eq_some {value : String} :
    lookup.text name = some value ↔ lookup name = some value ∧ Text.HasInk value := by
  rw [Lookup.text, Option.filter_eq_some_iff, Text.hasInk_iff, Bool.not_eq_true']

/-- A variable that is not set, or blank, names nothing. -/
theorem named_of_text_none (hnone : lookup.text name = none) : named lookup name = [] := by
  rw [named, Endpoint.parseList_eq_nil]
  cases hvalue : lookup name with
  | none => exact nofun
  | some value =>
      intro c hmem
      by_contra hink
      rw [not_or, Bool.not_eq_true] at hink
      have hset : lookup.text name = some value := text_eq_some.mpr ⟨hvalue, c, hmem, hink.2⟩
      cases hnone.symm.trans hset

theorem named_of_text {value : String} (hset : lookup.text name = some value) :
    named lookup name = Endpoint.parseList value := by
  rw [named, (text_eq_some.mp hset).1, Option.getD_some]

/-- Of a variable that names nothing only the commas are not blank. -/
theorem isSome_text_iff (hnone : named lookup name = []) :
    (lookup.text name).isSome ↔ ∃ list, lookup name = some list ∧ ',' ∈ list.toList := by
  rw [named, Endpoint.parseList_eq_nil] at hnone
  constructor
  · intro hset
    obtain ⟨list, htext⟩ := Option.isSome_iff_exists.mp hset
    obtain ⟨hlist, c, hmem, hink⟩ := text_eq_some.mp htext
    rw [hlist, Option.getD_some] at hnone
    rcases hnone c hmem with rfl | hblank
    · exact ⟨list, hlist, hmem⟩
    · exact absurd (hink.symm.trans hblank) Bool.false_ne_true
  · rintro ⟨list, hlist, hmem⟩
    rw [text_eq_some.mpr ⟨hlist, ',', hmem, by decide⟩]
    rfl

/-- The single address counts if the list is not set. -/
theorem endpointVariables_eq (lookup : Lookup) :
    endpointVariables lookup =
      if (lookup.text "RABBITMQ_URLS").isSome then named lookup "RABBITMQ_URLS"
      else named lookup "RABBITMQ_URL" := by
  rw [endpointVariables]
  cases hlist : lookup.text "RABBITMQ_URLS" with
  | some list =>
      rw [named_of_text hlist]
      rfl
  | none =>
      cases hurl : lookup.text "RABBITMQ_URL" with
      | some url =>
          rw [named_of_text hurl]
          rfl
      | none =>
          rw [named_of_text_none hurl]
          rfl

/-- The check of a number or a flag never says that an endpoint is missing. -/
theorem check_ne_noEndpoint (entry : String × Kind) : check lookup entry ≠ .error .noEndpoint := by
  obtain ⟨name, kind⟩ := entry
  intro hfault
  cases kind with
  | number bound =>
      rw [check, numberVariable] at hfault
      split at hfault
      · cases hfault
      · split at hfault <;> cases hfault
  | flag =>
      rw [check, flagVariable] at hfault
      split at hfault
      · cases hfault
      · dsimp only at hfault
        split_ifs at hfault <;> cases hfault

theorem ofVariables_noEndpoint :
    ofVariables lookup = .error .noEndpoint ↔ endpointVariables lookup = [] := by
  constructor
  · intro hfails
    by_contra hsome
    rw [ofVariables_eq hsome] at hfails
    rcases bind_eq_error.mp hfails with hchecked | ⟨_, -, hrefused⟩
    · obtain ⟨_, entry, _, _, _, hentry⟩ := forM_eq_error.mp hchecked
      exact check_ne_noEndpoint entry hentry
    · split at hrefused <;> cases hrefused
  · intro hnone
    rw [ofVariables, hnone]
    rfl

/-- For want of an endpoint there are no settings exactly if neither variable names one, or the list
is of nothing but blanks and commas, with a comma at least.  Settings that are given have exactly
the endpoints of the list, or those of the single address if the list names none. -/
theorem endpoints_named (lookup : Lookup) :
    (ofVariables lookup = .error .noEndpoint ↔
      named lookup "RABBITMQ_URLS" = [] ∧
        (named lookup "RABBITMQ_URL" = [] ∨
          ∃ list, lookup "RABBITMQ_URLS" = some list ∧ ',' ∈ list.toList)) ∧
      ∀ settings, ofVariables lookup = .ok settings →
        settings.endpoints =
          if named lookup "RABBITMQ_URLS" = [] then named lookup "RABBITMQ_URL"
          else named lookup "RABBITMQ_URLS" := by
  constructor
  · rw [ofVariables_noEndpoint, endpointVariables_eq]
    split_ifs with hset
    · -- the list is set
      refine ⟨fun hnone => ⟨hnone, .inr ((isSome_text_iff hnone).mp hset)⟩, fun h => h.1⟩
    · have hnone : named lookup "RABBITMQ_URLS" = [] :=
        named_of_text_none (Option.not_isSome_iff_eq_none.mp hset)
      rw [← isSome_text_iff hnone, and_iff_right hnone, or_iff_left hset]
  · intro settings haccepted
    obtain ⟨hsome, rfl, -⟩ := ofVariables_cases haccepted
    have hendpoints : (denoted lookup).endpoints = endpointVariables lookup :=
      if_neg (by simpa [denoted] using hsome)
    rw [hendpoints, endpointVariables_eq]
    rw [endpointVariables_eq] at hsome
    split_ifs at hsome ⊢ with hset hnone hnone
    · exact absurd hnone hsome
    · rfl
    · rfl
    · exact absurd (named_of_text_none (Option.not_isSome_iff_eq_none.mp hset)) hnone

/-! ## A list of nothing but a comma -/

/-- Variables of which the list is this text, and the single address names a broker. -/
def listBeside (list : String) : Lookup
  | "RABBITMQ_URLS" => some list
  | "RABBITMQ_URL" => some "amqp://a"
  | _ => none

/-- The single address counts beside a list of blanks, and not beside one of blanks and a comma. -/
theorem endpoints_named_beside :
    (∃ settings, ofVariables (listBeside " ") = .ok settings ∧ settings.endpoints = ["amqp://a"]) ∧
      ofVariables (listBeside " , ") = .error .noEndpoint := by
  have haccepted : ofVariables (listBeside " ") = .ok (denoted (listBeside " ")) := rfl
  refine ⟨⟨_, haccepted, ?_⟩, (endpoints_named _).1.mpr ⟨by decide, .inr ?_⟩⟩
  · rw [(endpoints_named _).2 _ haccepted]
    decide
  · exact ⟨" , ", rfl, by decide⟩

/-- There may be no settings for want of an endpoint although a variable names one. -/
theorem not_forall_endpoints_named :
    ¬ ∀ lookup : Lookup, ofVariables lookup = .error .noEndpoint →
      named lookup "RABBITMQ_URLS" = [] ∧ named lookup "RABBITMQ_URL" = [] := by
  intro hall
  have hnone := (hall (listBeside ",") rfl).2
  exact absurd hnone (by decide)

end BrokerClient.Settings
