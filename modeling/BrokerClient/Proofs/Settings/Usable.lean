import BrokerClient.Proofs.Settings.Environment
import BrokerClient.Proofs.Settings.RoundTrip
import BrokerClient.Proofs.Text.Blank

/-!
# Settings that can be used

Settings are usable if there is an endpoint, no endpoint is blank, the queue has a name that is not
blank, and a lost connection is tried again after a second or more.  Settings from variables are
always usable.  Those from a file name an endpoint and a queue, but a text that stands in the file
is taken as it is: they are usable exactly if no endpoint of the list and no name of the queue is
blank (`Settings.accepted_usable`).
-/

namespace BrokerClient

open Text (HasInk)

namespace Settings

/-- Can a session be opened with the settings, as far as they say? -/
structure Usable (settings : Settings) : Prop where
  some_endpoint : settings.endpoints ≠ []
  endpoints_hasInk : ∀ endpoint ∈ settings.endpoints, HasInk endpoint
  queue_hasInk : HasInk settings.consumer.queue
  delay : (Duration.ofSeconds 1).nanos ≤ settings.reconnectDelay.nanos

variable {settings : Settings}

/-- What settings have that pass `validate`. -/
theorem validate_eq_ok (hvalid : settings.validate = .ok ()) :
    settings.endpoints ≠ [] ∧ settings.consumer.queue ≠ "" ∧
      (Duration.ofSeconds 1).nanos ≤ settings.reconnectDelay.nanos := by
  rw [validate] at hvalid
  split_ifs at hvalid with hnone hempty hzero
  refine ⟨by simpa using hnone, by simpa using hempty, ?_⟩
  have hpos : 0 < settings.connection.reconnectSeconds.toNat := by
    rw [Nat.pos_iff_ne_zero]
    exact fun h => hzero (UInt64.toNat_inj.mp h)
  simp only [reconnectDelay, Duration.ofSeconds]
  omega

/-- The endpoints are not blank if none in the list is; those of the single address never are. -/
theorem endpoints_hasInk_iff :
    (∀ endpoint ∈ settings.endpoints, HasInk endpoint) ↔
      ∀ endpoint ∈ settings.connection.endpoints, HasInk endpoint := by
  rw [endpoints]
  split_ifs with hlist
  · rw [List.isEmpty_iff.mp hlist]
    refine iff_of_true (fun endpoint hmem => ?_) (fun _ hmem => absurd hmem List.not_mem_nil)
    cases huri : settings.connection.uri with
    | none => rw [huri] at hmem; cases hmem
    | some uri =>
        rw [huri] at hmem
        exact Endpoint.hasInk_of_mem_parseList hmem
  · exact Iff.rfl

/-- Settings that pass `validate` are usable if the texts that are taken as they are are not blank. -/
theorem usable_iff_of_validate (hvalid : settings.validate = .ok ()) :
    settings.Usable ↔ (∀ endpoint ∈ settings.connection.endpoints, HasInk endpoint) ∧
      HasInk settings.consumer.queue := by
  obtain ⟨hsome, -, hdelay⟩ := validate_eq_ok hvalid
  constructor
  · intro husable
    exact ⟨endpoints_hasInk_iff.mp husable.endpoints_hasInk, husable.queue_hasInk⟩
  · rintro ⟨hendpoints, hqueue⟩
    exact ⟨hsome, endpoints_hasInk_iff.mpr hendpoints, hqueue, hdelay⟩

/-- A file is loaded only as settings that pass `validate`. -/
theorem validate_of_load {tree : FileTree} {path : String} (hload : load tree path = .ok settings) :
    settings.validate = .ok () := by
  have hchecked : ∃ found : Settings, found.checked = .ok settings := by
    rw [load] at hload
    split at hload
    · cases hload
    · rw [ofFile] at hload
      split at hload
      · cases hload
      · exact ⟨_, hload⟩
  obtain ⟨found, hfound⟩ := hchecked
  obtain ⟨rfl, hvalid⟩ := checked_eq_ok.mp hfound
  exact hvalid

/-- The endpoints that variables name are not blank. -/
theorem hasInk_of_mem_endpointVariables {lookup : Lookup} {endpoint : String}
    (hmem : endpoint ∈ endpointVariables lookup) : HasInk endpoint := by
  rw [endpointVariables] at hmem
  split at hmem
  · exact Endpoint.hasInk_of_mem_parseList hmem
  · cases hurl : lookup.text "RABBITMQ_URL" with
    | none => rw [hurl] at hmem; cases hmem
    | some url =>
        rw [hurl] at hmem
        exact Endpoint.hasInk_of_mem_parseList hmem

/-- A variable that is set is not blank. -/
theorem hasInk_of_text {lookup : Lookup} {name value : String}
    (hset : lookup.text name = some value) : HasInk value := by
  have hfilter := (Option.filter_eq_some_iff.mp hset).2
  exact Text.hasInk_iff.mpr (by simpa using hfilter)

/-- Settings from variables are usable.  Settings from a file name an endpoint and a queue, and wait
at least a second; they are usable exactly if no endpoint in the list is blank, nor the queue. -/
theorem accepted_usable (settings : Settings) :
    (∀ lookup, ofVariables lookup = .ok settings → settings.Usable) ∧
      ∀ tree path, load tree path = .ok settings →
        settings.endpoints ≠ [] ∧ settings.consumer.queue ≠ "" ∧
          (Duration.ofSeconds 1).nanos ≤ settings.reconnectDelay.nanos ∧
          (settings.Usable ↔ (∀ endpoint ∈ settings.connection.endpoints, HasInk endpoint) ∧
            HasInk settings.consumer.queue) := by
  constructor
  · intro lookup haccepted
    obtain ⟨-, rfl, hvalid⟩ := ofVariables_cases haccepted
    refine (usable_iff_of_validate hvalid).mpr
      ⟨fun endpoint hmem => hasInk_of_mem_endpointVariables hmem, ?_⟩
    show HasInk ((lookup.text "RABBITMQ_QUEUE").getD defaultQueue)
    cases hqueue : lookup.text "RABBITMQ_QUEUE" with
    | none => decide
    | some queue => exact hasInk_of_text hqueue
  · intro tree path hload
    have hvalid := validate_of_load hload
    obtain ⟨hsome, hqueue, hdelay⟩ := validate_eq_ok hvalid
    exact ⟨hsome, hqueue, hdelay, usable_iff_of_validate hvalid⟩

/-! ## A blank endpoint -/

/-- The settings of a new file, but with a blank endpoint. -/
def blankEndpoint : Settings :=
  { starter with connection := { ConnectionSettings.standard with endpoints := [" "] } }

theorem load_blankEndpoint :
    load (folderWith blankEndpoint.toJson.compact) fileName = .ok blankEndpoint := by
  refine load_of_readText ?_ ?_ ?_ (.inl rfl) (readText_folderWith _)
  · simp [blankEndpoint, starter, ConsumerSettings.standard, Json.Value.WellFormed,
      Json.Value.parts, Json.fieldParts, Json.Value.IsSound]
  · exact Json.Value.floatFree_object fun _ hmem => absurd hmem List.not_mem_nil
  · decide

/-- Both routes: a queue and an address from variables, and a file with a blank endpoint. -/
theorem accepted_usable_blankEndpoint :
    (ofVariables (fun name => if name = "RABBITMQ_URL" then some " amqp://a " else none) =
        .ok { starter with connection := { ConnectionSettings.standard with
          endpoints := ["amqp://a"] } } ∧
      Usable { starter with connection := { ConnectionSettings.standard with
        endpoints := ["amqp://a"] } }) ∧
    load (folderWith blankEndpoint.toJson.compact) fileName = .ok blankEndpoint ∧
      ¬ blankEndpoint.Usable := by
  have hvariables : ofVariables
      (fun name => if name = "RABBITMQ_URL" then some " amqp://a " else none) =
      .ok { starter with connection := { ConnectionSettings.standard with
        endpoints := ["amqp://a"] } } := rfl
  refine ⟨⟨hvariables, (accepted_usable _).1 _ hvariables⟩, load_blankEndpoint, ?_⟩
  rw [((accepted_usable _).2 _ _ load_blankEndpoint).2.2.2]
  decide

/-- Not all settings that are loaded from a file are usable. -/
theorem not_forall_load_usable :
    ¬ ∀ (tree : FileTree) (path : String) (settings : Settings),
      load tree path = .ok settings → settings.Usable := by
  intro hall
  have husable := hall _ _ _ load_blankEndpoint
  exact absurd (husable.endpoints_hasInk " " (by decide)) (by decide)

end Settings

end BrokerClient
