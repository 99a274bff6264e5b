import BrokerClient.Proofs.FileTree
import BrokerClient.Proofs.Settings.Document

/-!
# Settings that are written and loaded again

Settings that are written to a file, on one line or with an item per line, are loaded from it as they
were, or refused for the reason for which they are refused themselves (`Settings.load_written`).
The document that is written is one in which every setting is given, but for an address or
arguments that are not there; these come back as not there.  Doubles in the arguments are left out
here, and the arguments may nest as deep as any document may.
-/

namespace BrokerClient.Settings

open Json (Value Shape MadeOf)

/-- All settings as given ones, but for an address or arguments that are not there. -/
def Given.ofSettings (settings : Settings) : Given where
  endpoints := some settings.connection.endpoints
  uri := settings.connection.uri
  reconnectSeconds := some settings.connection.reconnectSeconds
  queue := some settings.consumer.queue
  autoAck := some settings.consumer.autoAck
  exclusive := some settings.consumer.exclusive
  noLocal := some settings.consumer.noLocal
  prefetchCount := some settings.consumer.prefetchCount
  prefetchSize := some settings.consumer.prefetchSize
  prefetchGlobal := some settings.consumer.prefetchGlobal
  arguments := if settings.consumer.arguments.isEmpty then none else some settings.consumer.arguments
  exchange := some settings.publisher.exchange
  routingKey := some settings.publisher.routingKey

/-- Nothing is left to a default that differs from the setting. -/
theorem Given.complete_ofSettings (settings : Settings) :
    (Given.ofSettings settings).complete = settings := by
  obtain ⟨⟨endpoints, uri, seconds⟩, ⟨queue, ack, exclusive, noLocal, count, size, everywhere,
    arguments⟩, ⟨exchange, key⟩⟩ := settings
  -- empty arguments are not given, and none is the default
  cases arguments <;> rfl

/-- A section is written with the fields that are given. -/
theorem Given.exists_connection (settings : Settings) :
    ∃ fields, settings.connection.toJson = .object fields ∧
      MadeOf (Given.ofSettings settings).connectionFields fields := by
  refine ⟨_, rfl, ?_, fun key value => ?_⟩
  · cases settings.connection.uri <;> simp
  · cases huri : settings.connection.uri <;> simp [connectionFields, ofSettings, huri]

@[inherit_doc Given.exists_connection]
theorem Given.exists_consumer (settings : Settings) :
    ∃ fields, settings.consumer.toJson = .object fields ∧
      MadeOf (Given.ofSettings settings).consumerFields fields := by
  refine ⟨_, rfl, ?_, fun key value => ?_⟩
  · cases settings.consumer.arguments <;> simp
  · cases harguments : settings.consumer.arguments <;>
      simp [consumerFields, ofSettings, harguments]

@[inherit_doc Given.exists_connection]
theorem Given.exists_publisher (settings : Settings) :
    ∃ fields, settings.publisher.toJson = .object fields ∧
      MadeOf (Given.ofSettings settings).publisherFields fields := by
  refine ⟨_, rfl, ?_, fun key value => ?_⟩
  · simp
  · simp [publisherFields, ofSettings]

/-- What is written is a document of all settings. -/
theorem Given.isDocument_toJson (settings : Settings) :
    (Given.ofSettings settings).IsDocument settings.toJson := by
  obtain ⟨connection, hconnection, hfirst⟩ := Given.exists_connection settings
  obtain ⟨consumer, hconsumer, hsecond⟩ := Given.exists_consumer settings
  obtain ⟨publisher, hpublisher, hthird⟩ := Given.exists_publisher settings
  rw [toJson, hconnection, hconsumer, hpublisher]
  refine .mk ⟨?_, fun key value => ?_⟩ hfirst hsecond hthird .written .written
  · simp
  · simp

/-- The arguments lie two levels deep in the document. -/
theorem Given.argumentsFit_ofSettings {settings : Settings}
    (hsound : (Value.object settings.consumer.arguments).WellFormed)
    (hdepth : settings.toJson.depth ≤ Shape.depthLimit) :
    (Given.ofSettings settings).ArgumentsFit := by
  intro arguments hgiven
  rw [ofSettings] at hgiven
  split_ifs at hgiven with hnone
  obtain rfl := Option.some.inj hgiven
  refine ⟨hsound, ?_⟩
  have hsection : settings.consumer.toJson.depth + 1 ≤ settings.toJson.depth := by
    have hmem : ("consumer", settings.consumer.toJson) ∈ [("connection", settings.connection.toJson),
        ("consumer", settings.consumer.toJson), ("publisher", settings.publisher.toJson)] := by
      simp
    exact Nat.succ_le_succ (Json.depth_le_fieldsDepth hmem)
  have hinside : (Value.object settings.consumer.arguments).depth + 1 ≤
      settings.consumer.toJson.depth := by
    have hmem : ("arguments", Value.object settings.consumer.arguments) ∈
        if settings.consumer.arguments.isEmpty then []
        else [("arguments", .object settings.consumer.arguments)] := by
      simp [hnone]
    exact Nat.succ_le_succ (Json.depth_le_fieldsDepth (List.mem_append_right _ hmem))
  omega

/-- A document has no doubles but those in the arguments. -/
theorem floatFree_toJson {settings : Settings}
    (hfree : (Value.object settings.consumer.arguments).FloatFree) :
    settings.toJson.FloatFree := by
  refine Value.floatFree_object fun field hmem => ?_
  simp only [List.mem_cons, List.not_mem_nil, or_false] at hmem
  rcases hmem with rfl | rfl | rfl
  · refine Value.floatFree_object fun field hmem => ?_
    simp only [List.mem_append, List.mem_singleton, Option.mem_toList, Option.map_eq_some_iff] at hmem
    rcases hmem with (rfl | ⟨uri, -, rfl⟩) | rfl
    · refine Value.floatFree_array fun item hitem => ?_
      obtain ⟨endpoint, -, rfl⟩ := List.mem_map.mp hitem
      exact Value.floatFree_string endpoint
    · exact Value.floatFree_string uri
    · exact Value.floatFree_ofNat _
  · refine Value.floatFree_object fun field hmem => ?_
    rcases List.mem_append.mp hmem with hmem | hmem
    · simp only [List.mem_cons, List.not_mem_nil, or_false] at hmem
      rcases hmem with rfl | rfl | rfl | rfl | rfl | rfl | rfl
      · exact Value.floatFree_string _
      · exact Value.floatFree_bool _
      · exact Value.floatFree_bool _
      · exact Value.floatFree_bool _
      · exact Value.floatFree_ofNat _
      · exact Value.floatFree_ofNat _
      · exact Value.floatFree_bool _
    · split_ifs at hmem
      · cases hmem
      · obtain rfl := List.mem_singleton.mp hmem
        exact hfree
  · refine Value.floatFree_object fun field hmem => ?_
    simp only [List.mem_cons, List.not_mem_nil, or_false] at hmem
    rcases hmem with rfl | rfl
    · exact Value.floatFree_string _
    · exact Value.floatFree_string _

/-- The text of a file that has been written is read back. -/
theorem readText_of_write {tree tree' : FileTree} (hwork : tree.HasWorkFolder) {path text : String}
    (hwrite : tree.write path (Bytes.ofString text) = .ok tree') :
    tree'.readText path = .ok (Bytes.ofString text) := by
  rw [FileTree.readText, FileTree.readBytes_of_write hwork hwrite]
  show (if (Bytes.toString? (Bytes.ofString text)).isSome then _ else _) = _
  rw [Bytes.toString?_ofString]
  rfl

/-- A file with one of the two texts of settings is loaded as these, unless they are refused. -/
theorem load_of_readText {settings : Settings}
    (hsound : (Value.object settings.consumer.arguments).WellFormed)
    (hfree : (Value.object settings.consumer.arguments).FloatFree)
    (hdepth : settings.toJson.depth ≤ Shape.depthLimit) {text : String}
    (htext : text = settings.toJson.compact ∨ text = settings.toJson.pretty)
    {tree : FileTree} {path : String} (hread : tree.readText path = .ok (Bytes.ofString text)) :
    load tree path = settings.checked := by
  have hspells : Json.Spells settings.toJson (Bytes.ofString text) := by
    rcases htext with rfl | rfl
    · exact Json.spells_compact (floatFree_toJson hfree)
    · exact Json.spells_pretty (floatFree_toJson hfree)
  have hload := Given.load_document (Given.isDocument_toJson settings)
    (Given.argumentsFit_ofSettings hsound hdepth) hspells.isTextOf hread
  rwa [Given.complete_ofSettings] at hload

/-- Settings that have been written are loaded as they were, or refused as they are. -/
theorem load_written {settings : Settings}
    (hsound : (Value.object settings.consumer.arguments).WellFormed)
    (hfree : (Value.object settings.consumer.arguments).FloatFree)
    (hdepth : settings.toJson.depth ≤ Shape.depthLimit) {text : String}
    (htext : text = settings.toJson.compact ∨ text = settings.toJson.pretty)
    {tree tree' : FileTree} (hwork : tree.HasWorkFolder) {path : String}
    (hwrite : tree.write path (Bytes.ofString text) = .ok tree') :
    (settings.validate = .ok () → load tree' path = .ok settings) ∧
      ∀ fault, settings.validate = .error fault →
        load tree' path = .error (.ofMessage fault.message) := by
  have hload := load_of_readText hsound hfree hdepth htext (readText_of_write hwork hwrite)
  constructor
  · intro hvalid
    rw [hload, checked_eq_ok]
    exact ⟨rfl, hvalid⟩
  · intro fault hfault
    rw [hload, checked, hfault]

/-- A folder with one settings file. -/
def folderWith (text : String) : FileTree where
  rootText := "/work"
  root := .folder [(fileName, .file (Bytes.ofString text))]
  workFolder := []

theorem write_folderWith (text : String) :
    FileTree.write ⟨"/work", .folder [], []⟩ fileName (Bytes.ofString text) =
      .ok (folderWith text) :=
  rfl

theorem readText_folderWith (text : String) :
    (folderWith text).readText fileName = .ok (Bytes.ofString text) :=
  readText_of_write ⟨[], rfl⟩ (write_folderWith text)

/-- Settings with a priority for the consumer, written into an empty folder and loaded again. -/
theorem load_written_priority :
    let settings : Settings :=
      { starter with consumer :=
        { ConsumerSettings.standard with arguments := [("x-priority", .ofNat 5)] } }
    load (folderWith settings.toJson.pretty) fileName = .ok settings := by
  intro settings
  refine (load_written ?_ ?_ ?_ (.inr rfl) ⟨[], rfl⟩ (write_folderWith _)).1 rfl
  · simp [settings, Value.WellFormed, Value.parts, Json.fieldParts, Value.ofNat, Value.IsSound,
      Json.fitsWord]
  · exact Value.floatFree_object (by simp [settings, Value.floatFree_ofNat])
  · decide

end BrokerClient.Settings
