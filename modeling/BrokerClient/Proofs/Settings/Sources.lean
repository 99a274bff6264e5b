import BrokerClient.Proofs.Settings.Environment
import BrokerClient.Proofs.Settings.RoundTrip

/-!
# The two sources of settings

Variables and settings files name the same settings.  A document with one field for each variable that
is set is loaded as the settings that the variables give, with one exception: a routing key that is
not named is the queue among variables, and always the default queue in a file.  So both give the same
settings exactly if the routing key is named or the queue is the default one
(`Settings.load_variables_document`).
-/

namespace BrokerClient.Settings

open Json (Value IsTextOf MadeOf)

/-- The endpoints and the settings whose variables are set, as given ones. -/
def Given.ofLookup (lookup : Lookup) : Given where
  endpoints := some (endpointVariables lookup)
  uri := none
  reconnectSeconds :=
    (numberDenoted lookup "RABBITMQ_RECONNECT_DELAY_SECONDS" UInt64.size).map UInt64.ofNat
  queue := lookup.text "RABBITMQ_QUEUE"
  autoAck := flagDenoted lookup "RABBITMQ_AUTO_ACK"
  exclusive := flagDenoted lookup "RABBITMQ_EXCLUSIVE"
  noLocal := flagDenoted lookup "RABBITMQ_NO_LOCAL"
  prefetchCount := (numberDenoted lookup "RABBITMQ_PREFETCH_COUNT" UInt16.size).map UInt16.ofNat
  prefetchSize := (numberDenoted lookup "RABBITMQ_PREFETCH_SIZE" UInt32.size).map UInt32.ofNat
  prefetchGlobal := flagDenoted lookup "RABBITMQ_PREFETCH_GLOBAL"
  arguments := none
  exchange := lookup.text "RABBITMQ_EXCHANGE"
  routingKey := lookup.text "RABBITMQ_ROUTING_KEY"

/-- The settings with the routing key that a file has when it names none. -/
def withFileRoutingKey (settings : Settings) (lookup : Lookup) : Settings :=
  { settings with publisher :=
    { settings.publisher with
      routingKey := (lookup.text "RABBITMQ_ROUTING_KEY").getD defaultQueue } }

/-- All defaults but that of the routing key are the same. -/
theorem Given.complete_ofLookup (lookup : Lookup) :
    (Given.ofLookup lookup).complete = (denoted lookup).withFileRoutingKey lookup := by
  rfl

theorem validate_withFileRoutingKey (settings : Settings) (lookup : Lookup) :
    (settings.withFileRoutingKey lookup).validate = settings.validate := by
  rfl

variable {lookup : Lookup} {settings : Settings}

/-- The routing key in a file is the one among the variables if it is named or the queue is the default
one. -/
theorem withFileRoutingKey_eq_iff (hgiven : settings = denoted lookup) :
    settings.withFileRoutingKey lookup = settings ↔
      (lookup.text "RABBITMQ_ROUTING_KEY").isSome ∨ settings.consumer.queue = defaultQueue := by
  -- among variables the queue that is named stands for a routing key that is not
  have hkey : settings.publisher.routingKey =
      (lookup.text "RABBITMQ_ROUTING_KEY").getD settings.consumer.queue := by
    subst hgiven
    rfl
  have heq : settings.withFileRoutingKey lookup = settings ↔
      (lookup.text "RABBITMQ_ROUTING_KEY").getD defaultQueue = settings.publisher.routingKey := by
    constructor
    · intro h
      exact congrArg (·.publisher.routingKey) h
    · intro h
      rw [withFileRoutingKey, h]
  rw [heq, hkey]
  cases lookup.text "RABBITMQ_ROUTING_KEY" with
  | none => simp [eq_comm]
  | some key => simp

/-- A document of the variables is loaded as the settings that they give, with the routing key of a
file. -/
theorem Given.load_ofLookup (haccepted : ofVariables lookup = .ok settings) {document : Value}
    (hdocument : (Given.ofLookup lookup).IsDocument document) {content : Bytes}
    (hcontent : IsTextOf document content) {tree : FileTree} {path : String}
    (hread : tree.readText path = .ok content) :
    load tree path = .ok (settings.withFileRoutingKey lookup) := by
  obtain ⟨-, rfl, hvalid⟩ := ofVariables_cases haccepted
  have hfit : (Given.ofLookup lookup).ArgumentsFit := fun arguments hnone => nomatch hnone
  rw [Given.load_document hdocument hfit hcontent hread, Given.complete_ofLookup, checked,
    validate_withFileRoutingKey, hvalid]

/-- A document of the variables is loaded as the settings that they give, exactly if the routing key is
named or the queue is the default one; otherwise the default queue is the routing key. -/
theorem load_variables_document (haccepted : ofVariables lookup = .ok settings) {document : Value}
    (hdocument : (Given.ofLookup lookup).IsDocument document) {content : Bytes}
    (hcontent : IsTextOf document content) {tree : FileTree} {path : String}
    (hread : tree.readText path = .ok content) :
    load tree path = .ok (settings.withFileRoutingKey lookup) ∧
      (load tree path = .ok settings ↔
        (lookup.text "RABBITMQ_ROUTING_KEY").isSome ∨ settings.consumer.queue = defaultQueue) := by
  have hload := Given.load_ofLookup haccepted hdocument hcontent hread
  refine ⟨hload, ?_⟩
  rw [hload, Except.ok.injEq]
  exact withFileRoutingKey_eq_iff (ofVariables_cases haccepted).2.1

/-! ## A queue without a routing key -/

/-- Variables that name a broker and a queue, and no routing key. -/
def queueOnly : Lookup
  | "RABBITMQ_URL" => some "amqp://a"
  | "RABBITMQ_QUEUE" => some "orders"
  | _ => none

/-- The document for `queueOnly`. -/
def queueOnlyDocument : Value :=
  .object [("connection", .object [("endpoints", .array [.string "amqp://a"])]),
    ("consumer", .object [("queue", .string "orders")])]

theorem isDocument_queueOnly : (Given.ofLookup queueOnly).IsDocument queueOnlyDocument := by
  have hendpoints : endpointVariables queueOnly = ["amqp://a"] := by decide
  have hset : Text.allBlank "orders" = false := by decide
  have hconnection : MadeOf (Given.ofLookup queueOnly).connectionFields
      [("endpoints", .array [.string "amqp://a"])] := by
    refine ⟨by simp, fun key value => ?_⟩
    simp [Given.connectionFields, Given.ofLookup, hendpoints, numberDenoted, Lookup.text, queueOnly]
  have hconsumer : MadeOf (Given.ofLookup queueOnly).consumerFields [("queue", .string "orders")] := by
    refine ⟨by simp, fun key value => ?_⟩
    simp [Given.consumerFields, Given.ofLookup, numberDenoted, flagDenoted, Lookup.text, queueOnly,
      hset]
    exact fun _ => eq_comm
  have hpublisher : MadeOf (Given.ofLookup queueOnly).publisherFields [] := by
    refine ⟨by simp, fun key value => ?_⟩
    simp [Given.publisherFields, Given.ofLookup, Lookup.text, queueOnly]
  refine .mk ⟨by simp, fun key value => ?_⟩ hconnection hconsumer hpublisher .written (.omitted rfl)
  simp

theorem ofVariables_queueOnly : ofVariables queueOnly = .ok (denoted queueOnly) := by
  rfl

theorem isTextOf_queueOnlyDocument :
    IsTextOf queueOnlyDocument (Bytes.ofString queueOnlyDocument.compact) := by
  refine (Json.spells_compact (Value.floatFree_object fun field hmem => ?_)).isTextOf
  simp only [List.mem_cons, List.not_mem_nil, or_false] at hmem
  rcases hmem with rfl | rfl <;> refine Value.floatFree_object ?_
  · simpa using Value.floatFree_array (by simpa using Value.floatFree_string "amqp://a")
  · simpa using Value.floatFree_string "orders"

/-- The file has the default queue as routing key, and not the queue that is named. -/
theorem load_queueOnly :
    load (folderWith queueOnlyDocument.compact) fileName =
        .ok { denoted queueOnly with publisher := { exchange := "", routingKey := "events" } } ∧
      load (folderWith queueOnlyDocument.compact) fileName ≠ .ok (denoted queueOnly) := by
  obtain ⟨hload, hiff⟩ := load_variables_document ofVariables_queueOnly isDocument_queueOnly
    isTextOf_queueOnlyDocument (readText_folderWith _)
  refine ⟨hload, fun hsame => ?_⟩
  exact absurd (hiff.mp hsame) (by decide)

/-- A document of the variables need not be loaded as the settings that they give. -/
theorem not_forall_load_variables_document :
    ¬ ∀ (lookup : Lookup) (settings : Settings) (document : Value) (content : Bytes)
      (tree : FileTree) (path : String), ofVariables lookup = .ok settings →
        (Given.ofLookup lookup).IsDocument document → IsTextOf document content →
        tree.readText path = .ok content → load tree path = .ok settings := by
  intro hall
  have hsame := hall queueOnly _ _ _ _ _ ofVariables_queueOnly isDocument_queueOnly
    isTextOf_queueOnlyDocument (readText_folderWith _)
  rw [Given.load_ofLookup ofVariables_queueOnly isDocument_queueOnly isTextOf_queueOnlyDocument
    (readText_folderWith _)] at hsame
  have hiff := withFileRoutingKey_eq_iff (show denoted queueOnly = denoted queueOnly from rfl)
  exact absurd (hiff.mp (Except.ok.inj hsame)) (by decide)

end BrokerClient.Settings
