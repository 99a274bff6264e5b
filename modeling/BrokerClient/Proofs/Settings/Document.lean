import BrokerClient.Proofs.Json.Shapes
import BrokerClient.Settings.File

/-!
# Documents in which some settings are given

`Settings.Given` says which settings are given and which are left to their defaults, and
`Given.complete` puts the defaults in.  A document of the given settings has a field for each of them
and no other field; a section without any field may be left out altogether.  However such a document
is written, its text reads as the given settings with the defaults for the others
(`Given.load_document`).
-/

namespace BrokerClient

open Json (Value Shape MadeOf IsTextOf)
open Json.Shape (Accepts Field FieldFits)

namespace Settings

/-- Settings of which some are given. -/
structure Given where
  endpoints : Option (List String)
  uri : Option String
  reconnectSeconds : Option UInt64
  queue : Option String
  autoAck : Option Bool
  exclusive : Option Bool
  noLocal : Option Bool
  prefetchCount : Option UInt16
  prefetchSize : Option UInt32
  prefetchGlobal : Option Bool
  arguments : Option (List (String × Value))
  exchange : Option String
  routingKey : Option String

namespace Given

/-- The fields of the section on the connection, each with its value if it is given. -/
def connectionFields (given : Given) : List (String × Option Value) :=
  [("endpoints", given.endpoints.map fun endpoints => .array (endpoints.map .string)),
   ("uri", given.uri.map .string),
   ("reconnect_delay_seconds", given.reconnectSeconds.map fun n => .ofNat n.toNat)]

@[inherit_doc connectionFields]
def consumerFields (given : Given) : List (String × Option Value) :=
  [("queue", given.queue.map .string),
   ("auto_ack", given.autoAck.map .bool),
   ("exclusive", given.exclusive.map .bool),
   ("no_local", given.noLocal.map .bool),
   ("prefetch_count", given.prefetchCount.map fun n => .ofNat n.toNat),
   ("prefetch_size", given.prefetchSize.map fun n => .ofNat n.toNat),
   ("prefetch_global", given.prefetchGlobal.map .bool),
   ("arguments", given.arguments.map .object)]

@[inherit_doc connectionFields]
def publisherFields (given : Given) : List (String × Option Value) :=
  [("exchange", given.exchange.map .string),
   ("routing_key", given.routingKey.map .string)]

theorem connectionFields_distinct (given : Given) :
    (given.connectionFields.map (·.1)).Nodup := by
  simp [connectionFields]

theorem consumerFields_distinct (given : Given) : (given.consumerFields.map (·.1)).Nodup := by
  simp [consumerFields]

theorem publisherFields_distinct (given : Given) : (given.publisherFields.map (·.1)).Nodup := by
  simp [publisherFields]

/-- The settings with the defaults for those that are not given. -/
def complete (given : Given) : Settings where
  connection :=
    { endpoints := given.endpoints.getD ConnectionSettings.standard.endpoints
      uri := given.uri
      reconnectSeconds := given.reconnectSeconds.getD ConnectionSettings.standard.reconnectSeconds }
  consumer :=
    { queue := given.queue.getD ConsumerSettings.standard.queue
      autoAck := given.autoAck.getD ConsumerSettings.standard.autoAck
      exclusive := given.exclusive.getD ConsumerSettings.standard.exclusive
      noLocal := given.noLocal.getD ConsumerSettings.standard.noLocal
      prefetchCount := given.prefetchCount.getD ConsumerSettings.standard.prefetchCount
      prefetchSize := given.prefetchSize.getD ConsumerSettings.standard.prefetchSize
      prefetchGlobal := given.prefetchGlobal.getD ConsumerSettings.standard.prefetchGlobal
      arguments := given.arguments.getD ConsumerSettings.standard.arguments }
  publisher :=
    { exchange := given.exchange.getD PublisherSettings.standard.exchange
      routingKey := given.routingKey.getD PublisherSettings.standard.routingKey }

/-- How a section that may be left out is written: with its fields, or not at all if it has none. -/
inductive Section (fields : List (String × Value)) : Option Value → Prop
  | written : Section fields (some (.object fields))
  | omitted (hnone : fields = []) : Section fields none

/-- Is the value a document of the given settings? -/
inductive IsDocument (given : Given) : Value → Prop
  | mk {sections connection consumer publisher : List (String × Value)}
      {consumer? publisher? : Option Value}
      (hsections : MadeOf [("connection", some (.object connection)), ("consumer", consumer?),
        ("publisher", publisher?)] sections)
      (hconnection : MadeOf given.connectionFields connection)
      (hconsumer : MadeOf given.consumerFields consumer)
      (hpublisher : MadeOf given.publisherFields publisher)
      (hconsumer? : Section consumer consumer?)
      (hpublisher? : Section publisher publisher?) : IsDocument given (.object sections)

/-- Can the arguments be written and read back, at their place in a document? -/
def ArgumentsFit (given : Given) : Prop :=
  ∀ arguments, given.arguments = some arguments →
    (Value.object arguments).WellFormed ∧ (Value.object arguments).depth + 2 ≤ Shape.depthLimit

end Given

/-- Settings are taken as they are if they pass `validate`. -/
theorem checked_eq_ok {settings result : Settings} :
    settings.checked = .ok result ↔ settings = result ∧ settings.validate = .ok () := by
  rw [checked]
  split
  · rename_i hvalid
    simp [hvalid]
  · rename_i hfault
    simp [hfault]

end Settings

open Settings (Given)

variable {given : Given}

/-! ## What the sections are read as -/

/-- A section that has the given fields is read as the given settings with the defaults. -/
theorem ConnectionSettings.ofJson_eq {value : Value}
    (hget : ∀ entry ∈ given.connectionFields, value.get entry.1 = entry.2.getD .null) :
    ConnectionSettings.ofJson value = given.complete.connection := by
  simp only [Given.connectionFields, List.forall_mem_cons] at hget
  obtain ⟨hendpoints, huri, hdelay, -⟩ := hget
  simp only [ConnectionSettings.ofJson, natOr, hendpoints, huri, hdelay, Given.complete]
  congr 1
  · cases given.endpoints with
    | none => rfl
    | some endpoints =>
        simp [Value.asArray?, List.filterMap_map, Function.comp_def, Value.asString?]
  · cases given.uri <;> rfl
  · cases given.reconnectSeconds with
    | none => rfl
    | some n => simp [Value.asNat?, Value.asInt?, Value.ofNat]

@[inherit_doc ConnectionSettings.ofJson_eq]
theorem ConsumerSettings.ofJson_eq {value : Value}
    (hget : ∀ entry ∈ given.consumerFields, value.get entry.1 = entry.2.getD .null) :
    ConsumerSettings.ofJson value = given.complete.consumer := by
  simp only [Given.consumerFields, List.forall_mem_cons] at hget
  obtain ⟨hqueue, hack, hexclusive, hlocal, hcount, hsize, hglobal, harguments, -⟩ := hget
  simp only [ConsumerSettings.ofJson, textOr, flagOr, natOr, hqueue, hack, hexclusive, hlocal,
    hcount, hsize, hglobal, harguments, Given.complete]
  congr 1
  · cases given.queue <;> rfl
  · cases given.autoAck <;> rfl
  · cases given.exclusive <;> rfl
  · cases given.noLocal <;> rfl
  · cases given.prefetchCount with
    | none => rfl
    | some n => simp [Value.asNat?, Value.asInt?, Value.ofNat]
  · cases given.prefetchSize with
    | none => rfl
    | some n => simp [Value.asNat?, Value.asInt?, Value.ofNat]
  · cases given.prefetchGlobal <;> rfl
  · cases given.arguments <;> rfl

@[inherit_doc ConnectionSettings.ofJson_eq]
theorem PublisherSettings.ofJson_eq {value : Value}
    (hget : ∀ entry ∈ given.publisherFields, value.get entry.1 = entry.2.getD .null) :
    PublisherSettings.ofJson value = given.complete.publisher := by
  simp only [Given.publisherFields, List.forall_mem_cons] at hget
  obtain ⟨hexchange, hkey, -⟩ := hget
  simp only [PublisherSettings.ofJson, textOr, hexchange, hkey, Given.complete]
  congr 1
  · cases given.exchange <;> rfl
  · cases given.routingKey <;> rfl

/-! ## What the shapes of the sections take -/

/-- A record all of whose fields may be left out takes any of them. -/
theorem section_accepts {name : String} {fields : List Field} {depth : Nat}
    {expected : List (String × Option Value)} {inside : List (String × Value)}
    (hmade : MadeOf expected inside)
    (hfits : ∀ key value, (key, some value) ∈ expected →
      FieldFits fields depth (key, value) (key, value))
    (hoptional : ∀ field ∈ fields, field.required = false) :
    (Shape.record name fields).Accepts (depth + 1) (.object inside)
      (Json.ofFields inside.reverse) := by
  refine Shape.record_accepts ?_ hmade.distinct ?_
  · rw [List.forall₂_same]
    rintro ⟨key, value⟩ hmem
    exact hfits key value ((hmade.mem_iff key value).mp hmem)
  · intro field hmem hrequired
    rw [hoptional field hmem] at hrequired
    cases hrequired

theorem ConnectionSettings.shape_accepts {inside : List (String × Value)}
    (hmade : MadeOf given.connectionFields inside) (depth : Nat) :
    ConnectionSettings.shape.Accepts (depth + 2) (.object inside)
      (Json.ofFields inside.reverse) := by
  refine section_accepts hmade ?_ ?_
  · intro key value hmem
    simp only [Given.connectionFields, List.mem_cons, Prod.mk.injEq, List.not_mem_nil,
      or_false] at hmem
    rcases hmem with ⟨rfl, h⟩ | ⟨rfl, h⟩ | ⟨rfl, h⟩
    · obtain ⟨endpoints, -, rfl⟩ := Option.map_eq_some_iff.mp h.symm
      refine ⟨rfl, _, rfl, Shape.list_accepts fun item hitem => ?_⟩
      obtain ⟨endpoint, -, rfl⟩ := List.mem_map.mp hitem
      exact Shape.string_accepts _ _
    · obtain ⟨uri, -, rfl⟩ := Option.map_eq_some_iff.mp h.symm
      exact ⟨rfl, _, rfl, Shape.option_accepts (Shape.string_accepts _ _) (by simp)⟩
    · obtain ⟨n, -, rfl⟩ := Option.map_eq_some_iff.mp h.symm
      exact ⟨rfl, _, rfl, Shape.unsigned_accepts _ (by decide) n.toNat_lt⟩
  · simp

theorem ConsumerSettings.shape_accepts {inside : List (String × Value)}
    (hmade : MadeOf given.consumerFields inside) {depth : Nat}
    (hfit : ∀ arguments, given.arguments = some arguments →
      (Value.object arguments).WellFormed ∧ (Value.object arguments).depth ≤ depth + 1) :
    ConsumerSettings.shape.Accepts (depth + 2) (.object inside)
      (Json.ofFields inside.reverse) := by
  refine section_accepts hmade ?_ ?_
  · intro key value hmem
    simp only [Given.consumerFields, List.mem_cons, Prod.mk.injEq, List.not_mem_nil,
      or_false] at hmem
    rcases hmem with ⟨rfl, h⟩ | ⟨rfl, h⟩ | ⟨rfl, h⟩ | ⟨rfl, h⟩ | ⟨rfl, h⟩ | ⟨rfl, h⟩ | ⟨rfl, h⟩ |
      ⟨rfl, h⟩ <;> obtain ⟨x, hx, rfl⟩ := Option.map_eq_some_iff.mp h.symm
    · exact ⟨rfl, _, rfl, Shape.string_accepts _ _⟩
    · exact ⟨rfl, _, rfl, Shape.bool_accepts _ _⟩
    · exact ⟨rfl, _, rfl, Shape.bool_accepts _ _⟩
    · exact ⟨rfl, _, rfl, Shape.bool_accepts _ _⟩
    · exact ⟨rfl, _, rfl, Shape.unsigned_accepts _ (by decide) x.toNat_lt⟩
    · exact ⟨rfl, _, rfl, Shape.unsigned_accepts _ (by decide) x.toNat_lt⟩
    · exact ⟨rfl, _, rfl, Shape.bool_accepts _ _⟩
    · exact ⟨rfl, _, rfl, Shape.map_accepts (hfit x hx).1 (hfit x hx).2⟩
  · simp

theorem PublisherSettings.shape_accepts {inside : List (String × Value)}
    (hmade : MadeOf given.publisherFields inside) (depth : Nat) :
    PublisherSettings.shape.Accepts (depth + 1) (.object inside)
      (Json.ofFields inside.reverse) := by
  refine section_accepts hmade ?_ ?_
  · intro key value hmem
    simp only [Given.publisherFields, List.mem_cons, Prod.mk.injEq, List.not_mem_nil,
      or_false] at hmem
    rcases hmem with ⟨rfl, h⟩ | ⟨rfl, h⟩ <;> obtain ⟨x, -, rfl⟩ := Option.map_eq_some_iff.mp h.symm
    · exact ⟨rfl, _, rfl, Shape.string_accepts _ _⟩
    · exact ⟨rfl, _, rfl, Shape.string_accepts _ _⟩
  · simp

/-! ## Whole documents -/

/-- What a record makes of an object whose fields it takes as they are. -/
def taken : Value → Value
  | .object fields => Json.ofFields fields.reverse
  | value => value

theorem get_taken {expected : List (String × Option Value)} {inside : List (String × Value)}
    (hmade : MadeOf expected inside) (hdistinct : (expected.map (·.1)).Nodup) :
    ∀ entry ∈ expected, (taken (.object inside)).get entry.1 = entry.2.getD .null := by
  intro entry hmem
  exact (Shape.get_ofFields_reverse inside entry.1).trans (hmade.get_eq hdistinct hmem)

namespace Settings.Given

/-- A section gives what it is made of, whether it is written or left out. -/
theorem Section.get_taken {expected : List (String × Option Value)}
    {inside : List (String × Value)} {written : Option Value} (hsection : Section inside written)
    (hmade : MadeOf expected inside) (hdistinct : (expected.map (·.1)).Nodup) :
    ∀ entry ∈ expected, ((written.map taken).getD .null).get entry.1 = entry.2.getD .null := by
  cases hsection with
  | written => exact BrokerClient.get_taken hmade hdistinct
  | omitted hnone =>
      subst hnone
      exact fun entry hmem => hmade.get_eq hdistinct hmem

theorem shape_accepts {sections connection consumer publisher : List (String × Value)}
    {consumer? publisher? : Option Value} (depth : Nat)
    (hsections : MadeOf [("connection", some (.object connection)), ("consumer", consumer?),
      ("publisher", publisher?)] sections)
    (hconnection : MadeOf given.connectionFields connection)
    (hconsumer : MadeOf given.consumerFields consumer)
    (hpublisher : MadeOf given.publisherFields publisher)
    (hconsumer? : Section consumer consumer?) (hpublisher? : Section publisher publisher?)
    (hfit : ∀ arguments, given.arguments = some arguments →
      (Value.object arguments).WellFormed ∧ (Value.object arguments).depth ≤ depth + 1) :
    Settings.shape.Accepts (depth + 3) (.object sections)
      (Json.ofFields (sections.map fun entry => (entry.1, taken entry.2)).reverse) := by
  refine Shape.record_accepts ?_ hsections.distinct ?_
  · rw [List.forall₂_map_right_iff, List.forall₂_same]
    rintro ⟨key, value⟩ hmem
    have hmem := (hsections.mem_iff key value).mp hmem
    simp only [List.mem_cons, Prod.mk.injEq, List.not_mem_nil, or_false] at hmem
    rcases hmem with ⟨rfl, h⟩ | ⟨rfl, rfl⟩ | ⟨rfl, rfl⟩
    · cases h
      exact ⟨rfl, _, rfl, ConnectionSettings.shape_accepts hconnection _⟩
    · cases hconsumer?
      exact ⟨rfl, _, rfl, ConsumerSettings.shape_accepts hconsumer hfit⟩
    · cases hpublisher?
      exact ⟨rfl, _, rfl, PublisherSettings.shape_accepts hpublisher _⟩
  · -- only the section on the connection is required
    intro field hmem hrequired
    simp only [List.mem_cons, List.not_mem_nil, or_false] at hmem
    rcases hmem with rfl | rfl | rfl
    · have hthere := (hsections.mem_iff "connection" (.object connection)).mpr List.mem_cons_self
      exact List.mem_map_of_mem hthere
    · cases hrequired
    · cases hrequired

/-- A text of a document of the given settings reads as these, with the defaults for the others. -/
theorem ofBytes?_document {document : Value} (hdocument : given.IsDocument document)
    (hfit : given.ArgumentsFit) {content : Bytes} (hcontent : IsTextOf document content) :
    Settings.ofBytes? content = .ok given.complete := by
  obtain ⟨hsections, hconnection, hconsumer, hpublisher, hconsumer?, hpublisher?⟩ := hdocument
  rename_i sections connection consumer publisher consumer? publisher?
  -- three brackets of the limit go to the document, a section and what stands in the section
  have haccepts := shape_accepts 124 hsections hconnection hconsumer hpublisher
    hconsumer? hpublisher? fun arguments harguments =>
      ⟨(hfit arguments harguments).1, Nat.le_of_add_le_add_right (hfit arguments harguments).2⟩
  rw [Settings.ofBytes?, Shape.ofBytes?_of_accepts haccepts hcontent, Except.map]
  have hget : ∀ entry ∈ [("connection", some (Value.object connection)), ("consumer", consumer?),
      ("publisher", publisher?)],
      (Json.ofFields (sections.map fun entry => (entry.1, taken entry.2)).reverse).get entry.1 =
        (entry.2.map taken).getD .null := by
    intro entry hmem
    rw [Shape.get_ofFields_reverse, Value.get, Fields.find?_map,
      hsections.find?_eq (by simp) hmem]
  simp only [List.forall_mem_cons] at hget
  obtain ⟨hconnection', hconsumer', hpublisher', -⟩ := hget
  have hfirst : ConnectionSettings.ofJson (taken (.object connection)) =
      given.complete.connection :=
    ConnectionSettings.ofJson_eq (BrokerClient.get_taken hconnection given.connectionFields_distinct)
  have hsecond := ConsumerSettings.ofJson_eq (hconsumer?.get_taken hconsumer
    given.consumerFields_distinct)
  have hthird := PublisherSettings.ofJson_eq (hpublisher?.get_taken hpublisher
    given.publisherFields_distinct)
  rw [Settings.ofJson, hconnection', hconsumer', hpublisher', hsecond, hthird]
  exact congrArg (fun connection => Except.ok (Settings.mk connection _ _)) hfirst

/-- A file that holds a document of the given settings is loaded as these, with the defaults for the
others, unless they are refused. -/
theorem load_document {document : Value} (hdocument : given.IsDocument document)
    (hfit : given.ArgumentsFit) {content : Bytes} (hcontent : IsTextOf document content)
    {tree : FileTree} {path : String} (hread : tree.readText path = .ok content) :
    Settings.load tree path = given.complete.checked := by
  rw [Settings.load, hread]
  show Settings.ofFile content = _
  rw [Settings.ofFile, ofBytes?_document hdocument hfit hcontent]

end Settings.Given

end BrokerClient
