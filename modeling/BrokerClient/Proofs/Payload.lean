import BrokerClient.Delivery
import BrokerClient.Event
import BrokerClient.Proofs.Json.Depth

/-!
# Payloads from sender to receiver

A JSON value that is sent as payload comes out of the delivery as it went in, with every character
of its texts, every integer of 64 bits and every field at its place (`Event.payload_delivered`).
The sender writes values of any depth and the receiver reads them only so deep; deeper ones are sent
all the same, and it is the receiver who refuses them.  Doubles are left out.
-/

namespace BrokerClient

open Json (Value Shape)

/-- What the application makes of a body that is a text of a value. -/
theorem Delivery.json_of_isTextOf {delivery : Delivery} {value : Value}
    (htext : Json.IsTextOf value delivery.data) (hsound : value.WellFormed) :
    (delivery.json = .ok value ↔ value.depth ≤ Shape.depthLimit) ∧
      (Shape.depthLimit < value.depth → ∃ e : Json.PlacedError, e.fault = .recursionLimit ∧
        delivery.json = .error (.deserialization e.message)) := by
  have hread := Shape.any_ofBytes?_eq_ok_iff htext hsound
  refine ⟨?_, fun hdeep => ?_⟩
  · rw [json, decode, ← hread]
    cases Shape.any.ofBytes? delivery.data <;> simp [Except.mapError]
  · obtain ⟨e, herror, hfault⟩ := Shape.any_ofBytes?_of_deep htext hsound hdeep
    refine ⟨e, hfault, ?_⟩
    rw [json, decode, herror]
    rfl

namespace Event

/-- The body of a message that carries a value is a text of it. -/
theorem isTextOf_body {value : Value} (hfree : value.FloatFree) {event : Event}
    {exchange routingKey id : String} {now : Timestamp}
    (hevent : ofJson exchange routingKey value id now = .ok event) :
    Json.IsTextOf value event.toMessage.body := by
  cases hevent
  exact (Json.spells_compact hfree).isTextOf

/-- A value that is sent is received as it was, and one that nests too deep is sent and refused. -/
theorem payload_delivered {value : Value} (hsound : value.WellFormed) (hfree : value.FloatFree)
    (exchange routingKey id : String) (now : Timestamp) :
    ∃ event, ofJson exchange routingKey value id now = .ok event ∧
      event.exchange = exchange ∧ event.routingKey = routingKey ∧
      event.toMessage.contentType = "application/json" ∧
      ∀ delivery : Delivery, delivery.data = event.toMessage.body →
        (delivery.json = .ok value ↔ value.depth ≤ Shape.depthLimit) ∧
        (Shape.depthLimit < value.depth → ∃ e : Json.PlacedError, e.fault = .recursionLimit ∧
          delivery.json = .error (.deserialization e.message)) := by
  refine ⟨_, rfl, rfl, rfl, rfl, fun delivery hdata => ?_⟩
  have htext := isTextOf_body hfree (rfl : ofJson exchange routingKey value id now = .ok _)
  exact Delivery.json_of_isTextOf (hdata ▸ htext) hsound

/-- An order with the greatest and the least integers, and texts that need escapes. -/
def orderPayload : Value :=
  .object [("id", .ofInt 18446744073709551615),
    ("lines", .array [.object [("count", .ofInt (-9223372036854775808)),
      ("name", .string "café \"1\\2\"\n\x01 😀")]]),
    ("note", .null), ("paid", .bool true)]

theorem orderPayload_wellFormed : orderPayload.WellFormed := by
  simp only [orderPayload, Value.WellFormed, Value.parts, Json.fieldParts, Json.itemParts,
    Value.ofInt, List.append_nil, List.cons_append, List.nil_append, List.forall_mem_cons,
    List.not_mem_nil, IsEmpty.forall_iff, implies_true, Value.IsSound, List.map_cons,
    List.map_nil, String.lt_iff_toList_lt]
  decide

theorem orderPayload_floatFree : orderPayload.FloatFree := by
  simp [orderPayload, Value.FloatFree, Value.parts, Json.fieldParts, Json.itemParts, Value.ofInt]

/-- So many arrays, each the only item of the one around it. -/
def nestedPayload : Nat → Value
  | 0 => .null
  | n + 1 => .array [nestedPayload n]

theorem depth_nestedPayload (n : Nat) : (nestedPayload n).depth = n := by
  induction n with
  | zero => rfl
  | succ n ih => simp [nestedPayload, Value.depth, Json.itemsDepth, ih]

theorem nestedPayload_sound (n : Nat) :
    (nestedPayload n).WellFormed ∧ (nestedPayload n).FloatFree := by
  induction n with
  | zero => simp [nestedPayload, Value.WellFormed, Value.FloatFree, Value.parts, Value.IsSound]
  | succ n ih =>
      refine ⟨?_, Value.floatFree_array (by simpa using ih.2)⟩
      simpa [nestedPayload, Value.WellFormed, Value.parts, Json.itemParts, Value.IsSound] using ih.1

/-- An order is received as it was sent, and 128 arrays are sent and refused. -/
theorem payload_delivered_or_refused :
    (∃ event, ofJson "shop" "order.placed" orderPayload "m1" ⟨0, 0⟩ = .ok event ∧
      event.toMessage.contentType = "application/json" ∧
      (Delivery.new 1 event.toMessage.body).json = .ok orderPayload) ∧
    ∃ event, ofJson "shop" "order.placed" (nestedPayload 128) "m2" ⟨0, 0⟩ = .ok event ∧
      ∃ text, (Delivery.new 2 event.toMessage.body).json = .error (.deserialization text) := by
  obtain ⟨order, horder, -, -, htype, hreceived⟩ := payload_delivered orderPayload_wellFormed
    orderPayload_floatFree "shop" "order.placed" "m1" ⟨0, 0⟩
  obtain ⟨arrays, harrays, -, -, -, hrefused⟩ := payload_delivered (nestedPayload_sound 128).1
    (nestedPayload_sound 128).2 "shop" "order.placed" "m2" ⟨0, 0⟩
  refine ⟨⟨order, horder, htype, (hreceived _ rfl).1.mpr (by decide)⟩, arrays, harrays, ?_⟩
  obtain ⟨e, -, herror⟩ := (hrefused (Delivery.new 2 arrays.toMessage.body) rfl).2
    (by rw [depth_nestedPayload]; decide)
  exact ⟨e.message, herror⟩

end Event

end BrokerClient
