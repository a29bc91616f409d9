import Payments.Infrastructure.Serialization

namespace Payments
namespace Properties

open Concurrency Domain Infrastructure Application

/-!
# The codec of events

What `serialize_event` writes of an event is JSON, and both readers agree with
it: `deserialize_event` returns an equal instance of the same class, and the
consumer hands the payment and the correlation id of the event to the handler.
-/

variable {forms : TextForms}

/-! ## Values that come from JSON -/

mutual

theorem to_json_of_json : forall json, Value.to_json (Value.of_json json) = some json
  | .null => rfl
  | .bool _ => rfl
  | .number _ => rfl
  | .infinity _ => rfl
  | .nan => rfl
  | .string _ => rfl
  | .array items => by
      rw [Value.of_json, Value.to_json, to_json_of_items items]
      rfl
  | .object fields => by
      rw [Value.of_json, Value.to_json, to_json_of_fields fields]
      rfl

theorem to_json_of_items : forall items, Value.to_json_items (Value.of_json_items items) = some items
  | [] => rfl
  | item :: rest => by
      rw [Value.of_json_items, Value.to_json_items, to_json_of_json item, to_json_of_items rest]
      rfl

theorem to_json_of_fields : forall fields, Value.to_json_fields (Value.of_json_fields fields) = some fields
  | [] => rfl
  | (key, value) :: rest => by
      rw [Value.of_json_fields, Value.to_json_fields, to_json_of_json value, to_json_of_fields rest]
      rfl

end

mutual

/-- The encoder leaves a JSON value as it is, whatever its keys and texts look like. -/
theorem to_jsonable_of_json (forms : TextForms) :
    forall json, to_jsonable forms (Value.of_json json) = Value.of_json json
  | .null => rfl
  | .bool _ => rfl
  | .number _ => rfl
  | .infinity _ => rfl
  | .nan => rfl
  | .string _ => rfl
  | .array items => by rw [Value.of_json, to_jsonable, to_jsonable_of_items forms items]
  | .object fields => by rw [Value.of_json, to_jsonable, to_jsonable_of_fields forms fields]

theorem to_jsonable_of_items (forms : TextForms) :
    forall items, to_jsonable_items forms (Value.of_json_items items) = Value.of_json_items items
  | [] => rfl
  | item :: rest => by
      rw [Value.of_json_items, to_jsonable_items, to_jsonable_of_json forms item, to_jsonable_of_items forms rest]

theorem to_jsonable_of_fields (forms : TextForms) :
    forall fields, to_jsonable_entries forms (Value.of_json_fields fields) = Value.of_json_fields fields
  | [] => rfl
  | (key, value) :: rest => by
      rw [Value.of_json_fields, to_jsonable_entries, to_jsonable_of_json forms value, to_jsonable_of_fields forms rest]

end

/-! ## The JSON form of an event -/

def json_of_text : Option String -> Json
  | none => .null
  | some text => .string text

/-- The fields of the payload of an event. -/
def payload_fields (forms : TextForms) : DomainEvent -> List (Text × Json)
  | .PaymentCreated aggregate_id occurred_at correlation_id amount currency description metadata webhook_url
      idempotency_key created_at =>
      [("aggregate_id", .string (forms.uuid_str aggregate_id)), ("occurred_at", .string (forms.isoformat occurred_at)),
        ("correlation_id", json_of_text correlation_id), ("amount", .string amount), ("currency", .string currency),
        ("description", json_of_text description), ("metadata", metadata), ("webhook_url", .string webhook_url),
        ("idempotency_key", .string idempotency_key), ("created_at", .string (forms.isoformat created_at)),
        ("event_type", .string "PaymentCreated")]
  | .PaymentProcessingStarted aggregate_id occurred_at correlation_id =>
      [("aggregate_id", .string (forms.uuid_str aggregate_id)), ("occurred_at", .string (forms.isoformat occurred_at)),
        ("correlation_id", json_of_text correlation_id), ("event_type", .string "PaymentProcessingStarted")]
  | .PaymentSucceeded aggregate_id occurred_at correlation_id processed_at =>
      [("aggregate_id", .string (forms.uuid_str aggregate_id)), ("occurred_at", .string (forms.isoformat occurred_at)),
        ("correlation_id", json_of_text correlation_id), ("processed_at", .string (forms.isoformat processed_at)),
        ("event_type", .string "PaymentSucceeded")]
  | .PaymentFailed aggregate_id occurred_at correlation_id reason processed_at =>
      [("aggregate_id", .string (forms.uuid_str aggregate_id)), ("occurred_at", .string (forms.isoformat occurred_at)),
        ("correlation_id", json_of_text correlation_id), ("reason", json_of_text reason),
        ("processed_at", .string (forms.isoformat processed_at)), ("event_type", .string "PaymentFailed")]

theorem of_json_text (text : Option String) : Value.of_json (json_of_text text) = Value.of_text text := by
  cases text <;> rfl

theorem to_jsonable_of_text (text : Option String) : to_jsonable forms (Value.of_text text) = Value.of_text text := by
  cases text <;> rfl

/-- The payload is JSON. -/
theorem serialized (forms : TextForms) (event : DomainEvent) :
    serialize_event forms (EventObject.of_event event) = Value.of_json_fields (payload_fields forms event) := by
  cases event <;>
    simp [serialize_event, EventObject.of_event, payload_fields, Value.of_json_fields, Value.of_json, of_json_text,
      to_jsonable, to_jsonable_of_text, to_jsonable_of_json, EventClass.name]

/-! ## Reading the payload -/

/-- The instants among the fields of an event. -/
def event_times : DomainEvent -> List Datetime
  | .PaymentCreated _ occurred_at _ _ _ _ _ _ _ created_at => [occurred_at, created_at]
  | .PaymentProcessingStarted _ occurred_at _ => [occurred_at]
  | .PaymentSucceeded _ occurred_at _ processed_at => [occurred_at, processed_at]
  | .PaymentFailed _ occurred_at _ _ processed_at => [occurred_at, processed_at]

/-- The texts of the identifier and the instants of an event are read back as
they were, and the text of an instant is never empty. -/
structure Faithful (forms : TextForms) (event : DomainEvent) : Prop where
  uuid : forms.uuid (forms.uuid_str event.aggregate_id) = some event.aggregate_id
  times : forall time, time ∈ event_times event -> forms.fromisoformat (forms.isoformat time) = some time
  written : forall time, time ∈ event_times event -> forms.isoformat time ≠ ""

theorem restore_uuid_of_text {key text : Text} {payload : Entries} {id : UUID}
    (found : payload.lookup key = some (.string text)) (known : forms.uuid text = some id) :
    restore_uuid forms key payload = .ok (replace payload key (.uuid id)) := by
  rw [restore_uuid, found]
  simp only [known]

theorem restore_datetime_of_text {key : Text} {text : String} {payload : Entries} {time : Datetime}
    (found : payload.lookup key = some (.string text)) (written : text ≠ "")
    (known : forms.fromisoformat text = some time) :
    restore_datetime forms key payload = .ok (replace payload key (.datetime time)) := by
  have written : Text.of_string text ≠ Text.of_string "" := fun same => written (Text.of_string_injective same)
  rw [restore_datetime, found]
  simp [Value.truthy, written, known]

theorem restore_datetime_of_missing {key : Text} {payload : Entries} (missing : payload.lookup key = none) :
    restore_datetime forms key payload = .ok payload := by
  rw [restore_datetime, missing]

theorem deserialize_event_of_steps {data first second third last : Entries} {event_class : EventClass}
    (named : event_class_of forms data = .ok event_class)
    (identified : restore_uuid forms "aggregate_id" (data.filter (fun entry => decide (entry.1 ≠ ("event_type" : Text)))) =
      .ok first)
    (occurred : restore_datetime forms "occurred_at" first = .ok second)
    (created : restore_datetime forms "created_at" second = .ok third)
    (processed : restore_datetime forms "processed_at" third = .ok last) :
    deserialize_event forms data = event_class.call last := by
  simp only [deserialize_event, named, bind, Except.bind, identified, occurred, created, processed]

/-- The decoder restores an equal instance of the same class. -/
theorem deserialized (event : DomainEvent) (faithful : Faithful forms event) :
    deserialize_event forms (serialize_event forms (EventObject.of_event event)) = .ok (EventObject.of_event event) := by
  rw [serialized]
  have id := faithful.uuid
  have times := faithful.times
  have written := faithful.written
  cases event with
  | PaymentCreated aggregate_id occurred_at correlation_id amount currency description metadata webhook_url
      idempotency_key created_at =>
      simp only [event_times, List.mem_cons, List.not_mem_nil, or_false, forall_eq_or_imp, forall_eq,
        DomainEvent.aggregate_id] at id times written
      refine (deserialize_event_of_steps rfl (restore_uuid_of_text rfl id)
        (restore_datetime_of_text rfl written.1 times.1) (restore_datetime_of_text rfl written.2 times.2)
        (restore_datetime_of_missing rfl)).trans ?_
      cases correlation_id <;> cases description <;> rfl
  | PaymentProcessingStarted aggregate_id occurred_at correlation_id =>
      simp only [event_times, List.mem_singleton, forall_eq, DomainEvent.aggregate_id] at id times written
      refine (deserialize_event_of_steps rfl (restore_uuid_of_text rfl id)
        (restore_datetime_of_text rfl written times) (restore_datetime_of_missing rfl)
        (restore_datetime_of_missing rfl)).trans ?_
      cases correlation_id <;> rfl
  | PaymentSucceeded aggregate_id occurred_at correlation_id processed_at =>
      simp only [event_times, List.mem_cons, List.not_mem_nil, or_false, forall_eq_or_imp, forall_eq,
        DomainEvent.aggregate_id] at id times written
      refine (deserialize_event_of_steps rfl (restore_uuid_of_text rfl id)
        (restore_datetime_of_text rfl written.1 times.1) (restore_datetime_of_missing rfl)
        (restore_datetime_of_text rfl written.2 times.2)).trans ?_
      cases correlation_id <;> rfl
  | PaymentFailed aggregate_id occurred_at correlation_id reason processed_at =>
      simp only [event_times, List.mem_cons, List.not_mem_nil, or_false, forall_eq_or_imp, forall_eq,
        DomainEvent.aggregate_id] at id times written
      refine (deserialize_event_of_steps rfl (restore_uuid_of_text rfl id)
        (restore_datetime_of_text rfl written.1 times.1) (restore_datetime_of_missing rfl)
        (restore_datetime_of_text rfl written.2 times.2)).trans ?_
      cases correlation_id <;> cases reason <;> rfl

/-! ## The consumer -/

theorem body_of_lookups {body : Entries} {event_type : String} {text : Text} {correlation_id : Option String} {id : UUID}
    (named : body.lookup ("event_type" : Text) = some (.string event_type))
    (identified : body.lookup ("aggregate_id" : Text) = some (.string text)) (known : forms.uuid text = some id)
    (correlated : body.lookup ("correlation_id" : Text) = some (.of_text correlation_id)) :
    Body.of_value forms (.dict body) = some (.object (some event_type) (.uuid id) correlation_id) := by
  have aggregate : AggregateId.of_entries forms body = .uuid id := by
    rw [AggregateId.of_entries, identified]
    simp only [known]
  rw [Body.of_value, named, correlated, aggregate]
  cases correlation_id with
  | none => simp only [Value.of_text, Text.string_of_string]
  | some correlation_id => simp only [Value.of_text, Text.string_of_string, Option.map_some]

/-- The consumer reads the body that the message of the event has in the broker. -/
theorem body_of_serialized (event : DomainEvent) (faithful : Faithful forms event) :
    Body.of_value forms (.dict (serialize_event forms (EventObject.of_event event))) =
      some (.object (some event.event_type) (.uuid event.aggregate_id) event.correlation_id) := by
  rw [serialized]
  cases event <;>
    exact body_of_lookups rfl rfl faithful.uuid (congrArg some (of_json_text _))

/-- On its first delivery the message of a new payment goes to the handler. -/
theorem route_first_delivery {settings : Settings} {message : Message} {payment_id : UUID}
    {correlation_id : Option String} (retries : 1 ≤ settings.RABBITMQ_MAX_RETRIES) (first : message.x_death = [])
    (body : message.body = .object (some PaymentConsumerHandler.PAYMENT_CREATED) (.uuid payment_id) correlation_id) :
    PaymentConsumerHandler.route settings message = (do
      let _result ← ProcessPaymentHandler.handle ⟨payment_id, correlation_id⟩) := by
  have unrejected : ¬ settings.RABBITMQ_MAX_RETRIES ≤ (PaymentConsumerHandler.rejected_count message.x_death : Int) := by
    rw [first]
    change ¬ settings.RABBITMQ_MAX_RETRIES ≤ 0
    omega
  rw [PaymentConsumerHandler.route, body]
  simp only [ne_eq, not_true_eq_false, if_false, unrejected]
  rfl

/-! ## The three agree -/

/-- The payload of an event is a JSON object.  The decoder restores the event
from it, what is written again is the same payload, and the consumer invokes
the handler with the payment and the correlation id of a new payment's event. -/
theorem event_codec (event : DomainEvent) (faithful : Faithful forms event) :
    Exists fun fields : List (Text × Json) =>
      Value.to_json (.dict (serialize_event forms (EventObject.of_event event))) = some (.object fields) ∧
      (forall data, Value.of_json (.object fields) = .dict data ->
        deserialize_event forms data = .ok (EventObject.of_event event) ∧
        forall restored, deserialize_event forms data = .ok restored -> serialize_event forms restored = data) ∧
      Exists fun body => Body.of_value forms (Value.of_json (.object fields)) = some body ∧
        forall (settings : Settings) (message : Message), message.body = body -> message.x_death = [] ->
          event.event_type = "PaymentCreated" -> 1 ≤ settings.RABBITMQ_MAX_RETRIES ->
          PaymentConsumerHandler.route settings message = (do
            let _result ← ProcessPaymentHandler.handle ⟨event.aggregate_id, event.correlation_id⟩) := by
  have loaded : Value.of_json (.object (payload_fields forms event)) =
      .dict (serialize_event forms (EventObject.of_event event)) := by
    rw [serialized]
    rfl
  refine ⟨payload_fields forms event, ?_, fun data same => ?_,
    .object (some event.event_type) (.uuid event.aggregate_id) event.correlation_id, ?_,
    fun settings message body first named retries => ?_⟩
  · rw [← loaded, to_json_of_json]
  · rw [loaded] at same
    cases same
    refine ⟨deserialized event faithful, fun restored read => ?_⟩
    rw [deserialized event faithful] at read
    cases read
    rfl
  · rw [loaded]
    exact body_of_serialized event faithful
  · rw [named] at body
    exact route_first_delivery retries first body

/-- Texts of one identifier and one instant. -/
def sample_forms : TextForms where
  uuid_str := fun _ => "00000000-0000-0000-0000-000000000001"
  uuid := fun text => if text.string = some "00000000-0000-0000-0000-000000000001" then some 1 else none
  isoformat := fun _ => "1970-01-01T00:00:10+00:00"
  fromisoformat := fun text => if text.string = some "1970-01-01T00:00:10+00:00" then some 10 else none
  repr := fun _ => ""

/-- A new payment whose metadata looks like an event. -/
def sample_event : DomainEvent :=
  .PaymentCreated 1 10 (some "request-1") "5.00" "EUR" none
    (.object [("event_type", .string "PaymentFailed"), ("created_at", .string "1970-01-01T00:00:10+00:00"),
      ("aggregate_id", .array [.null, .string ""])])
    "https://shop" "order-1" 10

theorem faithful_sample : Faithful sample_forms sample_event where
  uuid := by decide
  times := by decide
  written := by decide

theorem sample_event_codec : Exists fun fields : List (Text × Json) =>
    Value.to_json (.dict (serialize_event sample_forms (EventObject.of_event sample_event))) = some (.object fields) ∧
      forall data, Value.of_json (.object fields) = .dict data ->
        deserialize_event sample_forms data = .ok (EventObject.of_event sample_event) := by
  rcases event_codec sample_event faithful_sample with ⟨fields, written, restored, _⟩
  exact ⟨fields, written, fun data same => (restored data same).1⟩

end Properties
end Payments
