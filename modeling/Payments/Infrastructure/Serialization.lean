import Payments.Infrastructure.Workers

namespace Payments
namespace Infrastructure

open Domain

/-!
# Events as JSON

The outbox stores an event as a dictionary of JSON values, and three pieces of
code know its form: `serialize_event` writes it, `deserialize_event` restores
an event of one of the four classes, and the consumer picks the fields it
needs.  A value is what Python holds, so that a recursion on types can be
followed, and a dictionary is the list of its entries in insertion order.
-/

inductive Value where
  | None
  | bool (value : Bool)
  | number (value : Rat)
  | infinity (negative : Bool)
  | nan
  | string (value : Text)
  | uuid (value : UUID)
  | datetime (value : Datetime)
  | list (items : List Value)
  | tuple (items : List Value)
  | dict (entries : List (Text × Value))

abbrev Entries := List (Text × Value)

/-- The textual forms of the standard library that the codec goes through. -/
structure TextForms where
  /-- `str(uuid)` and `UUID(text)`. -/
  uuid_str : UUID -> String
  uuid : Text -> Option UUID
  /-- `time.isoformat()` and `datetime.fromisoformat(text)`. -/
  isoformat : Datetime -> String
  fromisoformat : Text -> Option Datetime
  /-- `repr(value)`, which error messages show. -/
  repr : Value -> String

inductive CodecError where
  | valueError (message : String)
  | typeError (message : String)
  | unexpectedArgument (event_class : String) (key : Text)
  | missingArguments (event_class : String) (keys : List Text)
  deriving DecidableEq, Repr

/-! ## JSON -/

mutual

/-- `json.loads` of the text of a JSON value. -/
def Value.of_json : Json -> Value
  | .null => .None
  | .bool value => .bool value
  | .number value => .number value
  | .infinity negative => .infinity negative
  | .nan => .nan
  | .string value => .string value
  | .array items => .list (Value.of_json_items items)
  | .object fields => .dict (Value.of_json_fields fields)

def Value.of_json_items : List Json -> List Value
  | [] => []
  | item :: rest => Value.of_json item :: Value.of_json_items rest

def Value.of_json_fields : List (Text × Json) -> Entries
  | [] => []
  | (key, value) :: rest => (key, Value.of_json value) :: Value.of_json_fields rest

end

mutual

/-- The JSON value that `json.dumps` writes, or nothing where it raises. -/
def Value.to_json : Value -> Option Json
  | .None => some .null
  | .bool value => some (.bool value)
  | .number value => some (.number value)
  | .infinity negative => some (.infinity negative)
  | .nan => some .nan
  | .string value => some (.string value)
  | .uuid _ => none
  | .datetime _ => none
  | .list items => (Value.to_json_items items).map Json.array
  | .tuple items => (Value.to_json_items items).map Json.array
  | .dict entries => (Value.to_json_fields entries).map Json.object

def Value.to_json_items : List Value -> Option (List Json)
  | [] => some []
  | item :: rest => do
      let item ← Value.to_json item
      let rest ← Value.to_json_items rest
      return item :: rest

def Value.to_json_fields : Entries -> Option (List (Text × Json))
  | [] => some []
  | (key, value) :: rest => do
      let value ← Value.to_json value
      let rest ← Value.to_json_fields rest
      return (key, value) :: rest

end

/-! ## Event objects -/

inductive EventClass where
  | PaymentCreated
  | PaymentProcessingStarted
  | PaymentSucceeded
  | PaymentFailed
  deriving DecidableEq, Repr

namespace EventClass

/-- `__name__`. -/
def name : EventClass -> String
  | .PaymentCreated => "PaymentCreated"
  | .PaymentProcessingStarted => "PaymentProcessingStarted"
  | .PaymentSucceeded => "PaymentSucceeded"
  | .PaymentFailed => "PaymentFailed"

/-- The fields of the base class, and those that the class adds. -/
def fields : EventClass -> List Text
  | .PaymentCreated =>
      ["aggregate_id", "occurred_at", "correlation_id", "amount", "currency", "description", "metadata",
        "webhook_url", "idempotency_key", "created_at"]
  | .PaymentProcessingStarted => ["aggregate_id", "occurred_at", "correlation_id"]
  | .PaymentSucceeded => ["aggregate_id", "occurred_at", "correlation_id", "processed_at"]
  | .PaymentFailed => ["aggregate_id", "occurred_at", "correlation_id", "reason", "processed_at"]

/-- The only field with a default, which is `None`. -/
def optional (field : Text) : Bool := field == "correlation_id"

end EventClass

/-- `EVENT_TYPES.get(text)`. -/
def EVENT_TYPES (text : Text) : Option EventClass :=
  [EventClass.PaymentCreated, .PaymentProcessingStarted, .PaymentSucceeded, .PaymentFailed].find?
    (fun event_class => Text.of_string event_class.name == text)

/-- An instance of an event class, with its attributes in the order of the fields. -/
structure EventObject where
  event_class : EventClass
  attributes : Entries

def Value.of_text : Option String -> Value
  | none => .None
  | some text => .string text

/-- The instance that the domain code builds. -/
def EventObject.of_event : DomainEvent -> EventObject
  | .PaymentCreated aggregate_id occurred_at correlation_id amount currency description metadata webhook_url
      idempotency_key created_at =>
      ⟨.PaymentCreated, [("aggregate_id", .uuid aggregate_id), ("occurred_at", .datetime occurred_at),
        ("correlation_id", .of_text correlation_id), ("amount", .string amount), ("currency", .string currency),
        ("description", .of_text description), ("metadata", .of_json metadata), ("webhook_url", .string webhook_url),
        ("idempotency_key", .string idempotency_key), ("created_at", .datetime created_at)]⟩
  | .PaymentProcessingStarted aggregate_id occurred_at correlation_id =>
      ⟨.PaymentProcessingStarted, [("aggregate_id", .uuid aggregate_id), ("occurred_at", .datetime occurred_at),
        ("correlation_id", .of_text correlation_id)]⟩
  | .PaymentSucceeded aggregate_id occurred_at correlation_id processed_at =>
      ⟨.PaymentSucceeded, [("aggregate_id", .uuid aggregate_id), ("occurred_at", .datetime occurred_at),
        ("correlation_id", .of_text correlation_id), ("processed_at", .datetime processed_at)]⟩
  | .PaymentFailed aggregate_id occurred_at correlation_id reason processed_at =>
      ⟨.PaymentFailed, [("aggregate_id", .uuid aggregate_id), ("occurred_at", .datetime occurred_at),
        ("correlation_id", .of_text correlation_id), ("reason", .of_text reason),
        ("processed_at", .datetime processed_at)]⟩

/-- `event_class(**arguments)`. -/
def EventClass.call (event_class : EventClass) (arguments : Entries) : Except CodecError EventObject :=
  match arguments.find? (fun argument => decide (argument.1 ∉ event_class.fields)) with
  | some (key, _) => .error (.unexpectedArgument event_class.name key)
  | none =>
      match event_class.fields.filter (fun field =>
          (arguments.lookup field).isNone && !EventClass.optional field) with
      | [] => .ok ⟨event_class, event_class.fields.map (fun field => (field, (arguments.lookup field).getD .None))⟩
      | missing => .error (.missingArguments event_class.name missing)

/-! ## Writing -/

section

variable (forms : TextForms)

mutual

def to_jsonable : Value -> Value
  | .datetime value => .string (forms.isoformat value)
  | .uuid value => .string (forms.uuid_str value)
  | .dict entries => .dict (to_jsonable_entries entries)
  | .list items => .list (to_jsonable_items items)
  | .tuple items => .list (to_jsonable_items items)
  | .None => .None
  | .bool value => .bool value
  | .number value => .number value
  | .infinity negative => .infinity negative
  | .nan => .nan
  | .string value => .string value

def to_jsonable_items : List Value -> List Value
  | [] => []
  | item :: rest => to_jsonable item :: to_jsonable_items rest

def to_jsonable_entries : Entries -> Entries
  | [] => []
  | (key, value) :: rest => (key, to_jsonable value) :: to_jsonable_entries rest

end

def serialize_event (event : EventObject) : Entries :=
  event.attributes.map (fun entry => (entry.1, to_jsonable forms entry.2)) ++
    [(("event_type" : Text), Value.string event.event_class.name)]

/-! ## Reading -/

/-- The truth value of `if value:`. -/
def Value.truthy : Value -> Bool
  | .None => false
  | .bool value => value
  | .number value => decide (value ≠ 0)
  | .infinity _ => true
  | .nan => true
  | .string value => decide (value ≠ "")
  | .uuid _ => true
  | .datetime _ => true
  | .list items => !items.isEmpty
  | .tuple items => !items.isEmpty
  | .dict entries => !entries.isEmpty

/-- `payload[key] = value` for a key that is there. -/
def replace (payload : Entries) (key : Text) (value : Value) : Entries :=
  payload.map (fun entry => if entry.1 = key then (key, value) else entry)

/-- Restore an identifier that is a text. -/
def restore_uuid (key : Text) (payload : Entries) : Except CodecError Entries :=
  match payload.lookup key with
  | some (.string text) =>
      match forms.uuid text with
      | some id => .ok (replace payload key (.uuid id))
      | none => .error (.valueError "badly formed hexadecimal UUID string")
  | _ => .ok payload

/-- Restore an instant that is given. -/
def restore_datetime (key : Text) (payload : Entries) : Except CodecError Entries :=
  match payload.lookup key with
  | none => .ok payload
  | some value =>
      if value.truthy then
        match value with
        | .string text =>
            match forms.fromisoformat text with
            | some time => .ok (replace payload key (.datetime time))
            | none => .error (.valueError ("Invalid isoformat string: " ++ forms.repr value))
        | _ => .error (.typeError "fromisoformat: argument must be str")
      else .ok payload

/-- The class that the key `event_type` names. -/
def event_class_of (data : Entries) : Except CodecError EventClass :=
  match data.lookup ("event_type" : Text) with
  | none => .error (.valueError "Missing event_type in payload")
  | some value =>
      if value.truthy then
        match value with
        | .string text =>
            match EVENT_TYPES text with
            | some event_class => .ok event_class
            | none => .error (.valueError ("Unknown event_type: " ++ forms.repr value))
        | .list _ => .error (.typeError "unhashable type: 'list'")
        | .dict _ => .error (.typeError "unhashable type: 'dict'")
        | _ => .error (.valueError ("Unknown event_type: " ++ forms.repr value))
      else .error (.valueError "Missing event_type in payload")

def deserialize_event (data : Entries) : Except CodecError EventObject := do
  let event_class ← event_class_of forms data
  let payload := data.filter (fun entry => decide (entry.1 ≠ ("event_type" : Text)))
  let payload ← restore_uuid forms "aggregate_id" payload
  let payload ← restore_datetime forms "occurred_at" payload
  let payload ← restore_datetime forms "created_at" payload
  let payload ← restore_datetime forms "processed_at" payload
  event_class.call payload

/-! ## The consumer -/

/-- `UUID(body['aggregate_id'])`. -/
def AggregateId.of_entries (body : Entries) : AggregateId :=
  match body.lookup ("aggregate_id" : Text) with
  | none => .missing
  | some (.string text) =>
      match forms.uuid text with
      | some id => .uuid id
      | none => .malformed
  | some _ => .malformed

/-- What the consumer reads of a decoded body; a `correlation_id` that is
neither a text without surrogates nor missing is left open. -/
def Body.of_value : Value -> Option Body
  | .dict body =>
      let event_type := match body.lookup ("event_type" : Text) with
        | some (.string text) => text.string
        | _ => none
      match body.lookup ("correlation_id" : Text) with
      | none => some (.object event_type (AggregateId.of_entries forms body) none)
      | some .None => some (.object event_type (AggregateId.of_entries forms body) none)
      | some (.string text) =>
          text.string.map (fun correlation_id =>
            .object event_type (AggregateId.of_entries forms body) (some correlation_id))
      | some _ => none
  | _ => some .non_object

end

end Infrastructure
end Payments
