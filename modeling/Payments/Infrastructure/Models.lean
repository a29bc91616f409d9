import Payments.Domain.Payment
import Payments.Domain.WebhookDelivery

namespace Payments
namespace Infrastructure

open Domain

/-!
# Stored rows and their mappers

One structure per ORM model, with the mapper to the domain entity next to it.
Status columns hold the value of an enumeration and are modelled by the
enumeration.  `storable` collects what the database itself refuses: column
lengths, check constraints, and text that cannot be encoded or has a NUL character.
-/

/-- PostgreSQL text cannot contain U+0000. -/
def text_storable (text : String) : Bool :=
  text.toList.all (fun character => character != Char.ofNat 0)

def optional_text_storable (text : Option String) : Bool :=
  text.all text_storable

/-- Lone surrogates have no encoding either. -/
def str_storable (text : Text) : Bool :=
  text.codes.all (fun code => decide (code.val ≠ 0) && !code.surrogate)

def optional_varchar_storable (length : Nat) (text : Option String) : Bool :=
  text.all (fun text => text_storable text && decide (text.length ≤ length))

mutual

/-- JSONB refuses U+0000 and lone surrogates in strings and keys, and it has finite numbers only. -/
def json_storable : Json -> Bool
  | .null => true
  | .bool _ => true
  | .number _ => true
  | .infinity _ => false
  | .nan => false
  | .string value => str_storable value
  | .array items => json_items_storable items
  | .object fields => json_fields_storable fields

def json_items_storable : List Json -> Bool
  | [] => true
  | item :: rest => json_storable item && json_items_storable rest

def json_fields_storable : List (Text × Json) -> Bool
  | [] => true
  | (key, value) :: rest => str_storable key && json_storable value && json_fields_storable rest

end

mutual

/-- How deep the calls of a recursion over a value are nested. -/
def json_nesting : Json -> Nat
  | .array items => json_items_nesting items + 1
  | .object fields => json_fields_nesting fields + 1
  | _ => 1

def json_items_nesting : List Json -> Nat
  | [] => 0
  | item :: rest => max (json_nesting item) (json_items_nesting rest)

def json_fields_nesting : List (Text × Json) -> Nat
  | [] => 0
  | (_, value) :: rest => max (json_nesting value) (json_fields_nesting rest)

end

/-! ## Payments -/

structure PaymentModel where
  id : UUID
  idempotency_key : String
  amount : Decimal
  currency : String
  description : Option String
  metadata : Json
  status : PaymentStatus
  webhook_url : Text
  correlation_id : Option String
  created_at : Datetime
  processed_at : Option Datetime
  version : Nat

/-- `Numeric(18, 2)` keeps an amount with two decimals and at most 18 digits. -/
def numeric_18_2 (amount : Decimal) : Option Decimal :=
  match amount.quantize_cents with
  | .ok (.finite negative cents exponent) =>
      if cents < 10 ^ 18 then some (.finite negative cents exponent) else none
  | _ => none

/-- The values of the `INSERT` of `try_insert`, unless the amount overflows. -/
def PaymentModel.of_payment (payment : Payment) : Option PaymentModel :=
  (numeric_18_2 payment.money.amount).map (fun amount =>
    { id := payment.id
      idempotency_key := payment.idempotency_key.value
      amount := amount
      currency := payment.money.currency.value
      description := payment.description
      metadata := payment.metadata
      status := payment.status
      webhook_url := payment.webhook_url
      correlation_id := payment.correlation_id
      created_at := payment.created_at
      processed_at := payment.processed_at
      version := payment.version })

/-- `to_domain`: the value objects validate the stored text again. -/
def PaymentModel.to_domain (row : PaymentModel) : Except Error Payment := do
  let idempotency_key ← IdempotencyKey.new row.idempotency_key
  let money ← Money.new row.amount row.currency
  return {
    id := row.id
    idempotency_key := idempotency_key
    money := money
    description := row.description
    metadata := row.metadata
    webhook_url := row.webhook_url
    correlation_id := row.correlation_id
    status := row.status
    created_at := row.created_at
    processed_at := row.processed_at
    version := row.version
    events := []
    attempts := [] }

def PaymentModel.storable (row : PaymentModel) : Bool :=
  text_storable row.idempotency_key && decide (row.idempotency_key.length ≤ 255) &&
  (match row.amount.nonpositive with
    | .ok nonpositive => !nonpositive
    | .error _ => false) &&
  decide (row.currency ∈ ["RUB", "USD", "EUR"]) &&
  optional_text_storable row.description && json_storable row.metadata &&
  str_storable row.webhook_url &&
  (row.webhook_url.startswith "http://" || row.webhook_url.startswith "https://") &&
  optional_varchar_storable 64 row.correlation_id

/-! ## Charge attempts -/

structure PaymentAttemptModel where
  id : UUID
  payment_id : UUID
  attempt_number : Nat
  status : PaymentAttemptStatus
  error : Option String
  gateway_response : Option Json
  correlation_id : Option String
  created_at : Datetime
  updated_at : Datetime

def PaymentAttemptModel.of_attempt (attempt : PaymentAttempt) : PaymentAttemptModel where
  id := attempt.id
  payment_id := attempt.payment_id
  attempt_number := attempt.attempt_number
  status := attempt.status
  error := attempt.error
  gateway_response := attempt.gateway_response
  correlation_id := attempt.correlation_id
  created_at := attempt.created_at
  updated_at := attempt.updated_at

def PaymentAttemptModel.to_domain (row : PaymentAttemptModel) : PaymentAttempt where
  id := row.id
  payment_id := row.payment_id
  attempt_number := row.attempt_number
  status := row.status
  error := row.error
  gateway_response := row.gateway_response
  correlation_id := row.correlation_id
  created_at := row.created_at
  updated_at := row.updated_at

def PaymentAttemptModel.storable (row : PaymentAttemptModel) : Bool :=
  decide (0 < row.attempt_number) && optional_text_storable row.error &&
  row.gateway_response.all json_storable && optional_varchar_storable 64 row.correlation_id

/-! ## Webhook deliveries -/

structure WebhookDeliveryModel where
  id : UUID
  payment_id : UUID
  event_type : String
  attempt : Nat
  status : WebhookDeliveryStatus
  response_code : Option Nat
  response_body : Option Text
  next_retry_at : Option Datetime
  correlation_id : Option String
  created_at : Datetime
  updated_at : Datetime
  deriving DecidableEq

def WebhookDeliveryModel.to_model (delivery : WebhookDelivery) : WebhookDeliveryModel where
  id := delivery.id
  payment_id := delivery.payment_id
  event_type := delivery.event_type
  attempt := delivery.attempt
  status := delivery.status
  response_code := delivery.response_code
  response_body := delivery.response_body
  next_retry_at := delivery.next_retry_at
  correlation_id := delivery.correlation_id
  created_at := delivery.created_at
  updated_at := delivery.updated_at

def WebhookDeliveryModel.to_domain (row : WebhookDeliveryModel) : WebhookDelivery where
  id := row.id
  payment_id := row.payment_id
  event_type := row.event_type
  attempt := row.attempt
  status := row.status
  response_code := row.response_code
  response_body := row.response_body
  next_retry_at := row.next_retry_at
  correlation_id := row.correlation_id
  created_at := row.created_at
  updated_at := row.updated_at

def WebhookDeliveryModel.storable (row : WebhookDeliveryModel) : Bool :=
  decide (row.event_type.length ≤ 64) && text_storable row.event_type &&
  row.response_body.all str_storable && optional_varchar_storable 64 row.correlation_id

/-! ## Outbox messages -/

inductive OutboxStatus where
  | PENDING
  | PROCESSING
  | PROCESSED
  | DEAD
  deriving DecidableEq, Repr

structure OutboxMessageModel where
  id : UUID
  event_type : String
  aggregate_id : UUID
  /-- The event whose JSON form the column holds. -/
  payload : DomainEvent
  correlation_id : Option String
  attempts : Nat
  status : OutboxStatus
  created_at : Datetime
  next_retry_at : Option Datetime
  claimed_at : Option Datetime
  claimed_by : Option UUID
  processed_at : Option Datetime
  finished_at : Option Datetime

/-- The row that `collect_events` adds for an event. -/
def OutboxMessageModel.of_event (id : UUID) (event : DomainEvent) : OutboxMessageModel where
  id := id
  event_type := event.event_type
  aggregate_id := event.aggregate_id
  payload := event
  correlation_id := event.correlation_id
  attempts := 0
  status := .PENDING
  created_at := event.occurred_at
  next_retry_at := none
  claimed_at := none
  claimed_by := none
  processed_at := none
  finished_at := none

def OutboxMessageModel.storable (row : OutboxMessageModel) : Bool :=
  decide (row.event_type.length ≤ 64) && optional_varchar_storable 64 row.correlation_id

/-- What a worker holds of a claimed row. -/
structure OutboxMessage where
  id : UUID
  event_type : String
  aggregate_id : UUID
  payload : DomainEvent
  correlation_id : Option String
  attempts : Nat
  status : OutboxStatus
  created_at : Datetime
  next_retry_at : Option Datetime
  claimed_at : Option Datetime
  claimed_by : Option UUID
  processed_at : Option Datetime

def OutboxMessageModel.to_domain (row : OutboxMessageModel) : OutboxMessage where
  id := row.id
  event_type := row.event_type
  aggregate_id := row.aggregate_id
  payload := row.payload
  correlation_id := row.correlation_id
  attempts := row.attempts
  status := row.status
  created_at := row.created_at
  next_retry_at := row.next_retry_at
  claimed_at := row.claimed_at
  claimed_by := row.claimed_by
  processed_at := row.processed_at

/-! ## The four tables -/

inductive TableName where
  | payments
  | payment_attempts
  | webhook_deliveries
  | outbox_messages
  deriving DecidableEq, Repr

abbrev Row : TableName -> Type
  | .payments => PaymentModel
  | .payment_attempts => PaymentAttemptModel
  | .webhook_deliveries => WebhookDeliveryModel
  | .outbox_messages => OutboxMessageModel

/-- The primary key. -/
def Row.id : {name : TableName} -> Row name -> UUID
  | .payments, row => PaymentModel.id row
  | .payment_attempts, row => PaymentAttemptModel.id row
  | .webhook_deliveries, row => WebhookDeliveryModel.id row
  | .outbox_messages, row => OutboxMessageModel.id row

def Row.storable : {name : TableName} -> Row name -> Bool
  | .payments, row => PaymentModel.storable row
  | .payment_attempts, row => PaymentAttemptModel.storable row
  | .webhook_deliveries, row => WebhookDeliveryModel.storable row
  | .outbox_messages, row => OutboxMessageModel.storable row

end Infrastructure
end Payments
