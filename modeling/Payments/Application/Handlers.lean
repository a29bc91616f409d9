import Payments.Infrastructure.Repositories

namespace Payments
namespace Application

open Concurrency Domain Infrastructure Prog UnitOfWork

/-!
# The four handlers

Each handler is a program that runs in one transaction.  A clock or a
generator is called where the source calls it, in the same order.
-/

/-! ## Data transfer objects -/

structure AttemptDTO where
  attempt_number : Nat
  status : String
  error : Option String
  gateway_response : Option Json
  created_at : Datetime

def AttemptDTO.from_attempt (attempt : PaymentAttempt) : AttemptDTO where
  attempt_number := attempt.attempt_number
  status := attempt.status.value
  error := attempt.error
  gateway_response := attempt.gateway_response
  created_at := attempt.created_at

structure PaymentDTO where
  payment_id : UUID
  status : String
  amount : Decimal
  currency : String
  description : Option String
  metadata : Json
  idempotency_key : String
  webhook_url : Text
  created_at : Datetime
  processed_at : Option Datetime
  attempts : Option (List AttemptDTO)

def PaymentDTO.from_payment (payment : Payment) (attempts : Option (List PaymentAttempt)) : PaymentDTO where
  payment_id := payment.id
  status := payment.status.value
  amount := payment.money.amount
  currency := payment.money.currency.value
  description := payment.description
  metadata := payment.metadata
  idempotency_key := payment.idempotency_key.value
  webhook_url := payment.webhook_url
  created_at := payment.created_at
  processed_at := payment.processed_at
  attempts := attempts.map (fun attempts => attempts.map AttemptDTO.from_attempt)

/-! ## Creating a payment -/

structure CreatePaymentCommand where
  idempotency_key : String
  amount : Decimal
  currency : String
  description : Option String
  metadata : Json
  webhook_url : Text
  correlation_id : Option String

namespace CreatePaymentHandler

/-- A `ValueError` of a value object becomes `InvalidPaymentData`. -/
def validated (command : CreatePaymentCommand) : Except Error (IdempotencyKey × Money) :=
  let checked := do
    let idempotency_key ← IdempotencyKey.new command.idempotency_key
    let money ← Money.new command.amount command.currency
    return (idempotency_key, money)
  match checked with
  | .error (.valueError message) => .error (.invalidPaymentData message)
  | other => other

def new_payment (command : CreatePaymentCommand) (values : IdempotencyKey × Money) (id : UUID)
    (now : Datetime) : Payment :=
  Payment.create id values.1 values.2 command.description command.metadata command.webhook_url
    command.correlation_id now

def body (command : CreatePaymentCommand) : Program PaymentDTO := do
  let now : Datetime ← await .now
  let values ← ofExcept (validated command)
  let id : UUID ← await .uuid7
  let payment := new_payment command values id now
  match ← SqlAlchemyPaymentRepository.try_insert payment with
  | none =>
      match ← SqlAlchemyPaymentRepository.get_by_idempotency_key command.idempotency_key with
      | none => .raise (.idempotencyConflict command.idempotency_key)
      | some existing => return PaymentDTO.from_payment existing none
  | some payment =>
      collect_events payment.pull_events.1
      return PaymentDTO.from_payment payment.pull_events.2 none

def handle (command : CreatePaymentCommand) : Program PaymentDTO :=
  transactional true (body command)

end CreatePaymentHandler

/-! ## Processing a payment -/

structure ProcessPaymentCommand where
  payment_id : UUID
  correlation_id : Option String

inductive PaymentProcessingOutcome where
  | SUCCEEDED
  | FAILED
  | ALREADY_TERMINAL
  | NOT_FOUND
  | NOT_PENDING
  | CLAIM_CONFLICT
  deriving DecidableEq, Repr

structure PaymentProcessingResult where
  outcome : PaymentProcessingOutcome
  gateway_id : Option String

namespace ProcessPaymentHandler

/-- `result.gateway_id or result.error`: an empty text counts as missing. -/
def gateway_reference (result : GatewayResult) : Option String :=
  match result.gateway_id with
  | some gateway_id => if gateway_id = "" then result.error else some gateway_id
  | none => result.error

/-- The branches on `result.success`: the attempt with its result, and whether
the payment was still in the version and status this run had given it. -/
def settle (payment : Payment) (result : GatewayResult) (finished_at : Datetime) :
    Program (PaymentAttempt × Bool) :=
  let expected_processing_version := payment.version
  let expected_processing_status := payment.status
  if result.success then do
    let (payment, attempt) ← ofExcept (payment.succeed_attempt finished_at result)
    let payment ← ofExcept (payment.mark_succeeded finished_at)
    let claimed ← SqlAlchemyPaymentRepository.mark_succeeded payment.id expected_processing_version
      expected_processing_status finished_at
    return (attempt, claimed)
  else do
    let (payment, attempt) ← ofExcept (payment.fail_attempt finished_at result.error)
    let payment ← ofExcept (payment.mark_failed finished_at result.error)
    let claimed ← SqlAlchemyPaymentRepository.mark_failed payment.id expected_processing_version
      expected_processing_status finished_at
    return (attempt, claimed)

/-- What follows the answer of the gateway. -/
def finalize (command : ProcessPaymentCommand) (payment : Payment) (result : GatewayResult) :
    Program PaymentProcessingResult := do
  let finished_at : Datetime ← await .now
  let (attempt, claimed) ← settle payment result finished_at
  if !claimed then
    .raise (.versionConflict payment.id)
  else
    SqlAlchemyAttemptRepository.update attempt
    let delivery_id : UUID ← await .uuid7
    SqlAlchemyWebhookDeliveryRepository.add
      (WebhookDelivery.create delivery_id payment.id
        (if result.success then "payment.succeeded" else "payment.failed") command.correlation_id
        finished_at)
    return ⟨if result.success then .SUCCEEDED else .FAILED, gateway_reference result⟩

/-- What follows the claim of the payment. -/
def charge (command : ProcessPaymentCommand) (payment : Payment) (started_at : Datetime) :
    Program PaymentProcessingResult := do
  let existing_attempts ← SqlAlchemyAttemptRepository.get_by_payment_id payment.id
  let payment := payment.hydrate_attempts existing_attempts
  let attempt_id : UUID ← await .uuid7
  let (payment, attempt) ← ofExcept (payment.begin_attempt attempt_id command.correlation_id started_at)
  SqlAlchemyAttemptRepository.add attempt
  await (.charge_call payment.id payment.money payment.idempotency_key.value)
  let result : GatewayResult ← await (.charge_return payment.id)
  finalize command payment result

/-- What is done with a pending payment. -/
def claim (command : ProcessPaymentCommand) (payment : Payment) : Program PaymentProcessingResult := do
  let started_at : Datetime ← await .now
  let expected_version := payment.version
  let expected_status := payment.status
  let payment ← ofExcept (payment.mark_processing started_at)
  let claimed ← SqlAlchemyPaymentRepository.begin_processing payment.id expected_version expected_status
  if !claimed then
    return ⟨.CLAIM_CONFLICT, none⟩
  else
    charge command payment started_at

def body (command : ProcessPaymentCommand) : Program PaymentProcessingResult := do
  match ← SqlAlchemyPaymentRepository.get command.payment_id with
  | none => return ⟨.NOT_FOUND, none⟩
  | some payment =>
      if payment.status.terminal then
        return ⟨.ALREADY_TERMINAL, none⟩
      else if payment.status ≠ .PENDING then
        return ⟨.NOT_PENDING, none⟩
      else
        claim command payment

def handle (command : ProcessPaymentCommand) : Program PaymentProcessingResult :=
  transactional true (body command)

end ProcessPaymentHandler

/-! ## Reading a payment -/

structure GetPaymentQuery where
  payment_id : UUID

namespace GetPaymentHandler

def body (query : GetPaymentQuery) : Program PaymentDTO := do
  match ← SqlAlchemyPaymentRepository.get query.payment_id with
  | none => .raise (.paymentNotFound query.payment_id)
  | some payment =>
      let attempts ← SqlAlchemyAttemptRepository.get_by_payment_id query.payment_id
      return PaymentDTO.from_payment payment (some attempts)

def handle (query : GetPaymentQuery) : Program PaymentDTO :=
  transactional false (body query)

end GetPaymentHandler

/-! ## Delivering webhooks -/

structure WebhookBatchResult where
  processed : Nat
  failures : Nat
  deriving DecidableEq, Repr

namespace DeliverDueWebhooksHandler

/-- The dictionary of `_load_payments`; a missing payment is stored as `none`. -/
abbrev LoadedPayments := List (UUID × Option Payment)

/-- Load each payment once, in the order of the deliveries. -/
def load_payments : List WebhookDelivery -> LoadedPayments -> Program LoadedPayments
  | [], payments => pure payments
  | delivery :: rest, payments =>
      if (payments.lookup delivery.payment_id).isSome then load_payments rest payments
      else do
        let payment ← SqlAlchemyPaymentRepository.get delivery.payment_id
        load_payments rest (payments ++ [(delivery.payment_id, payment)])

/-- The request of `send_one`, or nothing when the payment is missing. -/
def request (payments : LoadedPayments) (delivery : WebhookDelivery) : Option WebhookRequest :=
  (payments.lookup delivery.payment_id).join.map (fun payment => webhook_request payment delivery)

def send_all (deliveries : List WebhookDelivery) (payments : LoadedPayments) (concurrency : Int) :
    Program (List (WebhookDelivery × Option WebhookSendResult)) := do
  await (.send_all (deliveries.map (fun delivery => (delivery, request payments delivery))) concurrency)
  await .sent_all

/-- The delivery after one answered send. -/
def recorded (delivery : WebhookDelivery) (result : WebhookSendResult) (now : Datetime)
    (retry_policy : RetryPolicy) : Except Error WebhookDelivery :=
  if result.ok then delivery.mark_success now result.status_code result.body
  else delivery.record_failure now result.status_code result.body retry_policy

/-- Returns whether the send failed. -/
def record (delivery : WebhookDelivery) (result : WebhookSendResult) (retry_policy : RetryPolicy) :
    Program Bool := do
  let now : Datetime ← await .now
  let delivery ← ofExcept (recorded delivery result now retry_policy)
  SqlAlchemyWebhookDeliveryRepository.update delivery
  return !result.ok

/-- Returns the number of failures. -/
def record_all (retry_policy : RetryPolicy) :
    List (WebhookDelivery × Option WebhookSendResult) -> Program Nat
  | [] => pure 0
  | (_, none) :: rest => record_all retry_policy rest
  | (delivery, some result) :: rest => do
      let failed ← record delivery result retry_policy
      let failures ← record_all retry_policy rest
      return (if failed then 1 else 0) + failures

def body (batch_size : Int) (retry_policy : RetryPolicy) (concurrency : Int) :
    Program WebhookBatchResult := do
  let now : Datetime ← await .now
  let deliveries ← SqlAlchemyWebhookDeliveryRepository.claim_due batch_size now
  if deliveries.isEmpty then
    return ⟨0, 0⟩
  else
    let payments ← load_payments deliveries []
    let results ← send_all deliveries payments concurrency
    let failures ← record_all retry_policy results
    return ⟨deliveries.length, failures⟩

def handle (batch_size : Int) (retry_policy : RetryPolicy) (concurrency : Int) :
    Program WebhookBatchResult :=
  transactional true (body batch_size retry_policy concurrency)

end DeliverDueWebhooksHandler
end Application
end Payments
