import Payments.Infrastructure.Models

namespace Payments
namespace Infrastructure

open Domain

/-!
# The statements the repositories execute

Queries and updates are data, so that a step of the database can be inspected.
`condition` is the `WHERE` clause, `before` the `ORDER BY` clause and `values`
the `SET` clause of a statement.  Columns that a statement does not mention
keep their value.  `func.now()` is a parameter of `values`.
-/

inductive Query : TableName -> Type where
  | payment_by_id (payment_id : UUID) : Query .payments
  | payment_by_idempotency_key (idempotency_key : String) : Query .payments
  | attempts_by_payment_id (payment_id : UUID) : Query .payment_attempts
  | delivery_by_id (delivery_id : UUID) : Query .webhook_deliveries
  | due_deliveries (now : Datetime) : Query .webhook_deliveries
  | claimable_messages (now : Datetime) (max_attempts : Int) : Query .outbox_messages

/-- `next_retry_at IS NULL OR next_retry_at <= now`. -/
def retry_is_due (next_retry_at : Option Datetime) (now : Datetime) : Bool :=
  match next_retry_at with
  | none => true
  | some time => decide (time ≤ now)

def Query.condition : {name : TableName} -> Query name -> Row name -> Bool
  | _, .payment_by_id payment_id => fun row => decide (PaymentModel.id row = payment_id)
  | _, .payment_by_idempotency_key idempotency_key =>
      fun row => decide (PaymentModel.idempotency_key row = idempotency_key)
  | _, .attempts_by_payment_id payment_id =>
      fun row => decide (PaymentAttemptModel.payment_id row = payment_id)
  | _, .delivery_by_id delivery_id =>
      fun row => decide (WebhookDeliveryModel.id row = delivery_id)
  | _, .due_deliveries now =>
      fun row => decide (WebhookDeliveryModel.status row = .PENDING) &&
        retry_is_due (WebhookDeliveryModel.next_retry_at row) now
  | _, .claimable_messages now max_attempts =>
      fun row => decide (OutboxMessageModel.status row = .PENDING) &&
        (OutboxMessageModel.processed_at row).isNone &&
        decide ((OutboxMessageModel.attempts row : Int) < max_attempts) &&
        retry_is_due (OutboxMessageModel.next_retry_at row) now

/-- Whether the first row may come before the second one in the result. -/
def Query.before : {name : TableName} -> Query name -> Row name -> Row name -> Bool
  | _, .payment_by_id _ => fun _ _ => true
  | _, .payment_by_idempotency_key _ => fun _ _ => true
  | _, .attempts_by_payment_id _ =>
      fun left right =>
        decide (PaymentAttemptModel.created_at left < PaymentAttemptModel.created_at right) ||
        (decide (PaymentAttemptModel.created_at left = PaymentAttemptModel.created_at right) &&
          decide (PaymentAttemptModel.attempt_number left ≤ PaymentAttemptModel.attempt_number right))
  | _, .delivery_by_id _ => fun _ _ => true
  | _, .due_deliveries _ =>
      fun left right =>
        decide (WebhookDeliveryModel.created_at left ≤ WebhookDeliveryModel.created_at right)
  | _, .claimable_messages _ _ =>
      fun left right =>
        decide (OutboxMessageModel.created_at left < OutboxMessageModel.created_at right) ||
        (decide (OutboxMessageModel.created_at left = OutboxMessageModel.created_at right) &&
          decide (OutboxMessageModel.id left ≤ OutboxMessageModel.id right))

inductive Update : TableName -> Type where
  /-- `begin_processing`, `mark_succeeded` and `mark_failed`; the first does not
  mention `processed_at`. -/
  | payment_transition (payment_id : UUID) (expected_version : Nat) (expected_status : PaymentStatus)
      (target : PaymentStatus) (processed_at : Option Datetime) : Update .payments
  | attempt_progress (attempt : PaymentAttempt) : Update .payment_attempts
  | delivery_progress (delivery : WebhookDelivery) : Update .webhook_deliveries
  | release_to_dead (cutoff : Datetime) (max_attempts : Int) : Update .outbox_messages
  | release_to_pending (cutoff : Datetime) (max_attempts : Int) : Update .outbox_messages
  /-- The outer `UPDATE` of `claim_batch`; its subquery selects the rows. -/
  | claim (now : Datetime) (worker_id : UUID) : Update .outbox_messages
  | mark_processed (message_id worker_id : UUID) : Update .outbox_messages
  | mark_publish_failure (message_id worker_id : UUID) (max_attempts : Int)
      (next_retry_at : Option Datetime) : Update .outbox_messages
  | reap_exhausted (max_attempts : Int) : Update .outbox_messages

namespace Update

/-- `status = 'processing' AND claimed_at IS NOT NULL AND claimed_at < cutoff`. -/
def expired (row : OutboxMessageModel) (cutoff : Datetime) : Bool :=
  decide (row.status = .PROCESSING) && row.claimed_at.any (fun claimed_at => decide (claimed_at < cutoff))

/-- The row is claimed by this worker. -/
def owned (row : OutboxMessageModel) (message_id worker_id : UUID) : Bool :=
  decide (row.id = message_id) && decide (row.status = .PROCESSING) &&
    decide (row.claimed_by = some worker_id)

/-- `attempts >= max_attempts`. -/
def exceeded (row : OutboxMessageModel) (max_attempts : Int) : Bool :=
  decide (max_attempts ≤ (row.attempts : Int))

def condition : {name : TableName} -> Update name -> Row name -> Bool
  | _, .payment_transition payment_id expected_version expected_status _ _ =>
      fun row => decide (PaymentModel.id row = payment_id) &&
        decide (PaymentModel.status row = expected_status) &&
        decide (PaymentModel.version row = expected_version)
  | _, .attempt_progress attempt => fun row => decide (PaymentAttemptModel.id row = attempt.id)
  | _, .delivery_progress delivery => fun row => decide (WebhookDeliveryModel.id row = delivery.id)
  | _, .release_to_dead cutoff max_attempts => fun row => expired row cutoff && exceeded row max_attempts
  | _, .release_to_pending cutoff max_attempts =>
      fun row => expired row cutoff && !exceeded row max_attempts
  | _, .claim _ _ => fun _ => true
  | _, .mark_processed message_id worker_id => fun row => owned row message_id worker_id
  | _, .mark_publish_failure message_id worker_id _ _ => fun row => owned row message_id worker_id
  | _, .reap_exhausted max_attempts =>
      fun row => decide (OutboxMessageModel.status row = .PENDING) && exceeded row max_attempts

def values : {name : TableName} -> Update name -> Datetime -> Row name -> Row name
  | _, .payment_transition _ _ _ target processed_at, _ => fun (row : PaymentModel) =>
      { row with
        status := target
        version := row.version + 1
        processed_at := processed_at.orElse (fun _ => row.processed_at) }
  | _, .attempt_progress attempt, _ => fun (row : PaymentAttemptModel) =>
      { row with
        status := attempt.status
        error := attempt.error
        gateway_response := attempt.gateway_response
        updated_at := attempt.updated_at }
  | _, .delivery_progress delivery, _ => fun (row : WebhookDeliveryModel) =>
      { row with
        attempt := delivery.attempt
        status := delivery.status
        response_code := delivery.response_code
        response_body := delivery.response_body
        next_retry_at := delivery.next_retry_at
        updated_at := delivery.updated_at }
  | _, .release_to_dead _ _, now => fun (row : OutboxMessageModel) =>
      { row with
        status := .DEAD
        claimed_at := none
        claimed_by := none
        next_retry_at := none
        finished_at := some now }
  | _, .release_to_pending _ _, _ => fun (row : OutboxMessageModel) =>
      { row with status := .PENDING, claimed_at := none, claimed_by := none }
  | _, .claim now worker_id, _ => fun (row : OutboxMessageModel) =>
      { row with
        status := .PROCESSING
        claimed_at := some now
        claimed_by := some worker_id
        attempts := row.attempts + 1 }
  | _, .mark_processed _ _, now => fun (row : OutboxMessageModel) =>
      { row with
        processed_at := some now
        status := .PROCESSED
        claimed_at := none
        claimed_by := none
        finished_at := some now }
  | _, .mark_publish_failure _ _ max_attempts next_retry_at, now => fun (row : OutboxMessageModel) =>
      { row with
        status := if exceeded row max_attempts then .DEAD else .PENDING
        claimed_at := none
        claimed_by := none
        next_retry_at := if exceeded row max_attempts then none else next_retry_at
        finished_at := if exceeded row max_attempts then some now else none }
  | _, .reap_exhausted _, now => fun (row : OutboxMessageModel) =>
      { row with status := .DEAD, next_retry_at := none, finished_at := some now }

/-- No statement changes a primary key. -/
@[simp] theorem id_values {name : TableName} (statement : Update name) (now : Datetime)
    (row : Row name) : (statement.values now row).id = row.id := by
  cases statement <;> rfl

end Update

/-- `status IN ('processed', 'dead') AND finished_at < cutoff`. -/
def purgeable (cutoff : Datetime) (row : OutboxMessageModel) : Bool :=
  (decide (row.status = .PROCESSED) || decide (row.status = .DEAD)) &&
    row.finished_at.any (fun finished_at => decide (finished_at < cutoff))

end Infrastructure
end Payments
